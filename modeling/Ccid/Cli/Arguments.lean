import Ccid.Cli.Usage

/-!
Words read as a command line.

A value that is a word of its own is taken over only when the next parameter or switch comes, or
when the level ends. So what is wrong after a command is told before what is wrong with the last
value in front of it.
-/

namespace Ccid.Cli

/-- What the words of a level gave. -/
structure Given where
  vendor : Option UInt16
  product : Option UInt16
  timeoutMillis : Option UInt64
  slot : Option UInt8
  atrOpening : Option String
  json : Bool
  /-- How often more talk was asked for, up to 255 times. -/
  verbosity : UInt8
  /-- The word that a command works on. -/
  operand : Option String
  deriving DecidableEq, Repr

/-- Nothing given. -/
def Given.nothing : Given :=
  { vendor := none
    product := none
    timeoutMillis := none
    slot := none
    atrOpening := none
    json := false
    verbosity := 0
    operand := none }

/-- The number below a bound that decimal digits denote, perhaps after a plus sign. -/
def unsigned? (bound : Nat) (text : List Char) : Option Nat := do
  let value ← decimal? (stripPlus text)
  if value < bound then some value else none

/-- The slot that a text denotes; zero may carry a minus sign. -/
def slot? : List Char → Option Nat
  | '-' :: digits => do
    let value ← decimal? digits
    if value = 0 then some 0 else none
  | text => unsigned? UInt8.size text

/-- A field that is given for the first time. -/
def givenOnce {Value : Type} (present : Bool) (value : Option Value) :
    Except UsageError (Option Value) :=
  if present then .error .repeated
  else match value with
    | some value => .ok (some value)
    | none => .error .badValue

/-- Takes over the value of a parameter. -/
def Given.set (given : Given) (parameter : Parameter) (text : String) :
    Except UsageError Given := do
  match parameter with
  | .vendor =>
    let vendor ← givenOnce given.vendor.isSome (identifier text).toOption
    return { given with vendor }
  | .product =>
    let product ← givenOnce given.product.isSome (identifier text).toOption
    return { given with product }
  | .timeoutMillis =>
    let value := (unsigned? UInt64.size text.toList).map UInt64.ofNat
    let timeoutMillis ← givenOnce given.timeoutMillis.isSome value
    return { given with timeoutMillis }
  | .slot =>
    let slot ← givenOnce given.slot.isSome ((slot? text.toList).map UInt8.ofNat)
    return { given with slot }
  | .atrOpening =>
    let atrOpening ← givenOnce given.atrOpening.isSome (some text)
    return { given with atrOpening }

/-- What was given so far, and the parameter whose value is not taken over yet. -/
structure Progress where
  given : Given
  /-- A parameter, with its value once that word has come. -/
  held : Option (Parameter × Option String)
  deriving DecidableEq, Repr

namespace Progress

/-- No word read yet. -/
def initial : Progress :=
  { given := .nothing, held := none }

/-- Takes over the value that is held. -/
def settle (progress : Progress) : Except UsageError Given :=
  match progress.held with
  | none => .ok progress.given
  | some (_, none) => .error .missingValue
  | some (parameter, some text) => progress.given.set parameter text

/-- Whether the next word may be the value of a parameter. -/
def awaitsValue (progress : Progress) : Bool :=
  match progress.held with
  | some (_, none) => true
  | _ => false

/-- Throws a switch. -/
def turn (progress : Progress) (switch : Switch) : Except UsageError Progress := do
  let given ← progress.settle
  match switch with
  | .help => throw .helpRequested
  | .version => throw .versionRequested
  | .json =>
    if given.json then throw .repeated
    return { given := { given with json := true }, held := none }
  | .verbose =>
    let verbosity := if given.verbosity = 255 then 255 else given.verbosity + 1
    return { given := { given with verbosity }, held := none }

/-- Takes a long name, with the value written behind it if there is one. -/
def takeLong (progress : Progress) (level : Level) (name : String) (value : Option String) :
    Except UsageError Progress := do
  match level.parameter? name, level.switch? name with
  | some parameter, _ =>
    let given ← progress.settle
    match value with
    | some text => return { given := ← given.set parameter text, held := none }
    | none => return { given, held := some (parameter, none) }
  | none, some switch =>
    if value.isSome then throw .surplusValue
    progress.turn switch
  | none, none => throw .unknownWord

/-- Takes one letter of a word of letters. -/
def takeLetter (level : Level) (progress : Progress) (letter : Char) :
    Except UsageError Progress :=
  match level.switchOfLetter? letter with
  | some switch => progress.turn switch
  | none => .error .unknownWord

/-- Takes a word for the one that the command works on. -/
def takeOperand (progress : Progress) (level : Level) (word : String) :
    Except UsageError Progress := do
  match level with
  | .program => throw .unknownCommand
  | .command .transmit =>
    let given ← progress.settle
    if given.operand.isSome then throw .unknownWord
    return { given := { given with operand := some word }, held := none }
  | .command _ => throw .unknownWord

/-- Takes a word that is neither a name nor letters. -/
def takePlain (progress : Progress) (level : Level) (word : String) :
    Except UsageError Progress :=
  match progress.held with
  | some (parameter, none) => .ok { progress with held := some (parameter, some word) }
  | _ => progress.takeOperand level word

end Progress

/-- The shape of a word. -/
inductive Word where
  /-- The word after which no word is a name. -/
  | escape
  | long (name : String) (value : Option String)
  | letters (characters : List Char)
  | plain
  deriving DecidableEq, Repr

/-- The shape that a word has by the dashes it begins with. -/
def Word.shape (word : String) : Word :=
  match word.toList with
  | ['-', '-'] => .escape
  | '-' :: '-' :: rest =>
    let name := String.ofList (rest.takeWhile (· != '='))
    match rest.dropWhile (· != '=') with
    | [] => .long name none
    | _ :: value => .long name (some (String.ofList value))
  | '-' :: first :: rest => .letters (first :: rest)
  | _ => .plain

/-- What a word in the place of a command asks for. -/
inductive Chosen where
  | help
  | command (command : Command)
  deriving DecidableEq, Repr

/-- The word that asks for help, like a command. -/
def helpWord : String := "help"

/-- What a word means in the place of a command, which only the program itself has. -/
def Level.chosen? (level : Level) (word : String) : Option Chosen :=
  match level with
  | .program =>
    if word == helpWord then some .help else (Named.ofName? word).map .command
  | .command _ => none

/-- How a request for help ends: one command at most may be asked about. -/
def helpOutcome : List String → UsageError
  | [] => .helpRequested
  | [word] => if (Level.program.chosen? word).isSome then .helpRequested else .unknownCommand
  | _ => .unknownCommand

/-- Reads the words behind the escape, none of which is a name. -/
def Level.readEscaped (level : Level) (progress : Progress) :
    List String → Except UsageError Progress
  | [] => .ok progress
  | word :: rest =>
    if (level.chosen? word).isSome then .error .unknownWord
    else do
      let progress ← progress.takeOperand level word
      level.readEscaped progress rest

/-- Reads the words of a level up to its end or to a command, whose own words follow. -/
def Level.read (level : Level) (progress : Progress) :
    List String → Except UsageError (Progress × Option (Command × List String))
  | [] => .ok (progress, none)
  | word :: rest =>
    match if progress.awaitsValue then none else level.chosen? word with
    | some .help => .error (helpOutcome rest)
    | some (.command chosen) => .ok (progress, some (chosen, rest))
    | none =>
      match Word.shape word with
      | .escape => (level.readEscaped progress rest).map fun progress => (progress, none)
      | .long name value => do
        let progress ← progress.takeLong level name value
        level.read progress rest
      | .letters characters => do
        let progress ← characters.foldlM (Progress.takeLetter level) progress
        level.read progress rest
      | .plain => do
        let progress ← progress.takePlain level word
        level.read progress rest

/-- What a command line asks for. -/
inductive Action where
  | list
  | powerOn
  | powerOff
  | status
  | transmit (apdu : String)
  | check (atrOpening : String)
  deriving DecidableEq, Repr

/-- A command line that can be followed. -/
structure Invocation where
  vendor : UInt16
  product : UInt16
  timeoutMillis : UInt64
  slot : UInt8
  json : Bool
  verbosity : UInt8
  action : Action
  deriving DecidableEq, Repr

/-- The action of a command with what was given after it. -/
def Command.action (command : Command) (given : Given) : Except UsageError Action :=
  match command with
  | .list => .ok .list
  | .powerOn => .ok .powerOn
  | .powerOff => .ok .powerOff
  | .status => .ok .status
  | .transmit =>
    match given.operand with
    | some apdu => .ok (.transmit apdu)
    | none => .error .missingWord
  | .check => .ok (.check (given.atrOpening.getD "3B8C8001"))

/-- The command line that words make. -/
def Invocation.ofWords (words : List String) : Except UsageError Invocation := do
  let (progress, chosen) ← Level.program.read .initial words
  match chosen with
  | none =>
    let given ← progress.settle
    if given = .nothing then throw .nothingGiven else throw .missingCommand
  | some (command, rest) =>
    -- What follows the command is settled first.
    let (inner, _) ← (Level.command command).read .initial rest
    let action ← command.action (← inner.settle)
    let given ← progress.settle
    return {
      vendor := given.vendor.getD 0x072F
      product := given.product.getD 0x90CC
      timeoutMillis := given.timeoutMillis.getD 10000
      slot := given.slot.getD 0
      json := given.json
      verbosity := given.verbosity
      action }

end Ccid.Cli
