import Ccid.Cli.Identifier
import Ccid.Named

/-! What a command line may hold: its commands, its parameters with a value, and its switches. -/

namespace Ccid.Cli

/-- Why words make no command line, requests for help included. -/
inductive UsageError where
  /-- A parameter's value is not of its form. -/
  | badValue
  /-- A word has no place where it stands. -/
  | unknownWord
  /-- A word stands in the place of a command and is none. -/
  | unknownCommand
  /-- Switches or parameters are given, and no command. -/
  | missingCommand
  /-- Nothing is given. -/
  | nothingGiven
  /-- A command lacks a word that it needs. -/
  | missingWord
  /-- A parameter lacks its value. -/
  | missingValue
  /-- A parameter or switch is given twice. -/
  | repeated
  /-- A switch is given a value. -/
  | surplusValue
  | helpRequested
  | versionRequested
  deriving DecidableEq, Repr

/-- The exit code that an unusable command line ends with; a request for help is no failure. -/
def UsageError.exitCode : UsageError → UInt8
  | .helpRequested | .versionRequested => 0
  | _ => 2

/-- The commands. -/
inductive Command where
  | list
  | powerOn
  | powerOff
  | status
  | transmit
  | check
  deriving DecidableEq, Repr

instance : Named Command where
  all := [.list, .powerOn, .powerOff, .status, .transmit, .check]
  name
    | .list => "list"
    | .powerOn => "power-on"
    | .powerOff => "power-off"
    | .status => "status"
    | .transmit => "transmit"
    | .check => "check"
  find_name kind := by cases kind <;> decide

/-- What takes a value. -/
inductive Parameter where
  | vendor
  | product
  | timeoutMillis
  | slot
  /-- The octets that an Answer-To-Reset has to begin with. -/
  | atrOpening
  deriving DecidableEq, Repr

/-- What takes no value. -/
inductive Switch where
  | json
  | verbose
  | help
  | version
  deriving DecidableEq, Repr

/-- The long name of a parameter. -/
def Parameter.long : Parameter → String
  | .vendor => "vid"
  | .product => "pid"
  | .timeoutMillis => "timeout-ms"
  | .slot => "slot"
  | .atrOpening => "expect-atr-prefix"

/-- The long name of a switch. -/
def Switch.long : Switch → String
  | .json => "json"
  | .verbose => "verbose"
  | .help => "help"
  | .version => "version"

/-- The letter of a switch, if it has one. -/
def Switch.letter? : Switch → Option Char
  | .json => none
  | .verbose => some 'v'
  | .help => some 'h'
  | .version => some 'V'

/-- Where words stand: before the command, or after it. -/
inductive Level where
  | program
  | command (command : Command)
  deriving DecidableEq, Repr

namespace Level

/-- The parameters that may be given at a level. -/
def parameters : Level → List Parameter
  | .program => [.vendor, .product, .timeoutMillis, .slot]
  | .command .check => [.atrOpening]
  | .command _ => []

/-- The switches that may be given at a level. -/
def switches : Level → List Switch
  | .program => [.json, .verbose, .help, .version]
  | .command _ => [.help]

/-- The parameter that a long name stands for at a level. -/
def parameter? (level : Level) (name : String) : Option Parameter :=
  level.parameters.find? fun parameter => parameter.long == name

/-- The switch that a long name stands for at a level. -/
def switch? (level : Level) (name : String) : Option Switch :=
  level.switches.find? fun switch => switch.long == name

/-- The switch that a letter stands for at a level. -/
def switchOfLetter? (level : Level) (letter : Char) : Option Switch :=
  level.switches.find? fun switch => switch.letter? == some letter

end Level

end Ccid.Cli
