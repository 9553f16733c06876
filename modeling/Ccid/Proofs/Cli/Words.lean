import Ccid.Cli.Arguments

/-!
Numbers among the words of a command line.

The decimal digits of a number begin with no dash, so they are never taken for a name, and with no
plus sign, so they are read as they stand.
-/

namespace Ccid

/-- A number is what its decimal digits denote. -/
theorem decimal?_repr (value : Nat) : decimal? value.repr.toList = some value := by
  -- There are digits, and nothing else.
  have digits : (Nat.toDigits 10 value).all Char.isDigit = true :=
    List.all_eq_true.mpr fun _ => Nat.isDigit_of_mem_toDigits (by decide) (by decide)
  rw [Nat.toList_repr]
  unfold decimal?
  split
  · rename_i empty
    exact absurd empty Nat.toDigits_ne_nil
  · rw [if_pos digits, Nat.ofDigitChars_ten_toDigits]

namespace Cli

/-- The text of a number begins with no sign. -/
theorem repr_unsigned (value : Nat) :
    ∃ digit rest, value.repr.toList = digit :: rest ∧ digit ≠ '-' ∧ digit ≠ '+' := by
  -- The text begins with a digit, and no sign is one.
  rw [Nat.toList_repr]
  cases shape : Nat.toDigits 10 value with
  | nil => exact absurd shape Nat.toDigits_ne_nil
  | cons digit rest =>
    have member : digit ∈ Nat.toDigits 10 value := shape ▸ List.mem_cons_self
    have isDigit : digit.isDigit := Nat.isDigit_of_mem_toDigits (by decide) (by decide) member
    refine ⟨digit, rest, rfl, ?_, ?_⟩ <;> rintro rfl <;> simp at isDigit

/-- The text of a number is neither a name nor letters. -/
theorem shape_repr (value : Nat) : Word.shape value.repr = .plain := by
  -- Every other shape begins with a dash.
  obtain ⟨digit, rest, text, undashed, _⟩ := repr_unsigned value
  unfold Word.shape
  rw [text]
  split <;> simp_all

/-- The text of a number is read as that number if the number is in bounds. -/
theorem unsigned?_repr (bound value : Nat) :
    unsigned? bound value.repr.toList = if value < bound then some value else none := by
  -- There is no plus sign to take away, so all of the text is digits.
  obtain ⟨digit, rest, text, _, unmarked⟩ := repr_unsigned value
  have unsigned : stripPlus value.repr.toList = value.repr.toList := by
    rw [text]
    unfold stripPlus
    split <;> simp_all
  rw [unsigned?, unsigned, decimal?_repr]
  rfl

/-- A command is chosen by its name. -/
theorem chosen?_name (command : Command) :
    Level.program.chosen? (Named.name command) = some (.command command) := by
  cases command <;> decide

/-- The deadline's name takes the word behind it, if that is no name, for the deadline. -/
theorem read_timeout {text : String} (plain : Word.shape text = .plain) (words : List String) :
    Level.program.read .initial ("--timeout-ms" :: text :: words) =
      Level.program.read { given := .nothing, held := some (.timeoutMillis, some text) } words := by
  -- The first word leaves a value due, and the second one is that value.
  have unchosen : Level.program.chosen? "--timeout-ms" = none := by decide
  have long : Word.shape "--timeout-ms" = .long "timeout-ms" none := by cbv
  have taken : Progress.initial.takeLong .program "timeout-ms" none =
      .ok { given := .nothing, held := some (.timeoutMillis, none) } := rfl
  rw [Level.read.eq_def]
  simp only [unchosen, long, taken, ite_self, Bind.bind, Except.bind]
  rw [Level.read.eq_def]
  simp only [plain, Progress.awaitsValue, Progress.takePlain, if_true, Bind.bind, Except.bind]

/-- Reading stops at the name of a command, unless a value is due. -/
theorem read_command {progress : Progress} (settled : progress.awaitsValue = false)
    (command : Command) (rest : List String) :
    Level.program.read progress (Named.name command :: rest) =
      .ok (progress, some (command, rest)) := by
  simp [Level.read, settled, chosen?_name]

/-- A deadline is taken over from the text of its milliseconds if they fit 64 bits. -/
theorem settle_timeout (millis : Nat) :
    Progress.settle { given := .nothing, held := some (.timeoutMillis, some millis.repr) } =
      if millis < UInt64.size then
        .ok { Given.nothing with timeoutMillis := some (UInt64.ofNat millis) }
      else .error .badValue := by
  -- Nothing was given before, so the deadline is not given twice.
  simp only [Progress.settle, Given.set, unsigned?_repr]
  split <;> rfl

/-- A deadline in front of a command changes the command line in its deadline alone. -/
theorem ofWords_timeout (millis : Nat) (command : Command) (rest : List String) :
    Invocation.ofWords ("--timeout-ms" :: millis.repr :: Named.name command :: rest) =
      (Invocation.ofWords (Named.name command :: rest)).bind fun invocation =>
        if millis < UInt64.size then
          .ok { invocation with timeoutMillis := UInt64.ofNat millis }
        else .error .badValue := by
  have untouched : Progress.initial.settle = .ok .nothing := rfl
  -- Whatever is wrong behind the command is told first, with the deadline or without.
  rw [Invocation.ofWords, Invocation.ofWords, read_timeout (shape_repr millis), read_command rfl,
    read_command rfl]
  simp only [Bind.bind, Except.bind, settle_timeout, untouched]
  cases (Level.command command).read .initial rest with
  | error => rfl
  | ok inner =>
    simp only
    cases inner.1.settle with
    | error => rfl
    | ok given =>
      simp only
      cases command.action given with
      | error => rfl
      | ok action =>
        simp only
        by_cases fits : millis < UInt64.size
        · simp only [if_pos fits]
          rfl
        · simp only [if_neg fits]
          rfl

end Cli

end Ccid
