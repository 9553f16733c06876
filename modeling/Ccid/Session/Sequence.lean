/-! The number that ties an answer to its command. -/

namespace Ccid

/-- Issues the numbers 0, 1, …, 255, 0, … for one session. -/
structure Sequence where
  /-- The number that the next command carries. -/
  upcoming : UInt8
  deriving DecidableEq, Repr

namespace Sequence

/-- No number issued yet. -/
def initial : Sequence :=
  ⟨0⟩

/-- The number issued last, or 255 when none was. -/
def current (sequence : Sequence) : UInt8 :=
  sequence.upcoming - 1

/-- The sequence after one more number is issued. -/
def advance (sequence : Sequence) : Sequence :=
  ⟨sequence.upcoming + 1⟩

/-- The number issued last is the one that was upcoming before. -/
@[simp] theorem current_advance (sequence : Sequence) :
    sequence.advance.current = sequence.upcoming := by
  -- Adding one and taking one away cancel, around the end of the octet as well.
  simp [advance, current]

end Sequence

end Ccid
