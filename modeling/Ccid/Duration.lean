import Ccid.Numeral

/-! Spans of time in whole seconds and nanoseconds. -/

namespace Ccid

/-- A span of time. -/
structure Duration where
  /-- The whole seconds. -/
  seconds : UInt64
  /-- The nanoseconds beyond them. -/
  nanos : UInt32
  /-- A full second of nanoseconds is counted as a second. -/
  nanos_lt : nanos.toNat < 1000000000 := by decide
  deriving DecidableEq

namespace Duration

/-- The span of a count of seconds and any 32-bit count of nanoseconds, if its seconds fit. -/
def ofParts? (seconds : UInt64) (nanos : UInt32) : Option Duration :=
  let carried := seconds.toNat + nanos.toNat / 1000000000
  if carried < UInt64.size then
    some
      { seconds := UInt64.ofNat carried
        nanos := UInt32.ofNat (nanos.toNat % 1000000000)
        nanos_lt := by
          have small : nanos.toNat % 1000000000 < 1000000000 := Nat.mod_lt _ (by decide)
          rw [UInt32.toNat_ofNat', Nat.mod_eq_of_lt (by omega)]
          exact small }
  else none

/-- The span of a count of milliseconds. -/
def ofMillis (millis : UInt64) : Duration :=
  { seconds := UInt64.ofNat (millis.toNat / 1000)
    nanos := UInt32.ofNat (millis.toNat % 1000 * 1000000)
    nanos_lt := by
      have small : millis.toNat % 1000 < 1000 := Nat.mod_lt _ (by decide)
      rw [UInt32.toNat_ofNat', Nat.mod_eq_of_lt (by omega)]
      omega }

/-- The whole milliseconds of a span. -/
def millis (span : Duration) : Nat :=
  span.seconds.toNat * 1000 + span.nanos.toNat / 1000000

/-- A number with a fraction of the given places, whose trailing zeros are left out. -/
def fractional (whole fraction places : Nat) : String :=
  let kept := ((zeroPadded places fraction).toList.reverse.dropWhile (· == '0')).reverse
  whole.repr ++ (if kept.isEmpty then "" else "." ++ String.ofList kept)

/-- A span in the largest unit, of seconds down to nanoseconds, that it reaches. -/
def text (span : Duration) : String :=
  let nanos := span.nanos.toNat
  if span.seconds ≠ 0 then fractional span.seconds.toNat nanos 9 ++ "s"
  else if 1000000 ≤ nanos then fractional (nanos / 1000000) (nanos % 1000000) 6 ++ "ms"
  else if 1000 ≤ nanos then fractional (nanos / 1000) (nanos % 1000) 3 ++ "µs"
  else nanos.repr ++ "ns"

/-- A span in seconds with all nine places written. -/
def fixedText (span : Duration) : String :=
  span.seconds.toNat.repr ++ "." ++ zeroPadded 9 span.nanos.toNat ++ "s"

end Duration

end Ccid
