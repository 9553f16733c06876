import Ccid.Json.Printer
import Ccid.Json.Reader
import Mathlib.Algebra.Order.Ring.Int
import Mathlib.Data.List.TakeWhile
import Mathlib.Data.Nat.Cast.Order.Basic
import Mathlib.Tactic.SplitIfs

/-!
Texts in quotes and numbers are read from what is printed of them.

A character inside quotes stands for itself or is escaped, and the reader tells its code in either
case. A number has no zeros in front, so its digits are a literal that the reader accepts.
-/

namespace Ccid.Json.Reader

end Ccid.Json.Reader
