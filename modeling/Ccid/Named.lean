/-! Kinds that are written by name, and the kind that a name stands for. -/

namespace Ccid

/-- A kind with finitely many members, each with a name of its own. -/
class Named (Kind : Type) where
  /-- Every member. -/
  all : List Kind
  /-- The name a member is written as. -/
  name : Kind → String
  /-- Looking for a member's name among all members finds that member. -/
  find_name (kind : Kind) : all.find? (fun member => name member == name kind) = some kind

namespace Named

variable {Kind : Type} [Named Kind]

/-- The member that a name stands for. -/
def ofName? (text : String) : Option Kind :=
  (all : List Kind).find? (fun member => name member == text)

/-- A member's name stands for that member. -/
@[simp] theorem ofName?_name (kind : Kind) : ofName? (name kind) = some kind :=
  find_name kind

/-- A name that stands for a member is that member's. -/
theorem name_of_ofName? {text : String} {kind : Kind} (found : ofName? text = some kind) :
    name kind = text := by
  -- A search only ever finds what passes its test.
  simpa using List.find?_some found

/-- Members with one name are one member. -/
theorem name_injective {first second : Kind} (same : name first = name second) :
    first = second := by
  -- Both are what their common name stands for.
  have found := ofName?_name first
  rw [same, ofName?_name] at found
  exact (Option.some.inj found).symm

end Named

end Ccid
