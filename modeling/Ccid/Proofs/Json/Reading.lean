import Ccid.Json.Reader
import Ccid.Proofs.Json.Forms
import Mathlib.Logic.Basic

/-!
A JSON text denotes proper values only.

Of several members with one name the reader keeps the last, so that no object it reads has a name
twice.
-/

namespace Ccid

namespace Json

namespace Reader

/-- A number is proper, whether it is whole or kept as it is written. -/
theorem proper_of_number? {literal : List Char} {value : Json}
    (read : number? literal = some value) : value.Proper := by
  unfold number? at read
  obtain ⟨⟨digits, afterDigits⟩, _, read⟩ := Option.bind_eq_some_iff.mp read
  dsimp only at read
  split at read
  · cases read
  · obtain ⟨_, _, read⟩ := Option.bind_eq_some_iff.mp read
    obtain ⟨_, _, read⟩ := Option.bind_eq_some_iff.mp read
    split at read
    · cases read
    · -- A whole number that fits, and any other one.
      rcases ite_eq_iff.mp read with ⟨_, made⟩ | ⟨_, made⟩
      · cases made
        exact .real _
      · cases made
        exact .int _

/-- Members with one more before them have different names, if they had so without it. -/
theorem distinct_consMember {members : List (String × Json)}
    (distinct : (members.map Prod.fst).Nodup) (name : String) (value : Json) :
    ((consMember name value members).map Prod.fst).Nodup := by
  unfold consMember
  split
  · exact distinct
  · rename_i absent
    refine List.nodup_cons.mpr ⟨?_, distinct⟩
    simpa using absent

/-- Members with one more before them have no others. -/
theorem mem_consMember {name : String} {value : Json} {members : List (String × Json)}
    {member : String × Json} (among : member ∈ consMember name value members) :
    member = (name, value) ∨ member ∈ members := by
  unfold consMember at among
  split at among
  · exact .inr among
  · exact List.mem_cons.mp among

/-- What is read in some number of turns is proper. -/
structure ProperIn (turns : Nat) : Prop where
  value : ∀ text value remaining, value? turns text = some (value, remaining) → value.Proper
  items : ∀ text items remaining, items? turns text = some (items, remaining) →
    ∀ item ∈ items, item.Proper
  members : ∀ text members remaining, members? turns text = some (members, remaining) →
    (members.map Prod.fst).Nodup ∧ ∀ member ∈ members, member.2.Proper

/-- A value that takes one more turn than its parts is proper. -/
theorem ProperIn.value_succ {turns : Nat} (parts : ProperIn turns) {text : List Char}
    {value : Json} {remaining : List Char}
    (read : value? (turns + 1) text = some (value, remaining)) : value.Proper := by
  unfold value? at read
  split at read
  · cases read
  · split at read
    · -- A text in quotes.
      obtain ⟨_, _, made⟩ := Option.bind_eq_some_iff.mp read
      cases made
      exact .str _
    · split at read
      · -- An array, which may be empty.
        split at read
        · cases read
          exact .arr (by simp)
        · obtain ⟨⟨items, _⟩, more, made⟩ := Option.bind_eq_some_iff.mp read
          cases made
          exact .arr (parts.items _ _ _ more)
      · split at read
        · -- An object, which may be empty.
          split at read
          · cases read
            exact .obj (by simp) (by simp)
          · obtain ⟨⟨members, _⟩, more, made⟩ := Option.bind_eq_some_iff.mp read
            cases made
            obtain ⟨distinct, each⟩ := parts.members _ _ _ more
            exact .obj distinct each
        · -- One of three words, or else a number.
          split at read
          · obtain ⟨_, _, made⟩ := Option.map_eq_some_iff.mp read
            cases made
            exact .bool true
          · split at read
            · obtain ⟨_, _, made⟩ := Option.map_eq_some_iff.mp read
              cases made
              exact .bool false
            · split at read
              · obtain ⟨_, _, made⟩ := Option.map_eq_some_iff.mp read
                cases made
                exact .null
              · obtain ⟨_, number, made⟩ := Option.bind_eq_some_iff.mp read
                cases made
                exact proper_of_number? number

/-- Items that take one more turn than their parts are proper. -/
theorem ProperIn.items_succ {turns : Nat} (parts : ProperIn turns) {text : List Char}
    {items : List Json} {remaining : List Char}
    (read : items? (turns + 1) text = some (items, remaining)) : ∀ item ∈ items, item.Proper := by
  unfold items? at read
  obtain ⟨⟨item, _⟩, first, read⟩ := Option.bind_eq_some_iff.mp read
  have proper := parts.value _ _ _ first
  dsimp only at read
  split at read
  · cases read
    simpa using proper
  · obtain ⟨⟨others, _⟩, more, made⟩ := Option.bind_eq_some_iff.mp read
    cases made
    exact List.forall_mem_cons.mpr ⟨proper, parts.items _ _ _ more⟩
  · cases read

/-- Members that take one more turn than their parts are proper and have different names. -/
theorem ProperIn.members_succ {turns : Nat} (parts : ProperIn turns) {text : List Char}
    {members : List (String × Json)} {remaining : List Char}
    (read : members? (turns + 1) text = some (members, remaining)) :
    (members.map Prod.fst).Nodup ∧ ∀ member ∈ members, member.2.Proper := by
  unfold members? at read
  split at read
  · obtain ⟨⟨name, _⟩, _, read⟩ := Option.bind_eq_some_iff.mp read
    dsimp only at read
    split at read
    · obtain ⟨⟨value, _⟩, first, read⟩ := Option.bind_eq_some_iff.mp read
      have proper := parts.value _ _ _ first
      dsimp only at read
      split at read
      · cases read
        exact ⟨by simp, by simpa using proper⟩
      · obtain ⟨⟨others, _⟩, more, made⟩ := Option.bind_eq_some_iff.mp read
        cases made
        obtain ⟨distinct, each⟩ := parts.members _ _ _ more
        refine ⟨distinct_consMember distinct _ _, fun member among => ?_⟩
        rcases mem_consMember among with rfl | among
        · exact proper
        · exact each member among
      · cases read
    · cases read
  · cases read

/-- Whatever the number of turns, what is read is proper. -/
theorem properIn (turns : Nat) : ProperIn turns := by
  induction turns with
  | zero =>
    -- Nothing is read in no turns.
    constructor <;> intro _ _ _ read <;> cases read
  | succ turns parts =>
    exact ⟨fun _ _ _ => parts.value_succ, fun _ _ _ => parts.items_succ,
      fun _ _ _ => parts.members_succ⟩

end Reader

/-- The value that a text denotes is proper. -/
theorem proper_of_ofText? {text : String} {value : Json} (read : ofText? text = some value) :
    value.Proper := by
  unfold ofText? at read
  obtain ⟨⟨other, _⟩, read, made⟩ := Option.bind_eq_some_iff.mp read
  dsimp only at made
  split at made
  · cases made
    exact (Reader.properIn _).value _ _ _ read
  · cases made

end Json

end Ccid
