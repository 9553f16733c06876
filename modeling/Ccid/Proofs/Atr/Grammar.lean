import Ccid.Atr

/-!
The structure of an Answer-To-Reset, said without the walk that reads it.

An octet announces a group of interface octets in its high half. The format octet announces the
first group, and the TD of every group the next one; a group without a TD is the last. Such a chain
of groups, the historical octets and a tail make up an Answer-To-Reset.
-/

namespace Ccid

namespace Atr

/-- The interface octets that one octet announces, each of them present or not. -/
structure Group where
  ta : Option UInt8
  tb : Option UInt8
  tc : Option UInt8
  td : Option UInt8
  deriving DecidableEq

/-- The octets of a group that come before its TD. -/
def Group.leading (group : Group) : Octets :=
  group.ta.toList ++ group.tb.toList ++ group.tc.toList

/-- The octets of a group in their order. -/
def Group.octets (group : Group) : Octets :=
  group.leading ++ group.td.toList

/-- An octet announces what a group has: the bits of its high half are set for just these. -/
structure Announces (octet : UInt8) (group : Group) : Prop where
  ta : octet.toNat.testBit 4 = group.ta.isSome
  tb : octet.toNat.testBit 5 = group.tb.isSome
  tc : octet.toNat.testBit 6 = group.tc.isSome
  td : octet.toNat.testBit 7 = group.td.isSome

/-- Groups that follow an octet, each with a TD; the last TD is left to announce more. -/
inductive Linked : UInt8 → List Group → UInt8 → Prop
  | nil {octet : UInt8} : Linked octet [] octet
  | cons {octet td final : UInt8} {group : Group} {groups : List Group} :
    Announces octet group → group.td = some td → Linked td groups final →
    Linked octet (group :: groups) final

/-- An Answer-To-Reset as far as its last TD. -/
structure Opening where
  initial : UInt8
  format : UInt8
  /-- The groups that have a TD. -/
  linked : List Group
  /-- The last TD, or the format octet where there is none. -/
  final : UInt8
  chain : Linked format linked final
  /-- The last TD announces no other one. -/
  ends : final.toNat.testBit 7 = false

/-- The octets as far as the last TD. -/
def Opening.octets (opening : Opening) : Octets :=
  opening.initial :: opening.format :: opening.linked.flatMap Group.octets

/-- The protocols that the TDs name, each where it is named first; T=0 where there is no TD. -/
def Opening.protocols (opening : Opening) : List UInt8 :=
  match opening.linked.filterMap Group.td with
  | [] => [0]
  | tds => (tds.map (· % 16)).eraseDups

/-- An Answer-To-Reset in full. -/
structure Form extends Opening where
  /-- The group without a TD. -/
  last : Group
  historical : Octets
  /-- What comes after the historical octets, such as a check octet. -/
  tail : Octets
  announces : Announces final last
  counted : historical.length = format.toNat % 16

/-- The octets of an Answer-To-Reset. -/
def Form.octets (form : Form) : Octets :=
  form.toOpening.octets ++ (form.last.octets ++ form.historical ++ form.tail)

/-- The group after the last TD has none. -/
theorem Form.last_td (form : Form) : form.last.td = none := by
  have absent := form.announces.td
  rw [form.ends] at absent
  simpa using absent.symm

/-- How many octets an octet announces before a TD. -/
theorem skipped_announced (octet : UInt8) :
    skipped (announced octet) = (octet.toNat.testBit 4).toNat + (octet.toNat.testBit 5).toNat
      + (octet.toNat.testBit 6).toNat := by
  -- The bits of the high half are the octet's own, four places up.
  simp only [skipped, announced, Nat.toNat_testBit]
  omega

/-- Whether an octet announces a TD. -/
theorem continues_announced (octet : UInt8) :
    continues (announced octet) = octet.toNat.testBit 7 := by
  rw [continues, announced, Nat.testBit_eq_decide_div_mod_eq, Nat.div_div_eq_div_mul]
  rfl

/-- An optional octet takes one place where it is present. -/
theorem length_optional (octet : Option UInt8) : octet.toList.length = octet.isSome.toNat := by
  cases octet <;> rfl

/-- What an octet announces before a TD is what its group has before one. -/
theorem Announces.length_leading {octet : UInt8} {group : Group}
    (announces : Announces octet group) :
    group.leading.length = skipped (announced octet) := by
  rw [skipped_announced, announces.ta, announces.tb, announces.tc]
  simp only [Group.leading, List.length_append, length_optional]

/-- Octets of which the first may be an optional one split into it and the others. -/
theorem exists_optional (present : Bool) {octets : Octets} {count : Nat}
    (length : octets.length = present.toNat + count) :
    ∃ (first : Option UInt8) (others : Octets),
      first.isSome = present ∧ octets = first.toList ++ others ∧ others.length = count := by
  cases present with
  | false => exact ⟨none, octets, rfl, rfl, by simpa using length⟩
  | true =>
    cases octets with
    | nil => simp at length; omega
    | cons octet others => exact ⟨some octet, others, rfl, rfl, by simp at length; omega⟩

/-- As many octets as an octet announces make up a group that it announces. -/
theorem exists_group {octet : UInt8} {leading : Octets}
    (count : leading.length = skipped (announced octet)) (td : Option UInt8)
    (continued : octet.toNat.testBit 7 = td.isSome) :
    ∃ group, Announces octet group ∧ group.octets = leading ++ td.toList ∧ group.td = td := by
  -- The three octets before a TD are taken off one by one, each where its bit is set.
  rw [skipped_announced, Nat.add_assoc] at count
  obtain ⟨ta, afterTa, hasTa, splitTa, two⟩ := exists_optional _ count
  obtain ⟨tb, afterTb, hasTb, splitTb, one⟩ := exists_optional _ two
  obtain ⟨tc, afterTc, hasTc, splitTc, zero⟩ :=
    exists_optional _ (one.trans (Nat.add_zero _).symm)
  have none : afterTc = [] := List.eq_nil_of_length_eq_zero zero
  refine ⟨⟨ta, tb, tc, td⟩, ⟨hasTa.symm, hasTb.symm, hasTc.symm, continued⟩, ?_, rfl⟩
  simp [Group.octets, Group.leading, splitTa, splitTb, splitTc, none]

/-- A chain of groups after a TD continues one after the octet that announces the TD. -/
theorem linked_cons {octet td final : UInt8} {groups : List Group} {leading : Octets}
    (continued : continues (announced octet) = true)
    (count : leading.length = skipped (announced octet)) (linked : Linked td groups final) :
    ∃ group, Linked octet (group :: groups) final ∧ group.octets = leading ++ [td] := by
  rw [continues_announced] at continued
  obtain ⟨group, announces, octets, next⟩ := exists_group count (some td) continued
  exact ⟨group, .cons announces next linked, octets⟩

end Atr

end Ccid
