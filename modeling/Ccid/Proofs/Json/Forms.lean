import Ccid.Json.Basic

/-!
The forms of values in JSON, said without the readers.

A number and an octet string have one form, and a named kind has two. A record is an object, whose
members may stand in any order, or an array with the members' values in the order of the fields.
Each reader accepts just the forms of its kind of value.
-/

namespace Ccid

namespace Json

/-- A value of which every object names each of its members once. -/
inductive Proper : Json → Prop
  | null : Proper .null
  | bool (value : Bool) : Proper (.bool value)
  | int (value : Int) : Proper (.int value)
  | real (literal : String) : Proper (.real literal)
  | str (text : String) : Proper (.str text)
  | arr {items : List Json} : (∀ item ∈ items, Proper item) → Proper (.arr items)
  | obj {members : List (String × Json)} : (members.map Prod.fst).Nodup →
    (∀ member ∈ members, Proper member.2) → Proper (.obj members)

/-- A value that is the name of a kind, or an object with this name for nothing but null. -/
inductive Names {Kind : Type} [Named Kind] : Json → Kind → Prop
  | text (kind : Kind) : Names (.str (Named.name kind)) kind
  | object (kind : Kind) : Names (.obj [(Named.name kind, .null)]) kind

/-- The members that a value has for the fields of a record. -/
inductive Gives (fields : List String) : Json → List (String × Json) → Prop
  /-- An object has its own members, whatever their names and their order. -/
  | byName (members : List (String × Json)) : Gives fields (.obj members) members
  /-- An array has a member for each field, in their order, until it ends. -/
  | byPosition {items : List Json} : items.length ≤ fields.length →
    Gives fields (.arr items) (fields.zip items)

/-- Members that have a form of a value under a name, or nothing under this name. -/
def Carries {Value : Type} (form : Json → Value → Prop) (members : List (String × Json))
    (name : String) : Option Value → Prop
  | some value => ∃ json, (name, json) ∈ members ∧ form json value
  | none => ∀ json, (name, json) ∉ members

/-- The numbers below a bound are read from their one form. -/
theorem natBelow?_eq_some_iff {bound number : Nat} {value : Json} :
    value.natBelow? bound = some number ↔ value = ofNat number ∧ number < bound := by
  constructor
  · intro read
    unfold natBelow? at read
    split at read
    · split at read
      · cases read
        exact ⟨rfl, ‹_›⟩
      · cases read
    · cases read
  · rintro ⟨rfl, small⟩
    rw [natBelow?_ofNat, if_pos small]

section Words

variable {Word : Type} {size : Nat} {make : Nat → Word} {count : Word → Nat}

/-- Words of some size are read from the one form of their number. -/
theorem map_natBelow?_eq_some_iff (small : ∀ word, count word < size)
    (make_count : ∀ word, make (count word) = word)
    (count_make : ∀ number < size, count (make number) = number) {value : Json} {word : Word} :
    (value.natBelow? size).map make = some word ↔ value = ofNat (count word) := by
  rw [Option.map_eq_some_iff]
  constructor
  · rintro ⟨number, read, rfl⟩
    -- The number that was read fits the word, so the word counts it and nothing else.
    obtain ⟨rfl, fits⟩ := natBelow?_eq_some_iff.mp read
    rw [count_make number fits]
  · rintro rfl
    exact ⟨count word, natBelow?_eq_some_iff.mpr ⟨rfl, small word⟩, make_count word⟩

end Words

/-- An octet is read from the form of its number. -/
theorem uint8?_eq_some_iff {value : Json} {word : UInt8} :
    value.uint8? = some word ↔ value = ofNat word.toNat :=
  map_natBelow?_eq_some_iff UInt8.toNat_lt (fun _ => UInt8.ofNat_toNat)
    (fun _ => UInt8.toNat_ofNat_of_lt')

/-- A 16-bit number is read from its form. -/
theorem uint16?_eq_some_iff {value : Json} {word : UInt16} :
    value.uint16? = some word ↔ value = ofNat word.toNat :=
  map_natBelow?_eq_some_iff UInt16.toNat_lt (fun _ => UInt16.ofNat_toNat)
    (fun _ => UInt16.toNat_ofNat_of_lt')

/-- A 32-bit number is read from its form. -/
theorem uint32?_eq_some_iff {value : Json} {word : UInt32} :
    value.uint32? = some word ↔ value = ofNat word.toNat :=
  map_natBelow?_eq_some_iff UInt32.toNat_lt (fun _ => UInt32.ofNat_toNat)
    (fun _ => UInt32.toNat_ofNat_of_lt')

/-- A 64-bit number is read from its form. -/
theorem uint64?_eq_some_iff {value : Json} {word : UInt64} :
    value.uint64? = some word ↔ value = ofNat word.toNat :=
  map_natBelow?_eq_some_iff UInt64.toNat_lt (fun _ => UInt64.ofNat_toNat)
    (fun _ => UInt64.toNat_ofNat_of_lt')

/-- Octets are read one by one from the forms of their numbers. -/
theorem mapM_uint8?_eq_some_iff {items : List Json} {octets : Octets} :
    items.mapM uint8? = some octets ↔ items = octets.map fun octet => ofNat octet.toNat := by
  induction items generalizing octets with
  | nil => cases octets <;> simp
  | cons item rest ih =>
    -- The first item is the first octet's, and the others are those of the other octets.
    simp only [List.mapM_cons, Option.bind_eq_bind, Option.bind_eq_some_iff, uint8?_eq_some_iff, ih]
    cases octets with
    | nil => simp
    | cons octet others =>
      constructor
      · rintro ⟨_, rfl, _, rfl, same⟩
        cases same
        rfl
      · intro same
        obtain ⟨rfl, rfl⟩ := List.cons.inj same
        exact ⟨octet, rfl, others, rfl, rfl⟩

/-- An octet string is read from the array of its octets' numbers. -/
theorem octets?_eq_some_iff {value : Json} {octets : Octets} :
    value.octets? = some octets ↔ value = ofOctets octets := by
  constructor
  · intro read
    obtain ⟨items, array, each⟩ := Option.bind_eq_some_iff.mp read
    rw [mapM_uint8?_eq_some_iff] at each
    -- Only an array has items.
    cases value with
    | arr list =>
      cases array
      rw [each, ofOctets]
    | _ => cases array
  · rintro rfl
    exact octets?_ofOctets octets

/-- A named kind is read from its two forms. -/
theorem named?_eq_some_iff {Kind : Type} [Named Kind] {value : Json} {kind : Kind} :
    named? value = some kind ↔ Names value kind := by
  constructor
  · intro read
    unfold named? at read
    -- A text, an object for nothing but null, or something else.
    split at read
    · rw [← Named.name_of_ofName? read]
      exact .text kind
    · rw [← Named.name_of_ofName? read]
      exact .object kind
    · cases read
  · rintro (_ | _) <;> simp [named?]

/-- The members of a record are read from the forms of a record. -/
theorem record?_eq_some_iff {fields : List String} {value : Json}
    {members : List (String × Json)} :
    value.record? fields = some members ↔ Gives fields value members := by
  constructor
  · intro read
    unfold record? at read
    -- An object, an array which may be too long, or something else.
    split at read
    · cases read
      exact .byName members
    · split at read
      · cases read
        exact .byPosition ‹_›
      · cases read
    · cases read
  · rintro (_ | few)
    · rfl
    · rw [record?, if_pos few]

/-- The members by position are named by the fields, as far as there are items. -/
theorem names_zip (fields : List String) (items : List Json) :
    (fields.zip items).map Prod.fst = fields.take items.length := by
  induction fields generalizing items with
  | nil => simp
  | cons field rest ih => cases items <;> simp [ih]

/-- The members that a proper value has for different fields have different names. -/
theorem Gives.distinct {fields : List String} {value : Json} {members : List (String × Json)}
    (gives : Gives fields value members) (different : fields.Nodup) (proper : value.Proper) :
    (members.map Prod.fst).Nodup := by
  cases gives with
  | byName =>
    cases proper with
    | obj distinct _ => exact distinct
  | byPosition few =>
    -- The names are the first ones of the fields.
    rw [names_zip]
    exact different.sublist (List.take_sublist _ _)

/-- The value of a member of a proper record is proper. -/
theorem Gives.proper {fields : List String} {value : Json} {members : List (String × Json)}
    (gives : Gives fields value members) (proper : value.Proper) :
    ∀ member ∈ members, member.2.Proper := by
  cases gives with
  | byName =>
    cases proper with
    | obj _ each => exact each
  | byPosition =>
    cases proper with
    | arr each =>
      rintro ⟨name, json⟩ member
      exact each json (List.of_mem_zip member).2

/-- Members carry under a name whatever they do in another form that the first one implies. -/
theorem Carries.imp {Value : Type} {form other : Json → Value → Prop}
    {members : List (String × Json)} {name : String} {carried : Option Value}
    (carries : Carries form members name carried)
    (implied : ∀ json value, (name, json) ∈ members → form json value → other json value) :
    Carries other members name carried := by
  cases carried with
  | none => exact carries
  | some value =>
    obtain ⟨json, member, formed⟩ := carries
    exact ⟨json, member, implied json value member formed⟩

section Members

variable {Value : Type} {members : List (String × Json)} {name : String}

/-- Among different names, a name is looked up as its own member. -/
theorem lookup_eq_some_iff (distinct : (members.map Prod.fst).Nodup) {json : Json} :
    members.lookup name = some json ↔ (name, json) ∈ members := by
  induction members with
  | nil => simp
  | cons member rest ih =>
    obtain ⟨first, value⟩ := member
    obtain ⟨absent, others⟩ := List.nodup_cons.mp distinct
    by_cases same : name = first
    · -- No later member has the name of the first one.
      subst same
      have later : (name, json) ∉ rest := fun found =>
        absent (List.mem_map.mpr ⟨_, found, rfl⟩)
      simp [later, eq_comm]
    · have differs : (name == first) = false := beq_eq_false_iff_ne.mpr same
      simp [List.lookup_cons, differs, same, ih others]

/-- A name is looked up in vain exactly if no member has it. -/
theorem lookup_eq_none_iff : members.lookup name = none ↔ ∀ json, (name, json) ∉ members := by
  rw [List.lookup_eq_none_iff]
  constructor
  · intro other json found
    simpa using other _ found
  · rintro absent ⟨first, json⟩ found
    simp only [bne_iff_ne]
    rintro rfl
    exact absent json found

/-- A field that has to be there is read from a member with its name. -/
theorem field?_eq_some_iff (distinct : (members.map Prod.fst).Nodup) {read : Json → Option Value}
    {value : Value} :
    field? members name read = some value ↔
      ∃ json, (name, json) ∈ members ∧ read json = some value := by
  simp only [field?, Option.bind_eq_some_iff, lookup_eq_some_iff distinct]

/-- A field that may be missing is read from a member with its name, if there is one. -/
theorem fieldOr?_eq_some_iff (distinct : (members.map Prod.fst).Nodup)
    {read : Json → Option Value} {absent value : Value} :
    fieldOr? members name read absent = some value ↔
      ∃ carried, Carries (fun json value => read json = some value) members name carried ∧
        value = carried.getD absent := by
  unfold fieldOr?
  cases found : members.lookup name with
  | none =>
    -- Nothing is carried, and the value is the one for a missing member.
    have missing := lookup_eq_none_iff.mp found
    constructor
    · intro stands
      exact ⟨none, missing, (Option.some.inj stands).symm⟩
    · rintro ⟨carried, carries, rfl⟩
      cases carried with
      | none => rfl
      | some value =>
        obtain ⟨json, member, _⟩ := carries
        exact absurd member (missing json)
  | some json =>
    have member := (lookup_eq_some_iff distinct).mp found
    constructor
    · intro taken
      exact ⟨some value, ⟨json, member, taken⟩, rfl⟩
    · rintro ⟨carried, carries, rfl⟩
      cases carried with
      | none => exact absurd member (carries json)
      | some value =>
        -- The member that carries the value is the one that is looked up.
        obtain ⟨other, others, taken⟩ := carries
        rw [← lookup_eq_some_iff distinct, found] at others
        cases others
        exact taken

end Members

end Json

end Ccid
