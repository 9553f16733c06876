import Ccid.Proofs.Atr.Grammar

/-!
The walk over the interface octets finds just what the structure of an Answer-To-Reset says.

What it finds from an octet on that announces a group depends on the group's TD alone, so it follows
the chain of groups; and wherever it finds something, there is a chain that it followed.
-/

namespace Ccid

namespace Atr

/-- What is found from an octet on that announces what follows it. -/
def follow (octet : UInt8) (position : Nat) (protocols : List UInt8) (rest : Octets) :
    Option (List UInt8 × Nat) :=
  if continues (announced octet) then walk position (skipped (announced octet)) protocols rest
  else some (protocols, position + skipped (announced octet))

/-- An octet that announces no TD ends the search. -/
theorem follow_of_last {octet : UInt8} (last : octet.toNat.testBit 7 = false) (position : Nat)
    (protocols : List UInt8) (rest : Octets) :
    follow octet position protocols rest
      = some (protocols, position + skipped (announced octet)) := by
  rw [follow, continues_announced, last, if_neg (by decide)]

/-- A walk passes the octets before the TD that it is going to. -/
theorem walk_leading (position : Nat) (protocols : List UInt8) (leading : Octets) (td : UInt8)
    (rest : Octets) :
    walk position leading.length protocols (leading ++ td :: rest)
      = follow td (position + leading.length + 1) (addProtocol protocols (lowHalf td)) rest := by
  induction leading generalizing position with
  | nil => rfl
  | cons octet leading ih =>
    rw [List.cons_append, List.length_cons, walk, ih]
    congr 1
    omega

/-- An octet that announces a group with a TD hands the search on to the TD. -/
theorem follow_group {octet td : UInt8} {group : Group} (announces : Announces octet group)
    (next : group.td = some td) (position : Nat) (protocols : List UInt8) (rest : Octets) :
    follow octet position protocols (group.octets ++ rest)
      = follow td (position + group.octets.length) (addProtocol protocols (lowHalf td)) rest := by
  have continued : octet.toNat.testBit 7 = true := by rw [announces.td, next, Option.isSome_some]
  have octets : group.octets = group.leading ++ [td] := by
    rw [Group.octets, next, Option.toList_some]
  rw [follow, continues_announced, if_pos continued, ← announces.length_leading, octets,
    List.append_assoc, List.singleton_append, walk_leading, List.length_append]
  rfl

/-- Along a chain of groups the search finds the protocols of the TDs, and where the chain ends. -/
theorem follow_of_linked {octet final : UInt8} {groups : List Group}
    (linked : Linked octet groups final) (ends : final.toNat.testBit 7 = false) (position : Nat)
    (protocols : List UInt8) (rest : Octets) :
    follow octet position protocols (groups.flatMap Group.octets ++ rest)
      = some (((groups.filterMap Group.td).map lowHalf).foldl addProtocol protocols,
          position + (groups.flatMap Group.octets).length + skipped (announced final)) := by
  -- Each group adds the protocol of its TD, and its octets to the position.
  induction linked generalizing position protocols with
  | nil => exact follow_of_last ends position protocols rest
  | @cons octet td final group groups announces next linked ih =>
    rw [List.flatMap_cons, List.append_assoc, follow_group announces next, ih ends,
      List.filterMap_cons, next, List.length_append, Nat.add_assoc position]
    rfl

/-- A walk that finds something went from TD to TD along a chain of groups. -/
theorem linked_of_walk {position ahead : Nat} {protocols : List UInt8} {octets : Octets}
    {found : List UInt8 × Nat} (walked : walk position ahead protocols octets = some found) :
    ∃ leading td groups final rest, leading.length = ahead ∧
      octets = leading ++ td :: (groups.flatMap Group.octets ++ rest) ∧
      Linked td groups final ∧ final.toNat.testBit 7 = false := by
  -- The walk takes one octet at a time, which is one more to pass or the TD that it went to.
  induction octets generalizing position ahead protocols with
  | nil => simp [walk] at walked
  | cons octet octets ih =>
    cases ahead with
    | succ ahead =>
      obtain ⟨leading, td, groups, final, rest, count, split, linked, ends⟩ := ih walked
      exact ⟨octet :: leading, td, groups, final, rest, by simp [count], by simp [split],
        linked, ends⟩
    | zero =>
      cases continued : continues (announced octet) with
      | false =>
        rw [continues_announced] at continued
        exact ⟨[], octet, [], octet, octets, rfl, rfl, .nil, continued⟩
      | true =>
        simp only [walk, continued, if_true] at walked
        obtain ⟨leading, td, groups, final, rest, count, split, linked, ends⟩ := ih walked
        obtain ⟨group, chain, parts⟩ := linked_cons continued count linked
        exact ⟨[], octet, group :: groups, final, rest, rfl, by simp [split, parts],
          chain, ends⟩

/-- Where the search finds something, a chain of groups follows the octet that it began with. -/
theorem linked_of_follow {octet : UInt8} {position : Nat} {protocols : List UInt8}
    {octets : Octets} {found : List UInt8 × Nat}
    (followed : follow octet position protocols octets = some found) :
    ∃ groups final rest, octets = groups.flatMap Group.octets ++ rest ∧
      Linked octet groups final ∧ final.toNat.testBit 7 = false := by
  cases continued : continues (announced octet) with
  | false =>
    rw [continues_announced] at continued
    exact ⟨[], octet, octets, rfl, .nil, continued⟩
  | true =>
    rw [follow, if_pos continued] at followed
    obtain ⟨leading, td, groups, final, rest, count, split, linked, ends⟩ :=
      linked_of_walk followed
    obtain ⟨group, chain, parts⟩ := linked_cons continued count linked
    exact ⟨group :: groups, final, rest, by simp [split, parts], chain, ends⟩

/-- Where the parts of an Answer-To-Reset lie that begins like this. -/
def Opening.layout (opening : Opening) : Layout :=
  { protocols := opening.protocols
    historicalStart := opening.octets.length + skipped (announced opening.final)
    historicalLength := opening.format.toNat % 16 }

/-- Protocols are added where they are named first, behind those that are there already. -/
theorem foldl_addProtocol (protocols found : List UInt8) :
    found.foldl addProtocol protocols = protocols ++ (found.removeAll protocols).eraseDups := by
  induction found generalizing protocols with
  | nil => simp [List.removeAll]
  | cons protocol found ih =>
    rw [List.foldl_cons, ih, addProtocol, List.cons_removeAll]
    cases known : protocols.contains protocol with
    | true => simp
    | false =>
      -- A new protocol comes first, and from then on it is known.
      have rest : (found.removeAll protocols).filter (fun other => !other == protocol)
          = found.removeAll (protocols ++ [protocol]) := by
        simp only [List.removeAll, List.filter_filter]
        apply List.filter_congr
        intro other _
        by_cases same : other = protocol <;> simp [same]
      simp [List.eraseDups_cons, rest]

/-- The low half of an octet is its remainder by 16. -/
theorem lowHalf_eq (octet : UInt8) : lowHalf octet = octet % 16 := by
  apply UInt8.toNat_inj.mp
  rw [lowHalf, UInt8.toNat_ofNat', UInt8.toNat_mod]
  exact Nat.mod_eq_of_lt (Nat.lt_trans (Nat.mod_lt _ (by decide)) (by decide))

/-- The protocols of the TDs are collected as the structure says, with T=0 for none. -/
theorem Opening.protocols_eq (opening : Opening) :
    opening.protocols =
      if (((opening.linked.filterMap Group.td).map lowHalf).foldl addProtocol []).isEmpty then [0]
      else ((opening.linked.filterMap Group.td).map lowHalf).foldl addProtocol [] := by
  simp only [foldl_addProtocol, List.nil_append, Opening.protocols, funext lowHalf_eq]
  -- There is a protocol as soon as there is a TD.
  cases opening.linked.filterMap Group.td with
  | nil => rfl
  | cons td tds => simp [List.removeAll, List.eraseDups_cons]

/-- The layout of an Answer-To-Reset is told by how it begins. -/
theorem layout_of_opening (opening : Opening) (rest : Octets) :
    layout ⟨opening.octets ++ rest⟩ = some opening.layout := by
  have found := follow_of_linked opening.chain opening.ends 2 [] rest
  have size : opening.octets.length = 2 + (opening.linked.flatMap Group.octets).length := by
    simp only [Opening.octets, List.length_cons]
    omega
  -- The layout is what is found from the format octet on.
  show (follow opening.format 2 [] (opening.linked.flatMap Group.octets ++ rest)).map _ = _
  rw [found, Option.map_some, Opening.layout, size, opening.protocols_eq]

/-- An Answer-To-Reset that has a layout begins with a chain of groups. -/
theorem opening_of_layout {atr : Atr} {layout : Layout} (found : atr.layout = some layout) :
    ∃ (opening : Opening) (rest : Octets), atr.octets = opening.octets ++ rest := by
  -- There are two octets at least, and something is found from the second one on.
  unfold Atr.layout at found
  split at found
  · rename_i initial format octets split
    obtain ⟨result, followed, _⟩ := Option.map_eq_some_iff.mp found
    obtain ⟨linked, final, rest, parts, chain, ends⟩ := linked_of_follow followed
    exact ⟨{ initial, format, linked, final, chain, ends }, rest, by
      rw [split, parts, Opening.octets, List.cons_append, List.cons_append]⟩
  · simp at found

/-- A layout is found exactly for an Answer-To-Reset that begins as it says. -/
theorem layout_eq_some_iff {atr : Atr} {layout : Layout} :
    atr.layout = some layout ↔
      ∃ (opening : Opening) (rest : Octets),
        atr.octets = opening.octets ++ rest ∧ opening.layout = layout := by
  constructor
  · intro found
    obtain ⟨opening, rest, split⟩ := opening_of_layout found
    have same := layout_of_opening opening rest
    rw [← split, found] at same
    exact ⟨opening, rest, split, (Option.some.inj same).symm⟩
  · rintro ⟨opening, rest, split, rfl⟩
    have found := layout_of_opening opening rest
    rw [← split] at found
    exact found

/-- The historical octets are those after the last group, if there are as many as announced. -/
theorem historicalOctets_of_opening (opening : Opening) (rest : Octets) :
    historicalOctets ⟨opening.octets ++ rest⟩ =
      if skipped (announced opening.final) + opening.format.toNat % 16 ≤ rest.length then
        some ((rest.drop (skipped (announced opening.final))).take (opening.format.toNat % 16))
      else none := by
  -- Both the bound and the octets are counted from where the opening ends.
  have fits : opening.octets.length + skipped (announced opening.final)
        + opening.format.toNat % 16 ≤ (opening.octets ++ rest).length ↔
      skipped (announced opening.final) + opening.format.toNat % 16 ≤ rest.length := by
    rw [List.length_append]
    omega
  simp only [historicalOctets, layout_of_opening, Option.bind_some, Opening.layout, fits,
    List.drop_length_add_append]

/-- The octets of an Answer-To-Reset yield its historical octets. -/
theorem Form.historicalOctets_octets (form : Form) :
    historicalOctets ⟨form.octets⟩ = some form.historical := by
  -- The last group has just the octets that are passed, and the historical ones are counted.
  have passed : form.last.octets.length = skipped (announced form.final) := by
    rw [Group.octets, form.last_td, Option.toList_none, List.append_nil,
      form.announces.length_leading]
  rw [Form.octets, historicalOctets_of_opening, if_pos, ← passed, ← form.counted,
    List.append_assoc, List.drop_left, List.take_left]
  rw [← passed, ← form.counted, List.length_append, List.length_append]
  omega

/-- An Answer-To-Reset that yields historical octets has them in its structure. -/
theorem form_of_historicalOctets {atr : Atr} {historical : Octets}
    (found : atr.historicalOctets = some historical) :
    ∃ form : Form, form.octets = atr.octets ∧ form.historical = historical := by
  -- There is a layout, so there is a beginning; the rest splits at the historical octets.
  obtain ⟨layout, laid, _⟩ := Option.bind_eq_some_iff.mp found
  obtain ⟨opening, rest, split⟩ := opening_of_layout laid
  have read := historicalOctets_of_opening opening rest
  rw [← split, found] at read
  split at read
  · rename_i room
    cases read
    have count : (rest.take (skipped (announced opening.final))).length
        = skipped (announced opening.final) := by
      rw [List.length_take]
      omega
    obtain ⟨last, announces, octets, _⟩ := exists_group count none opening.ends
    let others := rest.drop (skipped (announced opening.final))
    let length := opening.format.toNat % 16
    have counted : (others.take length).length = length := by
      rw [List.length_take, List.length_drop]
      omega
    refine ⟨{ toOpening := opening, last, announces, counted
              historical := others.take length, tail := others.drop length }, ?_, rfl⟩
    rw [Option.toList_none, List.append_nil] at octets
    rw [Form.octets, octets, List.append_assoc, List.take_append_drop, List.take_append_drop,
      ← split]
  · simp at read

/-- The protocols are read exactly as far as the TDs are there, whatever comes after the last. -/
theorem protocols_eq_some_iff {atr : Atr} {found : List UInt8} :
    atr.protocols = some found ↔
      ∃ (opening : Opening) (rest : Octets),
        atr.octets = opening.octets ++ rest ∧ opening.protocols = found := by
  rw [protocols, Option.map_eq_some_iff]
  -- The layout that has them is that of an opening.
  constructor
  · rintro ⟨layout, laid, rfl⟩
    obtain ⟨opening, rest, split, rfl⟩ := layout_eq_some_iff.mp laid
    exact ⟨opening, rest, split, rfl⟩
  · rintro ⟨opening, rest, split, rfl⟩
    exact ⟨opening.layout, layout_eq_some_iff.mpr ⟨opening, rest, split, rfl⟩, rfl⟩

/-- The historical octets are read exactly where the structure has them. -/
theorem historicalOctets_eq_some_iff {atr : Atr} {historical : Octets} :
    atr.historicalOctets = some historical ↔
      ∃ form : Form, form.octets = atr.octets ∧ form.historical = historical := by
  constructor
  · exact form_of_historicalOctets
  · rintro ⟨form, octets, rfl⟩
    have read := form.historicalOctets_octets
    rw [octets] at read
    exact read

/-- The octets of an Answer-To-Reset yield the protocols that its TDs name. -/
theorem Form.protocols_octets (form : Form) :
    Atr.protocols ⟨form.octets⟩ = some form.protocols :=
  protocols_eq_some_iff.mpr ⟨form.toOpening, _, rfl, rfl⟩

/--
The walk accepts exactly the octets that have the structure of an Answer-To-Reset.

It yields historical octets exactly where they are in the structure, and none where there is no
such structure. The protocols are then those that the TDs name. Neither depends on the initial
octet, on TA, TB and TC, or on the tail. The protocols alone need only every announced TD.
-/
theorem read_iff_structured (atr : Atr) :
    (∀ historical, atr.historicalOctets = some historical ↔
        ∃ form : Form, form.octets = atr.octets ∧ form.historical = historical) ∧
      (atr.historicalOctets = none ↔ ¬ ∃ form : Form, form.octets = atr.octets) ∧
      (∀ form : Form, form.octets = atr.octets → atr.protocols = some form.protocols) ∧
      (∀ form other : Form, form.octets = atr.octets →
        other.linked.filterMap Group.td = form.linked.filterMap Group.td →
        other.historical = form.historical →
          Atr.historicalOctets ⟨other.octets⟩ = atr.historicalOctets ∧
            Atr.protocols ⟨other.octets⟩ = atr.protocols) ∧
      (∀ found, atr.protocols = some found ↔
        ∃ (opening : Opening) (rest : Octets),
          atr.octets = opening.octets ++ rest ∧ opening.protocols = found) := by
  refine ⟨fun _ => historicalOctets_eq_some_iff, ?_, ?_, ?_, fun _ => protocols_eq_some_iff⟩
  · -- Something else than none is what some form has.
    constructor
    · rintro absent ⟨form, octets⟩
      have read := historicalOctets_eq_some_iff.mpr ⟨form, octets, rfl⟩
      rw [absent] at read
      simp at read
    · intro unstructured
      apply Option.eq_none_iff_forall_ne_some.mpr
      intro historical read
      obtain ⟨form, octets, _⟩ := historicalOctets_eq_some_iff.mp read
      exact unstructured ⟨form, octets⟩
  · intro form octets
    have read := form.protocols_octets
    rw [octets] at read
    exact read
  · -- Both readings are told by the TDs and the historical octets alone.
    intro form other octets tds same
    have self : atr = ⟨form.octets⟩ := by rw [octets]
    rw [self, other.historicalOctets_octets, form.historicalOctets_octets, same,
      other.protocols_octets, form.protocols_octets]
    simp only [Opening.protocols, tds, and_self]

/-- Two groups with a TD, which name T=0 and T=1, two historical octets and a check octet. -/
theorem read_iff_structured_twoProtocols :
    let form : Form :=
      { initial := 0x3B, format := 0x92
        linked := [⟨some 0x18, none, none, some 0x80⟩, ⟨none, none, none, some 0x01⟩]
        final := 0x01
        chain := .cons ⟨rfl, rfl, rfl, rfl⟩ rfl (.cons ⟨rfl, rfl, rfl, rfl⟩ rfl .nil)
        ends := rfl
        last := ⟨none, none, none, none⟩, historical := [0x80, 0x73], tail := [0xD4]
        announces := ⟨rfl, rfl, rfl, rfl⟩
        counted := rfl }
    form.octets = [0x3B, 0x92, 0x18, 0x80, 0x01, 0x80, 0x73, 0xD4] ∧
      Atr.historicalOctets ⟨form.octets⟩ = some [0x80, 0x73] ∧
      Atr.protocols ⟨form.octets⟩ = some [0, 1] ∧
      Atr.protocols ⟨[0x3B, 0x92, 0x18, 0x80, 0x01]⟩ = some [0, 1] := by
  intro form
  obtain ⟨read, _, protocols, _⟩ := read_iff_structured ⟨form.octets⟩
  -- The protocols are still read where the octets end with the last TD.
  obtain ⟨_, _, _, _, cut⟩ := read_iff_structured ⟨[0x3B, 0x92, 0x18, 0x80, 0x01]⟩
  exact ⟨rfl, (read _).mpr ⟨form, rfl, rfl⟩, protocols form rfl,
    (cut _).mpr ⟨form.toOpening, [], rfl, rfl⟩⟩

end Atr

end Ccid
