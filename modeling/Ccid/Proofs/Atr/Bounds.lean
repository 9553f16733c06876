import Ccid.Proofs.Atr.Walking
import Mathlib.Algebra.Ring.Nat
import Mathlib.Data.List.Perm.Subperm
import Mathlib.Data.List.Nodup

/-!
How far the walk over the interface octets goes, and how often it turns.

The walk is told here as a loop with a cursor, which skips TA, TB and TC without looking at them and
then reads a TD where one is announced. The loop has no counter. It ends since every TD is read
behind the one before it, and an octet string has only so many places. The loop finds what the walk
finds, so its bounds are those of the layout.
-/

namespace Ccid

namespace Atr

/-- Where the loop stands before a turn. -/
structure Cursor where
  /-- The first octet that is not yet passed. -/
  position : Nat
  /-- The octet that announces what comes next: the format octet, or the last TD. -/
  announcing : UInt8
  /-- The protocols that were named so far. -/
  protocols : List UInt8
  deriving DecidableEq

/-- Where the loop begins: behind the format octet. -/
def Cursor.initial (format : UInt8) : Cursor :=
  { position := 2, announcing := format, protocols := [] }

/-- The position behind TA, TB and TC, as far as they are announced. -/
def Cursor.ahead (cursor : Cursor) : Nat :=
  cursor.position + skipped (announced cursor.announcing)

/-- Whether a TD is announced at that position. -/
def Cursor.expectsTd (cursor : Cursor) : Bool :=
  continues (announced cursor.announcing)

/-- Where the loop stands after it has read a TD. -/
def Cursor.past (cursor : Cursor) (td : UInt8) : Cursor :=
  { position := cursor.ahead + 1
    announcing := td
    protocols := addProtocol cursor.protocols (lowHalf td) }

/--
The loop over octets from a cursor on: where each of its turns looks, and what it finds.

There is one position for every turn.
-/
inductive Loop (octets : Octets) : Cursor → List Nat → Option (List UInt8 × Nat) → Prop
  /-- No TD is announced, so the interface octets end here. -/
  | finished {cursor : Cursor} : cursor.expectsTd = false →
    Loop octets cursor [cursor.ahead] (some (cursor.protocols, cursor.ahead))
  /-- The announced TD lies beyond the end. -/
  | missing {cursor : Cursor} : cursor.expectsTd = true → octets[cursor.ahead]? = none →
    Loop octets cursor [cursor.ahead] none
  /-- A TD is read, and the loop turns again. -/
  | onward {cursor : Cursor} {td : UInt8} {positions : List Nat}
      {found : Option (List UInt8 × Nat)} :
    cursor.expectsTd = true → octets[cursor.ahead]? = some td →
    Loop octets (cursor.past td) positions found →
    Loop octets cursor (cursor.ahead :: positions) found

/-- No more than three octets come before a TD. -/
theorem skipped_le (announcement : Nat) : skipped announcement ≤ 3 := by
  simp only [skipped]
  omega

/-- A walk finds what is found from the TD on that it goes to, or nothing if there is none. -/
theorem walk_eq (position ahead : Nat) (protocols : List UInt8) (octets : Octets) :
    walk position ahead protocols octets =
      octets[ahead]?.bind fun td =>
        follow td (position + ahead + 1) (addProtocol protocols (lowHalf td))
          (octets.drop (ahead + 1)) := by
  -- The octets split at the place that the walk goes to, unless they end before it.
  cases there : octets[ahead]? with
  | none =>
    rw [Option.bind_none]
    induction octets generalizing position ahead with
    | nil => rfl
    | cons octet rest ih =>
      cases ahead with
      | zero => simp at there
      | succ ahead => exact ih _ _ (by simpa using there)
  | some td =>
    obtain ⟨inside, same⟩ := List.getElem?_eq_some_iff.mp there
    have split : octets = octets.take ahead ++ td :: octets.drop (ahead + 1) := by
      rw [← same, ← List.drop_eq_getElem_cons inside, List.take_append_drop]
    have passed : (octets.take ahead).length = ahead := by
      rw [List.length_take]
      omega
    have walked := walk_leading position protocols (octets.take ahead) td (octets.drop (ahead + 1))
    rw [← split, passed] at walked
    exact walked

/-- The loop finds what the walk finds from its cursor on. -/
theorem Loop.found_eq {octets : Octets} {cursor : Cursor} {positions : List Nat}
    {found : Option (List UInt8 × Nat)} (loop : Loop octets cursor positions found) :
    follow cursor.announcing cursor.position cursor.protocols (octets.drop cursor.position)
      = found := by
  -- Each turn of the loop is a walk to the TD that is announced.
  induction loop with
  | finished last => rw [follow, ← Cursor.expectsTd, last, if_neg (by decide), ← Cursor.ahead]
  | missing expects absent =>
    rw [follow, ← Cursor.expectsTd, if_pos expects, walk_eq, List.getElem?_drop, ← Cursor.ahead,
      absent, Option.bind_none]
  | onward expects present _ ih =>
    rw [follow, ← Cursor.expectsTd, if_pos expects, walk_eq, List.getElem?_drop, ← Cursor.ahead,
      present, Option.bind_some, List.drop_drop, ← Nat.add_assoc, ← Cursor.ahead]
    exact ih

/-- The loop ends from every cursor. -/
theorem exists_loop (octets : Octets) (cursor : Cursor) :
    ∃ positions found, Loop octets cursor positions found := by
  -- Every TD leaves fewer octets to pass, so the induction is on their count.
  induction count : octets.length - cursor.position using Nat.strongRecOn
    generalizing cursor with
  | ind left ih =>
    cases expects : cursor.expectsTd with
    | false => exact ⟨_, _, .finished expects⟩
    | true =>
      cases there : octets[cursor.ahead]? with
      | none => exact ⟨_, _, .missing expects there⟩
      | some td =>
        obtain ⟨inside, _⟩ := List.getElem?_eq_some_iff.mp there
        have fewer : octets.length - (cursor.past td).position < left := by
          simp only [Cursor.past, Cursor.ahead] at inside ⊢
          omega
        obtain ⟨positions, found, loop⟩ := ih _ fewer (cursor.past td) rfl
        exact ⟨_, found, .onward expects there loop⟩

/-- A list names each protocol once if it did so before one more was added. -/
theorem nodup_addProtocol {protocols : List UInt8} (distinct : protocols.Nodup)
    (protocol : UInt8) : (addProtocol protocols protocol).Nodup := by
  unfold addProtocol
  cases known : protocols.contains protocol with
  | true => exact distinct
  | false =>
    have fresh : protocol ∉ protocols := by simpa using known
    simpa [List.concat_eq_append] using distinct.concat fresh

/-- A list holds what it held before one more protocol was added, and that protocol. -/
theorem mem_addProtocol {protocols : List UInt8} {protocol other : UInt8} :
    other ∈ addProtocol protocols protocol ↔ other ∈ protocols ∨ other = protocol := by
  unfold addProtocol
  cases known : protocols.contains protocol with
  | true =>
    -- The added protocol was there already.
    have present : protocol ∈ protocols := by simpa using known
    simp only [if_true]
    exact ⟨.inl, fun member => member.elim id fun same => same ▸ present⟩
  | false => simp

/-- There are only sixteen protocols for a list to name. -/
theorem length_le_of_small {protocols : List UInt8} (distinct : protocols.Nodup)
    (small : ∀ protocol ∈ protocols, protocol < 16) : protocols.length ≤ 16 := by
  -- They are among the first sixteen octets, and none of these is named twice.
  have among : protocols ⊆ (List.range 16).map UInt8.ofNat := by
    intro protocol member
    exact List.mem_map.mpr ⟨protocol.toNat, List.mem_range.mpr (small protocol member),
      UInt8.ofNat_toNat⟩
  simpa using (List.subperm_of_subset distinct among).length_le

/-- What a cursor keeps to through all turns of the loop. -/
structure Cursor.Sound (octets : Octets) (cursor : Cursor) : Prop where
  begun : 2 ≤ cursor.position
  within : cursor.position ≤ octets.length
  distinct : cursor.protocols.Nodup
  small : ∀ protocol ∈ cursor.protocols, protocol < 16

/-- The loop begins with a sound cursor, once there is a format octet. -/
theorem Cursor.initial_sound {octets : Octets} {format : UInt8} (there : octets[1]? = some format) :
    (Cursor.initial format).Sound octets := by
  obtain ⟨inside, _⟩ := List.getElem?_eq_some_iff.mp there
  exact ⟨Nat.le_refl 2, inside, .nil, by simp [Cursor.initial]⟩

/-- A turn that reads a TD keeps its cursor sound. -/
theorem Cursor.Sound.past {octets : Octets} {cursor : Cursor} (sound : cursor.Sound octets)
    {td : UInt8} (present : octets[cursor.ahead]? = some td) : (cursor.past td).Sound octets := by
  obtain ⟨inside, _⟩ := List.getElem?_eq_some_iff.mp present
  have begun := sound.begun
  refine ⟨?_, inside, nodup_addProtocol sound.distinct _, ?_⟩
  · simp only [Cursor.past, Cursor.ahead]
    omega
  · -- The new protocol is half an octet.
    intro protocol member
    rcases mem_addProtocol.mp member with old | rfl
    · exact sound.small protocol old
    · rw [lowHalf_eq]
      exact UInt8.mod_lt td (by decide)

/-- A turn looks at most three octets beyond the end. -/
theorem Cursor.Sound.ahead_le {octets : Octets} {cursor : Cursor} (sound : cursor.Sound octets) :
    cursor.ahead ≤ octets.length + 3 := by
  have within := sound.within
  have few := skipped_le (announced cursor.announcing)
  simp only [Cursor.ahead]
  omega

/-- Turns on so many octets that all look at a given position or behind it. -/
structure Ranging (length start : Nat) (positions : List Nat) : Prop where
  few : positions.length ≤ length - start + 1
  rising : positions.Pairwise (· < ·)
  behind : ∀ position ∈ positions, start ≤ position
  near : ∀ position ∈ positions, position ≤ length + 3
  /-- Every turn but the last reads the TD that it looks for. -/
  inside : ∀ position ∈ positions.dropLast, position < length

/-- The last turn of a loop is the only one from there on. -/
theorem Cursor.Sound.ranging_last {octets : Octets} {cursor : Cursor}
    (sound : cursor.Sound octets) : Ranging octets.length cursor.position [cursor.ahead] := by
  have near := sound.ahead_le
  refine ⟨Nat.le_add_left 1 _, List.pairwise_singleton _ _, ?_, ?_, ?_⟩
  · simp [Cursor.ahead]
  · simpa using near
  · simp

/-- The loop takes a turn at least. -/
theorem Loop.positions_ne_nil {octets : Octets} {cursor : Cursor} {positions : List Nat}
    {found : Option (List UInt8 × Nat)} (loop : Loop octets cursor positions found) :
    positions ≠ [] := by
  cases loop <;> simp

/-- From a sound cursor on, the loop stays in range. -/
theorem Loop.ranging {octets : Octets} {cursor : Cursor} {positions : List Nat}
    {found : Option (List UInt8 × Nat)} (loop : Loop octets cursor positions found)
    (sound : cursor.Sound octets) : Ranging octets.length cursor.position positions := by
  -- What follows a turn ranges from behind the TD that the turn reads.
  induction loop with
  | finished _ => exact sound.ranging_last
  | missing _ _ => exact sound.ranging_last
  | @onward cursor td positions found _ present loop ih =>
    obtain ⟨inside, _⟩ := List.getElem?_eq_some_iff.mp present
    -- All later turns look behind the TD that this one reads.
    have later := ih (sound.past present)
    have start : cursor.position ≤ cursor.ahead := Nat.le_add_right _ _
    have next : (cursor.past td).position = cursor.ahead + 1 := rfl
    have few := later.few
    have behind := later.behind
    rw [next] at few behind
    constructor
    · rw [List.length_cons]
      omega
    · exact List.pairwise_cons.mpr ⟨behind, later.rising⟩
    · intro position member
      rcases List.mem_cons.mp member with rfl | member
      · exact start
      · have := behind position member
        omega
    · exact List.forall_mem_cons.mpr ⟨sound.ahead_le, later.near⟩
    · rw [List.dropLast_cons_of_ne_nil loop.positions_ne_nil]
      exact List.forall_mem_cons.mpr ⟨inside, later.inside⟩

/-- From a sound cursor on, the loop finds distinct protocols and the position of its last turn. -/
theorem Loop.found_sound {octets : Octets} {cursor : Cursor} {positions : List Nat}
    {protocols : List UInt8} {position : Nat}
    (loop : Loop octets cursor positions (some (protocols, position)))
    (sound : cursor.Sound octets) :
    position ∈ positions ∧ protocols.Nodup ∧ ∀ protocol ∈ protocols, protocol < 16 := by
  generalize found : some (protocols, position) = result at loop
  -- Only a loop that finishes finds anything, and it does so at its last cursor.
  induction loop with
  | finished _ =>
    cases found
    exact ⟨List.mem_singleton.mpr rfl, sound.distinct, sound.small⟩
  | missing _ _ => cases found
  | onward _ present _ ih =>
    obtain ⟨member, rest⟩ := ih (sound.past present) found
    exact ⟨List.mem_cons_of_mem _ member, rest⟩

/-- The layout that the loop's findings make up; the protocol is T=0 where no TD names one. -/
def Layout.ofFound (format : UInt8) (found : List UInt8 × Nat) : Layout :=
  { protocols := if found.1.isEmpty then [0] else found.1
    historicalStart := found.2
    historicalLength := format.toNat % 16 }

/-- A layout names a protocol in any case, and otherwise what was found. -/
theorem protocols_ofFound (format : UInt8) {protocols : List UInt8} (position : Nat)
    (distinct : protocols.Nodup) (small : ∀ protocol ∈ protocols, protocol < 16) :
    let reported := (Layout.ofFound format (protocols, position)).protocols
    reported ≠ [] ∧ reported.Nodup ∧ ∀ protocol ∈ reported, protocol < 16 := by
  cases protocols with
  | nil => simp [Layout.ofFound]
  | cons protocol others => exact ⟨List.cons_ne_nil _ _, distinct, small⟩

/-- The layout is made up of what the loop finds from the format octet on. -/
theorem Loop.layout_eq {atr : Atr} {format : UInt8} (there : atr.octets[1]? = some format)
    {positions : List Nat} {found : Option (List UInt8 × Nat)}
    (loop : Loop atr.octets (.initial format) positions found) :
    atr.layout = found.map (Layout.ofFound format) := by
  -- There are an initial octet and the format octet, and the loop begins behind them.
  obtain ⟨octets⟩ := atr
  match octets, there with
  | _ :: _ :: rest, rfl => exact congrArg (Option.map (Layout.ofFound _)) loop.found_eq

/-- Without a format octet there is no layout. -/
theorem layout_of_short {atr : Atr} (short : atr.octets[1]? = none) : atr.layout = none := by
  obtain ⟨octets⟩ := atr
  match octets, short with
  | [], _ => rfl
  | [_], _ => rfl

/-- What a layout keeps to that was found in so many octets. -/
structure Layout.InRange (layout : Layout) (length : Nat) : Prop where
  begun : 2 ≤ layout.historicalStart
  near : layout.historicalStart ≤ length + 3
  few : layout.historicalLength ≤ 15
  ends : layout.historicalStart + layout.historicalLength ≤ length + 18
  /-- As many octets as fit a memory leave room for the end in a 64-bit word. -/
  counted : length < 2 ^ 63 → layout.historicalStart + layout.historicalLength < 2 ^ 64
  named : layout.protocols ≠ []
  distinct : layout.protocols.Nodup
  sixteen : layout.protocols.length ≤ 16
  small : ∀ protocol ∈ layout.protocols, protocol < 16

/-- Whatever the octets, their layout is in range. -/
theorem inRange_of_layout {atr : Atr} {layout : Layout} (laid : atr.layout = some layout) :
    layout.InRange atr.octets.length := by
  cases there : atr.octets[1]? with
  | none => rw [layout_of_short there] at laid; cases laid
  | some format =>
    have sound := Cursor.initial_sound there
    obtain ⟨positions, found, loop⟩ := exists_loop atr.octets (.initial format)
    rw [loop.layout_eq there] at laid
    obtain ⟨⟨protocols, position⟩, rfl, rfl⟩ := Option.map_eq_some_iff.mp laid
    obtain ⟨last, distinct, small⟩ := loop.found_sound sound
    -- The historical octets begin where the last turn looks.
    have begun : 2 ≤ position := (loop.ranging sound).behind position last
    have near : position ≤ atr.octets.length + 3 := (loop.ranging sound).near position last
    have few : format.toNat % 16 ≤ 15 := by omega
    obtain ⟨named, distinct, small⟩ := protocols_ofFound format position distinct small
    constructor
    · exact begun
    · exact near
    · exact few
    · show position + format.toNat % 16 ≤ _
      omega
    · intro memory
      show position + format.toNat % 16 < 2 ^ 64
      omega
    · exact named
    · exact distinct
    · exact length_le_of_small distinct small
    · exact small

/-- The historical octets lie where the layout says, and within the octets. -/
theorem historicalOctets_of_layout {atr : Atr} {layout : Layout} (laid : atr.layout = some layout)
    (historical : Octets) :
    atr.historicalOctets = some historical ↔
      ∃ before behind, atr.octets = before ++ historical ++ behind ∧
        before.length = layout.historicalStart ∧ historical.length = layout.historicalLength := by
  rw [historicalOctets, laid, Option.bind_some]
  constructor
  · intro read
    -- The layout may announce more octets than there are, and then none are read.
    split at read
    · rename_i room
      cases read
      refine ⟨atr.octets.take layout.historicalStart,
        (atr.octets.drop layout.historicalStart).drop layout.historicalLength, ?_, ?_, ?_⟩
      · rw [List.append_assoc, List.take_append_drop, List.take_append_drop]
      · rw [List.length_take]
        omega
      · rw [List.length_take, List.length_drop]
        omega
    · cases read
  · rintro ⟨before, behind, split, start, count⟩
    have room : layout.historicalStart + layout.historicalLength ≤ atr.octets.length := by
      rw [split, List.length_append, List.length_append]
      omega
    rw [if_pos room, split, ← start, ← count, List.append_assoc, List.drop_left, List.take_left]

/--
The walk over the interface octets ends and stays in range, whatever the octets.

Told as a loop, it ends from the format octet on, and after fewer turns than there are octets. Every
turn but the last reads a TD within the octets, behind all earlier ones. A layout that is found
begins and ends near the octets, and the historical octets are read from within them.
-/
theorem walk_ends_in_range (atr : Atr) :
    (atr.octets[1]? = none → atr.layout = none) ∧
      (∀ format, atr.octets[1]? = some format →
        (∃ positions found, Loop atr.octets (.initial format) positions found) ∧
          ∀ positions found, Loop atr.octets (.initial format) positions found →
            atr.layout = found.map (Layout.ofFound format) ∧
              positions.length ≤ max 1 (atr.octets.length - 1) ∧
              Ranging atr.octets.length 2 positions) ∧
      ∀ layout, atr.layout = some layout →
        layout.InRange atr.octets.length ∧
          ∀ historical, atr.historicalOctets = some historical ↔
            ∃ before behind, atr.octets = before ++ historical ++ behind ∧
              before.length = layout.historicalStart ∧
              historical.length = layout.historicalLength := by
  refine ⟨layout_of_short, ?_, fun layout laid =>
    ⟨inRange_of_layout laid, historicalOctets_of_layout laid⟩⟩
  intro format there
  refine ⟨exists_loop _ _, fun positions found loop => ?_⟩
  have sound := Cursor.initial_sound there
  have ranging : Ranging atr.octets.length 2 positions := loop.ranging sound
  -- There are two octets at least, and the loop begins behind them.
  have long : 2 ≤ atr.octets.length := sound.within
  have few := ranging.few
  exact ⟨loop.layout_eq there, by omega, ranging⟩

/-- Octets that take as many turns and reach as far beyond their end as any four octets can. -/
theorem walk_ends_in_range_cut :
    let atr : Atr := ⟨[0x3B, 0x8F, 0x80, 0x71]⟩
    let layout : Layout := { protocols := [0, 1], historicalStart := 7, historicalLength := 15 }
    Loop atr.octets (.initial 0x8F) [2, 3, 7] (some ([0, 1], 7)) ∧
      [2, 3, 7].length ≤ max 1 (atr.octets.length - 1) ∧
      Ranging atr.octets.length 2 [2, 3, 7] ∧
      atr.layout = some layout ∧ layout.InRange atr.octets.length ∧
      atr.historicalOctets = none := by
  intro atr layout
  have loop : Loop atr.octets (.initial 0x8F) [2, 3, 7] (some ([0, 1], 7)) :=
    .onward rfl rfl (.onward rfl rfl (.finished rfl))
  obtain ⟨_, turns, bounds⟩ := walk_ends_in_range atr
  obtain ⟨laid, few, ranging⟩ := (turns 0x8F rfl).2 _ _ loop
  exact ⟨loop, few, ranging, laid, (bounds layout laid).1, rfl⟩

end Atr

end Ccid
