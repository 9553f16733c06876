import Ccid.Proofs.Usb.Endpoints

/-!
Which endpoints are found in a configuration.

They are those of the first setting that is of use, interface by interface and setting by setting,
and of its bulk endpoints the last in either direction. Settings before it are passed over as a
whole, so that no endpoint of theirs is ever paired with one of another setting.
-/

namespace Ccid.Usb

namespace Endpoint

/-- An endpoint leads to the host exactly if the highest bit of its address is set. -/
theorem direction_eq_inward_iff {endpoint : Endpoint} :
    endpoint.direction = .inward ↔ endpoint.address.toNat.testBit 7 = true := by
  have bound := endpoint.address.toNat_lt
  rw [Nat.testBit_eq_decide_div_mod_eq, decide_eq_true_eq]
  -- An octet has its highest bit set from 128 on.
  by_cases low : endpoint.address.toNat < 128
  · simp only [direction, if_pos low, reduceCtorEq, false_iff]
    omega
  · simp only [direction, if_neg low, true_iff]
    omega

/-- An endpoint leads to the device exactly if the highest bit of its address is clear. -/
theorem direction_eq_outward_iff {endpoint : Endpoint} :
    endpoint.direction = .outward ↔ endpoint.address.toNat.testBit 7 = false := by
  -- There is no third direction.
  rw [← Bool.not_eq_true, ← direction_eq_inward_iff]
  cases endpoint.direction <;> simp

end Endpoint

namespace AlternateSetting

/-- Whether a setting is of use is seen from its class and its endpoints. -/
instance (setting : AlternateSetting) : Decidable setting.Usable :=
  decidable_of_iff
    ((setting.interfaceClass = cardReaderClass ∧ setting.subclass = cardReaderSubclass) ∧
      (∃ endpoint ∈ setting.endpoints, endpoint.isBulk = true ∧ endpoint.direction = .inward) ∧
      ∃ endpoint ∈ setting.endpoints, endpoint.isBulk = true ∧ endpoint.direction = .outward)
    ⟨fun ⟨reader, inward, outward⟩ => ⟨reader, inward, outward⟩,
      fun ⟨reader, inward, outward⟩ => ⟨reader, inward, outward⟩⟩

variable {setting : AlternateSetting}

/-- An endpoint is the last of a setting's bulk endpoints in this direction. -/
structure LastBulk (setting : AlternateSetting) (direction : Direction) (endpoint : Endpoint) :
    Prop where
  bulk : endpoint.isBulk = true
  directed : endpoint.direction = direction
  last : ∃ earlier later, setting.endpoints = earlier ++ endpoint :: later ∧
    ∀ other ∈ later, ¬ (other.isBulk = true ∧ other.direction = direction)

/-- The last bulk endpoint of a setting is one of its endpoints. -/
theorem LastBulk.mem {direction : Direction} {endpoint : Endpoint}
    (last : setting.LastBulk direction endpoint) : endpoint ∈ setting.endpoints := by
  obtain ⟨earlier, later, split, _⟩ := last.last
  rw [split]
  exact List.mem_append_right earlier List.mem_cons_self

/-- The address that is found in a direction is that of the last bulk endpoint in it. -/
theorem lastBulk?_eq_some_iff {direction : Direction} {address : UInt8} :
    setting.lastBulk? direction = some address ↔
      ∃ endpoint, setting.LastBulk direction endpoint ∧ endpoint.address = address := by
  -- The last endpoint that fits is the first one from the end.
  simp only [lastBulk?, List.getLast?_filter, Option.map_eq_some_iff,
    List.find?_eq_some_iff_append, List.reverse_eq_append_iff, List.reverse_cons,
    List.append_assoc, List.singleton_append]
  constructor
  · rintro ⟨endpoint, ⟨fits, back, front, split, passed⟩, rfl⟩
    obtain ⟨bulk, directed⟩ : endpoint.isBulk = true ∧ endpoint.direction = direction := by
      simpa using fits
    refine ⟨endpoint, { bulk, directed, last := ⟨front.reverse, back.reverse, split, ?_⟩ }, rfl⟩
    -- What comes later was passed over on the way from the end.
    intro other member fits
    have unfit := passed other (List.mem_reverse.mp member)
    simp [fits.1, fits.2] at unfit
  · rintro ⟨endpoint, ⟨bulk, directed, earlier, later, split, passed⟩, rfl⟩
    refine ⟨endpoint, ⟨by simp [bulk, directed], later.reverse, earlier.reverse, ?_, ?_⟩, rfl⟩
    · simpa using split
    · intro other member
      rw [Bool.not_eq_true', ← Bool.not_eq_true]
      simpa using passed other (List.mem_reverse.mp member)

/-- The pair that is found in a setting of use is that of its last bulk endpoints. -/
theorem bulkPair?_eq_some_iff {pair : BulkPair} :
    setting.bulkPair? = some pair ↔
      setting.Usable ∧ ∃ inward outward, setting.LastBulk .inward inward ∧
        setting.LastBulk .outward outward ∧
        pair = ⟨setting.number, inward.address, outward.address⟩ := by
  constructor
  · intro found
    have usable := bulkPair?_isSome_iff.mp (Option.isSome_of_eq_some found)
    rw [bulkPair?, if_pos (isCardReader_iff.mpr usable.reader)] at found
    split at found
    case h_1 bulkIn bulkOut foundIn foundOut =>
      -- Either address is that of a last bulk endpoint of this one setting.
      obtain ⟨inward, lastIn, rfl⟩ := lastBulk?_eq_some_iff.mp foundIn
      obtain ⟨outward, lastOut, rfl⟩ := lastBulk?_eq_some_iff.mp foundOut
      exact ⟨usable, inward, outward, lastIn, lastOut, (Option.some.inj found).symm⟩
    case h_2 => simp at found
  · rintro ⟨usable, inward, outward, lastIn, lastOut, rfl⟩
    rw [bulkPair?, if_pos (isCardReader_iff.mpr usable.reader),
      lastBulk?_eq_some_iff.mpr ⟨inward, lastIn, rfl⟩,
      lastBulk?_eq_some_iff.mpr ⟨outward, lastOut, rfl⟩]

end AlternateSetting

namespace Configuration

variable {configuration : Configuration}

/-- A setting is the first one of use, interface by interface and setting by setting. -/
structure FirstUsable (configuration : Configuration) (setting : AlternateSetting) : Prop where
  usable : setting.Usable
  first : ∃ passed earlier later rest,
    configuration = passed ++ (earlier ++ setting :: later) :: rest ∧
      (∀ interface ∈ passed, ∀ other ∈ interface, ¬ other.Usable) ∧
      ∀ other ∈ earlier, ¬ other.Usable

/-- The first setting of use is one of the settings. -/
theorem FirstUsable.mem {setting : AlternateSetting}
    (first : configuration.FirstUsable setting) : setting ∈ configuration.flatten := by
  obtain ⟨passed, earlier, later, rest, split, _⟩ := first.first
  rw [split]
  simp

/-- The first setting of use is the first in which a pair of bulk endpoints is found. -/
theorem find?_eq_some_iff_firstUsable {setting : AlternateSetting} :
    configuration.flatten.find? (fun other => other.bulkPair?.isSome) = some setting ↔
      configuration.FirstUsable setting := by
  have unusable (other : AlternateSetting) :
      (!other.bulkPair?.isSome) = true ↔ ¬ other.Usable := by
    rw [Bool.not_eq_true', ← Bool.not_eq_true, AlternateSetting.bulkPair?_isSome_iff]
  -- The first setting of the flattened list is the first one of its interface, in the first such.
  rw [List.find?_flatten_eq_some_iff, AlternateSetting.bulkPair?_isSome_iff]
  simp only [unusable]
  exact ⟨fun ⟨usable, first⟩ => ⟨usable, first⟩, fun ⟨usable, first⟩ => ⟨usable, first⟩⟩

/-- The pair that is found in a configuration is found in its first setting of use. -/
theorem bulkPair?_eq_some_iff_firstUsable {pair : BulkPair} :
    configuration.bulkPair? = some pair ↔
      ∃ setting, configuration.FirstUsable setting ∧ setting.bulkPair? = some pair := by
  simp only [bulkPair?, List.findSome?_eq_some_iff, ← find?_eq_some_iff_firstUsable,
    List.find?_eq_some_iff_append]
  -- The settings before that one are those in which nothing is found.
  constructor
  · rintro ⟨before, setting, after, split, found, passed⟩
    refine ⟨setting, ⟨Option.isSome_of_eq_some found, before, after, split, ?_⟩, found⟩
    intro other member
    simp [passed other member]
  · rintro ⟨setting, ⟨_, before, after, split, passed⟩, found⟩
    refine ⟨before, setting, after, split, found, ?_⟩
    intro other member
    simpa using passed other member

end Configuration

/--
The endpoints of a configuration are those of its first setting that is of use.

Nothing is found exactly if no setting of any interface is of use. Otherwise the interface is that
of the first such setting, and the endpoints are the last bulk endpoints of that same setting, the
one with the highest bit of its address set and the other with that bit clear.
-/
theorem endpoints_of_first_usable (configuration : Configuration) :
    (configuration.bulkPair? = none ↔
        ∀ interface ∈ configuration, ∀ setting ∈ interface, ¬ setting.Usable) ∧
      (∀ pair, configuration.bulkPair? = some pair ↔
        ∃ setting inward outward, configuration.FirstUsable setting ∧
          setting.LastBulk .inward inward ∧ setting.LastBulk .outward outward ∧
          pair = ⟨setting.number, inward.address, outward.address⟩) ∧
      ∀ pair, configuration.bulkPair? = some pair →
        ∃ interface ∈ configuration, ∃ setting ∈ interface, pair.interface = setting.number ∧
          (∃ inward ∈ setting.endpoints, pair.bulkIn = inward.address ∧
            inward.attributes.toNat % 4 = 2 ∧ pair.bulkIn.toNat.testBit 7 = true) ∧
          ∃ outward ∈ setting.endpoints, pair.bulkOut = outward.address ∧
            outward.attributes.toNat % 4 = 2 ∧ pair.bulkOut.toNat.testBit 7 = false := by
  have found (pair : BulkPair) : configuration.bulkPair? = some pair ↔
      ∃ setting inward outward, configuration.FirstUsable setting ∧
        setting.LastBulk .inward inward ∧ setting.LastBulk .outward outward ∧
        pair = ⟨setting.number, inward.address, outward.address⟩ := by
    rw [Configuration.bulkPair?_eq_some_iff_firstUsable]
    -- Within the first setting of use, the pair is that of its last bulk endpoints.
    constructor
    · rintro ⟨setting, first, pairs⟩
      obtain ⟨_, inward, outward, lastIn, lastOut, same⟩ :=
        AlternateSetting.bulkPair?_eq_some_iff.mp pairs
      exact ⟨setting, inward, outward, first, lastIn, lastOut, same⟩
    · rintro ⟨setting, inward, outward, first, lastIn, lastOut, same⟩
      exact ⟨setting, first, AlternateSetting.bulkPair?_eq_some_iff.mpr
        ⟨first.usable, inward, outward, lastIn, lastOut, same⟩⟩
  refine ⟨?_, found, ?_⟩
  · rw [Configuration.bulkPair?_eq_none_iff]
    exact List.forall_mem_flatten
  · intro pair pairs
    obtain ⟨setting, inward, outward, first, lastIn, lastOut, rfl⟩ := (found pair).mp pairs
    obtain ⟨interface, listed, member⟩ := List.mem_flatten.mp first.mem
    -- The two bits of the transfer type and the bit of the direction are read off the endpoints.
    refine ⟨interface, listed, setting, member, rfl,
      ⟨inward, lastIn.mem, rfl, ?_, Endpoint.direction_eq_inward_iff.mp lastIn.directed⟩,
      ⟨outward, lastOut.mem, rfl, ?_, Endpoint.direction_eq_outward_iff.mp lastOut.directed⟩⟩
    · exact beq_iff_eq.mp lastIn.bulk
    · exact beq_iff_eq.mp lastOut.bulk

/-- A half-equipped setting and one of another class are passed over for one with many endpoints. -/
theorem endpoints_of_first_usable_secondInterface :
    let halved : AlternateSetting :=
      { number := 0, interfaceClass := 0x0B, subclass := 0
        endpoints := [⟨0x81, 2⟩, ⟨0x02, 3⟩, ⟨0x82, 2⟩] }
    let foreign : AlternateSetting :=
      { number := 1, interfaceClass := 0x03, subclass := 0
        endpoints := [⟨0x83, 2⟩, ⟨0x03, 2⟩] }
    let sought : AlternateSetting :=
      { number := 1, interfaceClass := 0x0B, subclass := 0
        endpoints := [⟨0x04, 2⟩, ⟨0x84, 2⟩, ⟨0x85, 3⟩, ⟨0x86, 0x0E⟩, ⟨0x06, 2⟩, ⟨0x87, 1⟩] }
    let configuration : Configuration := [[halved], [], [foreign, sought, halved]]
    configuration.FirstUsable sought ∧
      configuration.bulkPair? = some ⟨1, 0x86, 0x06⟩ ∧
      (∃ interface ∈ configuration, ∃ setting ∈ interface, 1 = setting.number) ∧
      Configuration.bulkPair? [[halved], [], [foreign]] = none := by
  intro halved foreign sought configuration
  have first : configuration.FirstUsable sought :=
    ⟨by decide, [[halved], []], [foreign], [halved], [], rfl, by decide, by decide⟩
  have inward : sought.LastBulk .inward ⟨0x86, 0x0E⟩ :=
    ⟨rfl, rfl, [⟨0x04, 2⟩, ⟨0x84, 2⟩, ⟨0x85, 3⟩], [⟨0x06, 2⟩, ⟨0x87, 1⟩], rfl, by decide⟩
  have outward : sought.LastBulk .outward ⟨0x06, 2⟩ :=
    ⟨rfl, rfl, [⟨0x04, 2⟩, ⟨0x84, 2⟩, ⟨0x85, 3⟩, ⟨0x86, 0x0E⟩], [⟨0x87, 1⟩], rfl, by decide⟩
  obtain ⟨_, found, within⟩ := endpoints_of_first_usable configuration
  have pairs : configuration.bulkPair? = some ⟨1, 0x86, 0x06⟩ :=
    (found _).mpr ⟨sought, _, _, first, inward, outward, rfl⟩
  obtain ⟨interface, listed, setting, member, number, _⟩ := within _ pairs
  exact ⟨first, pairs, ⟨interface, listed, setting, member, number⟩,
    (endpoints_of_first_usable _).1.mpr (by decide)⟩

end Ccid.Usb
