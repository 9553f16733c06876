import Ccid.Usb.Configuration

/-!
Which settings of an interface are of use for a card reader.

Such a setting has a card reader's class and subclass, and a bulk endpoint in either direction. A
configuration has a pair of bulk endpoints to work with exactly if one of its settings is of use.
-/

namespace Ccid.Usb

namespace AlternateSetting

/-- A setting has a bulk endpoint in this direction. -/
def HasBulk (setting : AlternateSetting) (direction : Direction) : Prop :=
  ∃ endpoint ∈ setting.endpoints, endpoint.isBulk = true ∧ endpoint.direction = direction

/-- A setting is a card reader's, and data can be carried to it and from it. -/
structure Usable (setting : AlternateSetting) : Prop where
  reader : setting.interfaceClass = cardReaderClass ∧ setting.subclass = cardReaderSubclass
  inward : setting.HasBulk .inward
  outward : setting.HasBulk .outward

variable {setting : AlternateSetting}

/-- A setting is a card reader's by its class and its subclass. -/
theorem isCardReader_iff :
    setting.isCardReader = true ↔
      setting.interfaceClass = cardReaderClass ∧ setting.subclass = cardReaderSubclass := by
  simp [isCardReader]

/-- A last bulk endpoint is found in a direction exactly if there is one at all. -/
theorem lastBulk?_isSome_iff {direction : Direction} :
    (setting.lastBulk? direction).isSome = true ↔ setting.HasBulk direction := by
  -- The endpoints that fit have a last one unless there are none of them.
  rw [lastBulk?, Option.isSome_map, List.getLast?_isSome, ne_eq, List.filter_eq_nil_iff]
  simp [HasBulk]

/-- A pair of bulk endpoints is found in a setting exactly if the setting is of use. -/
theorem bulkPair?_isSome_iff : setting.bulkPair?.isSome = true ↔ setting.Usable := by
  constructor
  · intro found
    unfold bulkPair? at found
    split at found
    case isTrue reader =>
      split at found
      case h_1 bulkIn bulkOut inward outward =>
        exact
          { reader := isCardReader_iff.mp reader
            inward := lastBulk?_isSome_iff.mp (Option.isSome_of_eq_some inward)
            outward := lastBulk?_isSome_iff.mp (Option.isSome_of_eq_some outward) }
      case h_2 => simp at found
    case isFalse => simp at found
  · intro usable
    -- Both endpoints are there, so they make a pair.
    obtain ⟨bulkIn, inward⟩ := Option.isSome_iff_exists.mp (lastBulk?_isSome_iff.mpr usable.inward)
    obtain ⟨bulkOut, outward⟩ :=
      Option.isSome_iff_exists.mp (lastBulk?_isSome_iff.mpr usable.outward)
    rw [bulkPair?, if_pos (isCardReader_iff.mpr usable.reader), inward, outward]
    rfl

end AlternateSetting

/-- No pair of bulk endpoints is found exactly if no setting is of use. -/
theorem Configuration.bulkPair?_eq_none_iff {configuration : Configuration} :
    configuration.bulkPair? = none ↔ ∀ setting ∈ configuration.flatten, ¬ setting.Usable := by
  simp only [bulkPair?, List.findSome?_eq_none_iff, ← AlternateSetting.bulkPair?_isSome_iff,
    Option.not_isSome_iff_eq_none]

end Ccid.Usb
