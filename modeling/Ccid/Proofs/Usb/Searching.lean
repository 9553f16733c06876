import Ccid.Proofs.Usb.Claiming
import Ccid.Proofs.Usb.Endpoints

/-!
The reader that is claimed, against the readers that are listed.

Both walk the devices of the bus in order. The search ends with the first device that has the wanted
identifiers and a configuration that cannot be read or is of use; the list leaves out the devices
whose configuration cannot be read. So what is claimed is the first reader listed with these
identifiers, unless an unreadable configuration in front of it ends the search.
-/

namespace Ccid.Usb

variable {vendor product : UInt16}

section Entries

/-- Whether an entry of the list has these identifiers. -/
def ReaderInfo.hasIds (info : ReaderInfo) (vendor product : UInt16) : Bool :=
  info.vendor == vendor && info.product == product

/-- Whether a device is listed with these identifiers. -/
def Device.isListed (device : Device) (vendor product : UInt16) : Bool :=
  device.info?.any (·.hasIds vendor product)

/-- The entry for a device with these identifiers that works with this pair of endpoints. -/
def Device.entry (device : Device) (vendor product : UInt16) (endpoints : BulkPair) : ReaderInfo :=
  { vendor
    product
    bus := device.bus
    address := device.address
    interface := endpoints.interface }

variable {device : Device}

/-- A device with these identifiers can be worked with through this pair of endpoints. -/
structure Device.Works (device : Device) (vendor product : UInt16) (endpoints : BulkPair) :
    Prop where
  ids : device.ids = .ok { vendor, product }
  found : ∃ configuration, device.configuration = .ok configuration ∧
    configuration.bulkPair? = some endpoints

/-- A device has the entry of a pair of endpoints that it can be worked with through. -/
theorem Device.Works.info?_eq {endpoints : BulkPair}
    (works : device.Works vendor product endpoints) :
    device.info? = some (device.entry vendor product endpoints) := by
  obtain ⟨configuration, readable, found⟩ := works.found
  simp [Device.info?, works.ids, readable, found, Device.entry]

/-- A device that is listed with these identifiers can be worked with. -/
theorem Device.works_of_isListed (listed : device.isListed vendor product = true) :
    ∃ endpoints, device.Works vendor product endpoints := by
  -- There is no entry without readable identifiers and a configuration of use.
  unfold Device.isListed Device.info? at listed
  split at listed
  case h_1 ids configuration known readable =>
    cases found : configuration.bulkPair? with
    | none => simp [found] at listed
    | some endpoints =>
      obtain ⟨rfl, rfl⟩ : ids.vendor = vendor ∧ ids.product = product := by
        simpa [found, ReaderInfo.hasIds] using listed
      exact ⟨endpoints, known, configuration, readable, found⟩
  case h_2 => simp at listed

/-- A device that can be worked with is listed with its identifiers. -/
theorem Device.Works.isListed {endpoints : BulkPair}
    (works : device.Works vendor product endpoints) : device.isListed vendor product = true := by
  simp [Device.isListed, works.info?_eq, Device.entry, ReaderInfo.hasIds]

/-- The first entry with these identifiers is that of the first device listed with them. -/
theorem find?_readers (devices : List Device) :
    (devices.filterMap Device.info?).find? (·.hasIds vendor product)
      = (devices.find? (·.isListed vendor product)).bind Device.info? :=
  List.find?_filterMap

end Entries

section Search

/-- A search passes a device over that has other identifiers, or a configuration of no use. -/
def Device.PassedOver (vendor product : UInt16) (device : Device) : Prop :=
  device.ids = .ok { vendor, product } →
    ∃ configuration, device.configuration = .ok configuration ∧
      ∀ setting ∈ configuration.flatten, ¬ setting.Usable

/-- A device with these identifiers has a configuration that cannot be read. -/
structure Device.Unreadable (device : Device) (vendor product : UInt16) (fault : Fault) :
    Prop where
  ids : device.ids = .ok { vendor, product }
  failed : device.configuration = .error fault

/-- The ways in which a search among devices may end. -/
inductive Sought (vendor product : UInt16) : List Device → Attempt → Prop
  /-- Every device is passed over. -/
  | missed {devices : List Device} : (∀ device ∈ devices, device.PassedOver vendor product) →
    Sought vendor product devices { outcome := .error (.notFound vendor product), events := [] }
  /-- A configuration cannot be read. -/
  | stopped {before after : List Device} {device : Device} {fault : Fault} :
    (∀ earlier ∈ before, earlier.PassedOver vendor product) →
    device.Unreadable vendor product fault →
    Sought vendor product (before ++ device :: after)
      { outcome := .error (.usb fault), events := [] }
  /-- A device can be worked with, and is claimed or not. -/
  | tried {before after : List Device} {device : Device} {endpoints : BulkPair}
    {attempt : Attempt} : (∀ earlier ∈ before, earlier.PassedOver vendor product) →
    device.Works vendor product endpoints → Claimed device endpoints attempt →
    Sought vendor product (before ++ device :: after) attempt

/-- A device's identifiers are looked at as a whole. -/
theorem Device.hasIds_iff {device : Device} :
    device.hasIds vendor product = true ↔ device.ids = .ok { vendor, product } := by
  unfold Device.hasIds
  cases device.ids with
  | error => simp
  | ok ids => cases ids; simp

/-- A search that passes a device over ends as it does among the devices after it. -/
theorem Sought.cons {device : Device} {rest : List Device} {attempt : Attempt}
    (passed : device.PassedOver vendor product) (sought : Sought vendor product rest attempt) :
    Sought vendor product (device :: rest) attempt := by
  cases sought with
  | missed others => exact .missed (List.forall_mem_cons.mpr ⟨passed, others⟩)
  | stopped others unreadable =>
    exact .stopped (List.forall_mem_cons.mpr ⟨passed, others⟩) unreadable
  | tried others works claimed =>
    exact .tried (List.forall_mem_cons.mpr ⟨passed, others⟩) works claimed

/-- Every search among devices ends in one of these ways. -/
theorem claimFirst_sought (devices : List Device) :
    Sought vendor product devices (claimFirst vendor product devices) := by
  -- The search goes on behind a device that is passed over, and ends with any other one.
  fun_induction claimFirst vendor product devices with
  | case1 => exact .missed (by simp)
  | case2 device rest wanted fault failed =>
    exact @Sought.stopped _ _ [] rest device fault (by simp) ⟨Device.hasIds_iff.mp wanted, failed⟩
  | case3 device rest wanted configuration readable endpoints found =>
    exact @Sought.tried _ _ [] rest device endpoints _ (by simp)
      ⟨Device.hasIds_iff.mp wanted, configuration, readable, found⟩
      (device.claim_claimed endpoints)
  | case4 device rest wanted configuration readable useless later =>
    exact later.cons fun _ =>
      ⟨configuration, readable, Configuration.bulkPair?_eq_none_iff.mp useless⟩
  | case5 device rest other later =>
    exact later.cons fun ids => absurd (Device.hasIds_iff.mpr ids) other

/-- An attempt to have a reader is a search among the devices of the bus. -/
theorem Bus.claimReader_sought {bus : Bus} {devices : List Device}
    (visible : bus.devices = .ok devices) :
    Sought vendor product devices (bus.claimReader vendor product) := by
  rw [Bus.claimReader, visible]
  exact claimFirst_sought devices

/-- A claim does not fail for want of a reader. -/
theorem Claimed.outcome_ne {device : Device} {endpoints : BulkPair} {attempt : Attempt}
    (claimed : Claimed device endpoints attempt) (otherVendor otherProduct : UInt16) :
    attempt.outcome ≠ .error (.notFound otherVendor otherProduct) := by
  cases claimed with
  | unopened | undetached | had => simp
  | refused =>
    simp only [claimError]
    split <;> simp

/-- A claim that succeeds yields its device and its pair of endpoints. -/
theorem Claimed.reader_eq {device : Device} {endpoints : BulkPair} {attempt : Attempt}
    (claimed : Claimed device endpoints attempt) {reader : Reader}
    (had : attempt.outcome = .ok reader) : reader = { device, endpoints } := by
  cases claimed with
  | unopened | undetached | refused => simp at had
  | had => exact (Except.ok.inj had).symm

end Search

section Agreement

/-- A device that can be worked with is not passed over. -/
theorem Device.Works.not_passedOver {device : Device} {endpoints : BulkPair}
    (works : device.Works vendor product endpoints) : ¬ device.PassedOver vendor product := by
  intro passed
  obtain ⟨configuration, readable, found⟩ := works.found
  obtain ⟨other, also, useless⟩ := passed works.ids
  -- There is one configuration, and it cannot both be of use and not.
  cases Except.ok.inj (readable.symm.trans also)
  rw [Configuration.bulkPair?_eq_none_iff.mpr useless] at found
  contradiction

/-- A device that is passed over is not listed with the identifiers that are sought. -/
theorem Device.PassedOver.unlisted {device : Device}
    (passed : device.PassedOver vendor product) : device.isListed vendor product = false := by
  refine Bool.eq_false_iff.mpr fun listed => ?_
  obtain ⟨endpoints, works⟩ := Device.works_of_isListed listed
  exact works.not_passedOver passed

/-- A device whose configuration cannot be read is not listed. -/
theorem Device.Unreadable.unlisted {device : Device} {fault : Fault}
    (unreadable : device.Unreadable vendor product fault) :
    device.isListed vendor product = false := by
  simp [Device.isListed, Device.info?, unreadable.ids, unreadable.failed]

/-- A device is the first on a bus that is listed with these identifiers. -/
structure FirstListed (vendor product : UInt16) (devices earlier : List Device) (device : Device)
    (endpoints : BulkPair) : Prop where
  place : ∃ later, devices = earlier ++ device :: later
  works : device.Works vendor product endpoints
  unlisted : ∀ other ∈ earlier, other.isListed vendor product = false

variable {devices earlier : List Device} {device : Device} {endpoints : BulkPair}

/-- The first device that is listed is found among all. -/
theorem FirstListed.find?_eq (first : FirstListed vendor product devices earlier device endpoints) :
    devices.find? (·.isListed vendor product) = some device := by
  obtain ⟨later, rfl⟩ := first.place
  refine List.find?_eq_some_iff_append.mpr ⟨first.works.isListed, earlier, later, rfl, ?_⟩
  exact fun other member => by simp [first.unlisted other member]

/-- A device that is found to be the first one listed is so for a pair of endpoints. -/
theorem exists_firstListed (found : devices.find? (·.isListed vendor product) = some device) :
    ∃ earlier endpoints, FirstListed vendor product devices earlier device endpoints := by
  obtain ⟨listed, earlier, later, place, unlisted⟩ := List.find?_eq_some_iff_append.mp found
  obtain ⟨endpoints, works⟩ := Device.works_of_isListed listed
  exact ⟨earlier, endpoints, ⟨later, place⟩, works, fun other member => by
    simpa using unlisted other member⟩

/-- Behind devices that are passed over, one that can be worked with is the first one listed. -/
theorem Device.Works.firstListed (works : device.Works vendor product endpoints)
    (passed : ∀ other ∈ earlier, other.PassedOver vendor product) (later : List Device) :
    FirstListed vendor product (earlier ++ device :: later) earlier device endpoints :=
  { place := ⟨later, rfl⟩
    works
    unlisted := fun other member => (passed other member).unlisted }

/-- Devices that are not listed may stand in front of the first one that is. -/
theorem FirstListed.behind {before : List Device}
    (first : FirstListed vendor product devices earlier device endpoints)
    (unlisted : ∀ other ∈ before, other.isListed vendor product = false) :
    FirstListed vendor product (before ++ devices) (before ++ earlier) device endpoints := by
  obtain ⟨later, rfl⟩ := first.place
  exact
    { place := ⟨later, (List.append_assoc ..).symm⟩
      works := first.works
      unlisted := List.forall_mem_append.mpr ⟨unlisted, first.unlisted⟩ }

namespace Sought

variable {attempt : Attempt}

/-- A search misses exactly if every device is passed over. -/
theorem notFound_iff (sought : Sought vendor product devices attempt) :
    attempt.outcome = .error (.notFound vendor product) ↔
      ∀ device ∈ devices, device.PassedOver vendor product := by
  cases sought with
  | missed passed => simpa using passed
  | stopped _ unreadable =>
    -- The device with the unreadable configuration is not passed over.
    simp only [Except.error.injEq, reduceCtorEq, false_iff]
    intro passed
    obtain ⟨_, readable, _⟩ := passed _ (by simp) unreadable.ids
    rw [unreadable.failed] at readable
    contradiction
  | tried _ works claimed =>
    refine iff_of_false (claimed.outcome_ne vendor product) fun passed => ?_
    exact works.not_passedOver (passed _ (by simp))

/-- A search that yields a reader claims the first device listed with the identifiers. -/
theorem firstListed_of_ok (sought : Sought vendor product devices attempt) {reader : Reader}
    (had : attempt.outcome = .ok reader) :
    Claimed reader.device reader.endpoints attempt ∧
      ∃ earlier, FirstListed vendor product devices earlier reader.device reader.endpoints := by
  cases sought with
  | missed | stopped => simp at had
  | tried passed works claimed =>
    obtain rfl := claimed.reader_eq had
    exact ⟨claimed, _, works.firstListed passed _⟩

/-- A search claims the first device listed, or ends with an unreadable one in front of it. -/
theorem claimed_or_unreadable (sought : Sought vendor product devices attempt)
    (found : devices.find? (·.isListed vendor product) = some device) :
    ∃ earlier endpoints, FirstListed vendor product devices earlier device endpoints ∧
      (Claimed device endpoints attempt ∨
        ∃ faulty ∈ earlier, ∃ fault, faulty.Unreadable vendor product fault ∧
          attempt = { outcome := .error (.usb fault), events := [] }) := by
  cases sought with
  | missed passed =>
    have listed := List.find?_some found
    rw [(passed device (List.mem_of_find?_eq_some found)).unlisted] at listed
    contradiction
  | @stopped before after faulty fault passed unreadable =>
    -- Up to the unreadable device nothing is listed, so the first one listed comes after it.
    have unlisted : ∀ other ∈ before ++ [faulty], other.isListed vendor product = false := by
      rw [List.forall_mem_append, List.forall_mem_singleton]
      exact ⟨fun other member => (passed other member).unlisted, unreadable.unlisted⟩
    have split : before ++ faulty :: after = before ++ [faulty] ++ after := by simp
    rw [split, List.find?_append, List.find?_eq_none.mpr (by simpa using unlisted),
      Option.none_or] at found
    obtain ⟨earlier, endpoints, first⟩ := exists_firstListed found
    rw [split]
    exact ⟨_, endpoints, first.behind unlisted, .inr ⟨faulty, by simp, fault, unreadable, rfl⟩⟩
  | @tried _ after _ _ _ passed works claimed =>
    have first := works.firstListed passed after
    obtain rfl := Option.some.inj (first.find?_eq.symm.trans found)
    exact ⟨_, _, first, .inl claimed⟩

end Sought

end Agreement

/--
The reader that is claimed agrees with the readers that are listed on the same bus.

A reader that is had is the first one listed with its identifiers. If any is listed with them, the
search does not miss: it makes the claim on the first one, or ends with the configuration of a
device in front of it that has the identifiers as well. It misses exactly if every device with the
identifiers has a configuration that is readable and of no use.
-/
theorem claimReader_agrees {bus : Bus} {devices : List Device} (visible : bus.devices = .ok devices)
    (vendor product : UInt16) :
    let attempt := bus.claimReader vendor product
    ∃ readers, bus.readers = .ok readers ∧
      (∀ reader, attempt.outcome = .ok reader →
        Claimed reader.device reader.endpoints attempt ∧ reader.device ∈ devices ∧
          readers.find? (·.hasIds vendor product)
            = some (reader.device.entry vendor product reader.endpoints)) ∧
      (∀ info, readers.find? (·.hasIds vendor product) = some info →
        (∀ otherVendor otherProduct,
          attempt.outcome ≠ .error (.notFound otherVendor otherProduct)) ∧
        ∃ earlier device endpoints,
          FirstListed vendor product devices earlier device endpoints ∧
          info = device.entry vendor product endpoints ∧
          (Claimed device endpoints attempt ∨
            ∃ faulty ∈ earlier, ∃ fault, faulty.Unreadable vendor product fault ∧
              attempt = { outcome := .error (.usb fault), events := [] })) ∧
      (attempt.outcome = .error (.notFound vendor product) ↔
        ∀ device ∈ devices, device.PassedOver vendor product) := by
  intro attempt
  have sought : Sought vendor product devices attempt := Bus.claimReader_sought visible
  refine ⟨devices.filterMap Device.info?, by simp [Bus.readers, visible], ?_, ?_,
    sought.notFound_iff⟩
  · intro reader had
    obtain ⟨claimed, earlier, first⟩ := sought.firstListed_of_ok had
    refine ⟨claimed, List.mem_of_find?_eq_some first.find?_eq, ?_⟩
    rw [find?_readers, first.find?_eq, Option.bind_some, first.works.info?_eq]
  · intro info listed
    -- The first entry is that of the first device listed, which the search is then about.
    rw [find?_readers] at listed
    obtain ⟨device, found, entry⟩ := Option.bind_eq_some_iff.mp listed
    obtain ⟨earlier, endpoints, first, way⟩ := sought.claimed_or_unreadable found
    rw [first.works.info?_eq, Option.some.injEq] at entry
    refine ⟨fun otherVendor otherProduct => ?_, earlier, device, endpoints, first, entry.symm, way⟩
    rcases way with claimed | ⟨_, _, _, _, stopped⟩
    · exact claimed.outcome_ne otherVendor otherProduct
    · simp [stopped]

/-- A reader, and a device of the same make in front of it or behind it that cannot be inspected. -/
theorem claimReader_agrees_uninspected :
    let setting : AlternateSetting :=
      { number := 3, interfaceClass := 0x0B, subclass := 0, endpoints := [⟨0x81, 2⟩, ⟨0x02, 2⟩] }
    let working : Device :=
      { bus := 1, address := 5, ids := .ok { vendor := 0x072F, product := 0x90CC }
        configuration := .ok [[setting]], opening := .ok (), kernelDriver := .ok true
        detaching := .ok (), claiming := .ok (), releasing := .ok ()
        pipe := { writes := [], replies := [] } }
    let uninspected : Device := { working with address := 4, configuration := .error .access }
    let pair : BulkPair := { interface := 3, bulkIn := 0x81, bulkOut := 0x02 }
    let behind : Bus := { devices := .ok [working, uninspected] }
    let inFront : Bus := { devices := .ok [uninspected, working] }
    behind.devices = .ok [working, uninspected] ∧ inFront.devices = .ok [uninspected, working] ∧
      Claimed working pair (behind.claimReader 0x072F 0x90CC) ∧
      (∃ readers, inFront.readers = .ok readers ∧
        readers.find? (·.hasIds 0x072F 0x90CC) = some (working.entry 0x072F 0x90CC pair)) ∧
      (inFront.claimReader 0x072F 0x90CC).outcome = .error (.usb .access) ∧
      (inFront.claimReader 0x072F 0x90CC).outcome ≠ .error (.notFound 0x072F 0x90CC) := by
  intro setting working uninspected pair behind inFront
  -- Both buses list the same reader, but only one search comes to it.
  obtain ⟨_, _, had, _, _⟩ :=
    claimReader_agrees (show behind.devices = .ok [working, uninspected] from rfl) 0x072F 0x90CC
  obtain ⟨readers, listed, _, ends, _⟩ :=
    claimReader_agrees (show inFront.devices = .ok [uninspected, working] from rfl) 0x072F 0x90CC
  obtain rfl : readers = [working.entry 0x072F 0x90CC pair] :=
    Except.ok.inj (listed.symm.trans rfl)
  refine ⟨rfl, rfl, ?_, ⟨_, listed, rfl⟩, rfl, ?_⟩
  · exact (had ⟨working, pair⟩ rfl).1
  · exact (ends _ rfl).1 0x072F 0x90CC

end Ccid.Usb
