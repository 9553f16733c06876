import Ccid.Atr
import Ccid.Message.Status
import Ccid.Proofs.Json.Reading
import Ccid.Proofs.Json.Settings
import Ccid.Usb.Reader

/-!
Values that are written as JSON are read back unchanged.

What is read from a value is written in a form of its own, and this form is read as the same again,
however the value was written. Settings may be read from any object, and what it leaves open has the
usual value.
-/

namespace Ccid

/-- An Answer-To-Reset has one form: the array of its octets' numbers. -/
def Atr.Denoted (value : Json) (atr : Atr) : Prop :=
  value = .arr (atr.octets.map fun octet => .ofNat octet.toNat)

/-- A status has one form: the number of its octet. -/
def SlotStatus.Denoted (value : Json) (status : SlotStatus) : Prop :=
  value = .ofNat status.octet.toNat

/-- A form of a listed reader: a record with all of its fields. -/
def Usb.ReaderInfo.Denoted (value : Json) (info : ReaderInfo) : Prop :=
  ∃ members,
    Json.Gives ["vendor_id", "product_id", "bus", "address", "interface"] value members ∧
      ("vendor_id", .ofNat info.vendor.toNat) ∈ members ∧
      ("product_id", .ofNat info.product.toNat) ∈ members ∧
      ("bus", .ofNat info.bus.toNat) ∈ members ∧
      ("address", .ofNat info.address.toNat) ∈ members ∧
      ("interface", .ofNat info.interface.toNat) ∈ members

/--
Values are written as JSON in one of their forms, and read from all of them.

A proper value is read as another one exactly if it is a form of this one.
-/
structure Json.Stable {Value : Type} (denoted : Json → Value → Prop) (write : Value → Json)
    (read : Json → Option Value) : Prop where
  proper : ∀ value, (write value).Proper
  accepted : ∀ json value, json.Proper → (read json = some value ↔ denoted json value)
  readBack : ∀ value, read (write value) = some value
  /-- What was read is written in a form that denotes it as well and is read as the same. -/
  rewritten : ∀ json value, read json = some value →
    denoted (write value) value ∧ read (write value) = some value

namespace Json

variable {Value : Type} {denoted : Json → Value → Prop} {write : Value → Json}
  {read : Json → Option Value}

/-- Values are stable as JSON if they are written in a proper form, and read from just their forms. -/
theorem Stable.of_forms (proper : ∀ value, (write value).Proper)
    (formed : ∀ value, denoted (write value) value)
    (accepted : ∀ json value, json.Proper → (read json = some value ↔ denoted json value)) :
    Stable denoted write read := by
  have readBack : ∀ value, read (write value) = some value :=
    fun value => (accepted _ value (proper value)).mpr (formed value)
  exact ⟨proper, accepted, readBack, fun _ value _ => ⟨formed value, readBack value⟩⟩

end Json

/-- Settings are stable as JSON. -/
theorem Config.stable : Json.Stable Config.Denoted Config.json Config.ofJson? :=
  .of_forms Config.json_proper Config.denoted_json
    fun _ _ proper => Config.ofJson?_eq_some_iff proper

/-- An Answer-To-Reset is stable as JSON. -/
theorem Atr.stable : Json.Stable Atr.Denoted Atr.json Atr.ofJson? := by
  refine .of_forms (fun atr => .arr ?_) (fun _ => rfl) fun json atr _ => ?_
  · intro item member
    obtain ⟨octet, _, rfl⟩ := List.mem_map.mp member
    exact .int _
  · rw [Atr.ofJson?, Option.map_eq_some_iff]
    simp only [Json.octets?_eq_some_iff]
    constructor
    · rintro ⟨octets, rfl, rfl⟩
      rfl
    · rintro rfl
      exact ⟨atr.octets, rfl, rfl⟩

/-- A status is stable as JSON. -/
theorem SlotStatus.stable : Json.Stable SlotStatus.Denoted SlotStatus.json SlotStatus.ofJson? := by
  refine .of_forms (fun _ => .int _) (fun _ => rfl) fun json status _ => ?_
  rw [SlotStatus.ofJson?, Option.map_eq_some_iff]
  simp only [Json.uint8?_eq_some_iff]
  constructor
  · rintro ⟨octet, rfl, rfl⟩
    rfl
  · rintro rfl
    exact ⟨status.octet, rfl, rfl⟩

namespace Usb.ReaderInfo

/-- A listed reader is read from its forms, and from no other proper value. -/
theorem ofJson?_eq_some_iff {value : Json} (proper : value.Proper) {info : ReaderInfo} :
    ofJson? value = some info ↔ Denoted value info := by
  simp only [ofJson?, Option.bind_eq_bind, Option.bind_eq_some_iff, Json.record?_eq_some_iff]
  unfold Denoted
  -- Reader and forms go by the same members, which have different names.
  apply exists_congr
  intro members
  apply and_congr_right
  intro gives
  simp only [Json.field?_eq_some_iff (gives.distinct (by decide) proper), Json.uint8?_eq_some_iff,
    Json.uint16?_eq_some_iff, exists_eq_right]
  constructor
  · rintro ⟨vendor, hasVendor, product, hasProduct, bus, hasBus, address, hasAddress,
      interface, hasInterface, made⟩
    cases made
    exact ⟨hasVendor, hasProduct, hasBus, hasAddress, hasInterface⟩
  · rintro ⟨hasVendor, hasProduct, hasBus, hasAddress, hasInterface⟩
    exact ⟨_, hasVendor, _, hasProduct, _, hasBus, _, hasAddress, _, hasInterface, rfl⟩

/-- A listed reader is stable as JSON. -/
theorem stable : Json.Stable Denoted json ofJson? := by
  have number : ∀ count, (Json.ofNat count).Proper := fun count => .int _
  refine .of_forms (fun info => .obj (by simp) (by simp [number])) (fun info => ?_)
    fun _ _ proper => ofJson?_eq_some_iff proper
  exact ⟨_, .byName _, by simp, by simp, by simp, by simp, by simp⟩

end Usb.ReaderInfo

/--
Values that are written as JSON are read back unchanged, and what is read is written in a stable form.

This holds of settings, of an Answer-To-Reset, of a status and of a listed reader. Each of them is
read from its forms and from nothing else. An object yields the usual settings, overridden by just
those that it carries, in whatever order and among whatever other members. Every JSON text denotes
a proper value, so the forms are all that can be read from texts.
-/
theorem serialized_values_read_back :
    Json.Stable Config.Denoted Config.json Config.ofJson? ∧
      Json.Stable Atr.Denoted Atr.json Atr.ofJson? ∧
      Json.Stable SlotStatus.Denoted SlotStatus.json SlotStatus.ofJson? ∧
      Json.Stable Usb.ReaderInfo.Denoted Usb.ReaderInfo.json Usb.ReaderInfo.ofJson? ∧
      (∀ members settings, (members.map Prod.fst).Nodup → Config.Settings.In settings members →
        Config.ofJson? (.obj members) = some (Config.default.overriddenBy settings)) ∧
      ∀ text value, Json.ofText? text = some value → value.Proper :=
  ⟨Config.stable, Atr.stable, SlotStatus.stable, Usb.ReaderInfo.stable,
    fun members _ distinct => Config.ofJson?_of_gives (.byName members) distinct,
    fun _ _ => Json.proper_of_ofText?⟩

/-- Two settings around a member of another name, one of them with nanoseconds to be carried. -/
theorem serialized_values_read_back_carried :
    let text := "\x7b\"voltage\": \"V3\", \"colour\": \"red\", \"timeout\": [1, 2500000000]\x7d"
    let members : List (String × Json) :=
      [("voltage", .str "V3"), ("colour", .str "red"),
        ("timeout", .arr [.ofNat 1, .ofNat 2500000000])]
    let config : Config :=
      { timeout := { seconds := 3, nanos := 500000000 }
        slot := 0
        voltage := .volts3
        maxTimeExtensions := 32 }
    Json.ofText? text = some (.obj members) ∧ (Json.obj members).Proper ∧
      Config.ofJson? (.obj members) = some config ∧ Config.Denoted (.obj members) config ∧
      Config.Denoted config.json config ∧ Config.ofJson? config.json = some config := by
  intro text members config
  have written : Json.ofText? text = some (.obj members) := by
    simp only [Json.ofText?, text, String.reduceToList]
    rfl
  obtain ⟨stable, _, _, _, overriding, proper⟩ := serialized_values_read_back
  have isProper := proper text _ written
  let settings : Config.Settings :=
    { timeout := some config.timeout
      slot := none
      voltage := some .volts3
      maxTimeExtensions := none }
  have inside : settings.In members := by
    -- The other name is not among those of the settings, so it stands in nobody's way.
    constructor
    · exact ⟨_, by simp [members], _, _, .byPosition 1 2500000000, by decide, by decide, rfl, rfl⟩
    · simp [Json.Carries, settings, members]
    · exact ⟨.str "V3", by simp [members], .text Voltage.volts3⟩
    · simp [Json.Carries, settings, members]
  have read : Config.ofJson? (.obj members) = some config :=
    overriding members settings (by decide) inside
  obtain ⟨formed, again⟩ := stable.rewritten _ _ read
  exact ⟨written, isProper, read, (stable.accepted _ _ isProper).mp read, formed, again⟩

end Ccid
