import Ccid.Proofs.Json.Forms
import Ccid.Session.Config
import Mathlib.Algebra.Ring.Nat

/-!
The forms of a span of time and of the settings of a session in JSON.

A span is written as seconds and nanoseconds, of which full seconds are carried. Settings are a
record of which any fields may be missing: those that are there override the usual settings.
-/

namespace Ccid

/-- A value that counts seconds and nanoseconds, and nothing else. -/
inductive Duration.Counts : Json → Nat → Nat → Prop
  | secondsFirst (seconds nanos : Nat) :
    Counts (.obj [("secs", .ofNat seconds), ("nanos", .ofNat nanos)]) seconds nanos
  | nanosFirst (seconds nanos : Nat) :
    Counts (.obj [("nanos", .ofNat nanos), ("secs", .ofNat seconds)]) seconds nanos
  | byPosition (seconds nanos : Nat) : Counts (.arr [.ofNat seconds, .ofNat nanos]) seconds nanos

/--
A form of a span: 64-bit seconds and 32-bit nanoseconds.

Full seconds of nanoseconds are carried; where the seconds then exceed 64 bits there is no span.
-/
def Duration.Denoted (value : Json) (span : Duration) : Prop :=
  ∃ seconds nanos, Counts value seconds nanos ∧ seconds < 2 ^ 64 ∧ nanos < 2 ^ 32 ∧
    span.seconds.toNat = seconds + nanos / 1000000000 ∧ span.nanos.toNat = nanos % 1000000000

/-- Settings of a session of which any may be left open. -/
structure Config.Settings where
  timeout : Option Duration
  slot : Option UInt8
  voltage : Option Voltage
  maxTimeExtensions : Option UInt32

/-- The members of a record carry settings, and nothing under the names of those left open. -/
structure Config.Settings.In (settings : Config.Settings) (members : List (String × Json)) :
    Prop where
  timeout : Json.Carries Duration.Denoted members "timeout" settings.timeout
  slot : Json.Carries (fun json slot => json = .ofNat slot.toNat) members "slot" settings.slot
  voltage : Json.Carries Json.Names members "voltage" settings.voltage
  maxTimeExtensions : Json.Carries (fun json limit => json = .ofNat limit.toNat) members
    "max_time_extensions" settings.maxTimeExtensions

/-- A configuration with some of its settings replaced. -/
def Config.overriddenBy (config : Config) (settings : Config.Settings) : Config :=
  { timeout := settings.timeout.getD config.timeout
    slot := settings.slot.getD config.slot
    voltage := settings.voltage.getD config.voltage
    maxTimeExtensions := settings.maxTimeExtensions.getD config.maxTimeExtensions }

/-- A form of a configuration: a record whose members override the usual settings. -/
def Config.Denoted (value : Json) (config : Config) : Prop :=
  ∃ members settings,
    Json.Gives ["timeout", "slot", "voltage", "max_time_extensions"] value members ∧
      Config.Settings.In settings members ∧ config = Config.default.overriddenBy settings

namespace Duration

/-- A span is told by its counts. -/
theorem eq_iff_counts {first second : Duration} :
    first = second ↔ first.seconds.toNat = second.seconds.toNat ∧
      first.nanos.toNat = second.nanos.toNat := by
  cases first
  cases second
  simp only [Duration.mk.injEq, UInt64.toNat_inj, UInt32.toNat_inj]

/-- Parts make up the span that has the seconds they carry to, and the nanoseconds left over. -/
theorem ofParts?_eq_some_iff {seconds : UInt64} {nanos : UInt32} {span : Duration} :
    ofParts? seconds nanos = some span ↔
      span.seconds.toNat = seconds.toNat + nanos.toNat / 1000000000 ∧
        span.nanos.toNat = nanos.toNat % 1000000000 := by
  have left : nanos.toNat % 1000000000 < UInt32.size :=
    Nat.lt_trans (Nat.mod_lt _ (by decide)) (by decide)
  simp only [ofParts?]
  split
  · -- The seconds fit 64 bits, so the span has just the counts that are said.
    rename_i fits
    rw [Option.some.injEq, eq_iff_counts, UInt64.toNat_ofNat_of_lt' fits,
      UInt32.toNat_ofNat_of_lt' left]
    constructor
    · rintro ⟨whole, rest⟩
      exact ⟨whole.symm, rest.symm⟩
    · rintro ⟨whole, rest⟩
      exact ⟨whole.symm, rest.symm⟩
  · rename_i overflow
    constructor
    · rintro ⟨⟩
    · rintro ⟨whole, _⟩
      -- The seconds of a span fit 64 bits, and these do not.
      exact absurd (whole ▸ span.seconds.toNat_lt) overflow

/-- Different names of which each is one of two, and both of these, make up a pair. -/
theorem pair_of_members {members : List (String × Json)} {first second : String}
    (distinct : (members.map Prod.fst).Nodup)
    (known : ∀ member ∈ members, member.1 = first ∨ member.1 = second) {one other : Json}
    (hasFirst : (first, one) ∈ members) (hasSecond : (second, other) ∈ members)
    (different : first ≠ second) :
    members = [(first, one), (second, other)] ∨ members = [(second, other), (first, one)] := by
  match members with
  | [] => cases hasFirst
  | [member] =>
    -- One member cannot have both names.
    rw [List.mem_singleton] at hasFirst hasSecond
    exact absurd (congrArg Prod.fst (hasFirst.trans hasSecond.symm)) different
  | [member, next] =>
    simp only [List.mem_cons, List.not_mem_nil, or_false] at hasFirst hasSecond
    rcases hasFirst with rfl | rfl
    · rcases hasSecond with same | same
      · exact absurd (congrArg Prod.fst same).symm different
      · exact .inl (by rw [same])
    · rcases hasSecond with same | same
      · exact .inr (by rw [same])
      · exact absurd (congrArg Prod.fst same).symm different
  | member :: next :: third :: _ =>
    -- Of three members, two have the same name.
    have names := known member (by simp)
    have nextNames := known next (by simp)
    have thirdNames := known third (by simp)
    simp only [List.map_cons, List.nodup_cons, List.mem_cons, not_or] at distinct
    grind

/-- The values that count seconds and nanoseconds are the records of just these two. -/
theorem counts_iff {value : Json} (proper : value.Proper) {seconds nanos : Nat} :
    Counts value seconds nanos ↔
      ∃ members, Json.Gives ["secs", "nanos"] value members ∧
        (members.all fun member => member.1 == "secs" || member.1 == "nanos") = true ∧
        ("secs", .ofNat seconds) ∈ members ∧ ("nanos", .ofNat nanos) ∈ members := by
  constructor
  · intro counts
    cases counts with
    | secondsFirst => exact ⟨_, .byName _, rfl, by simp, by simp⟩
    | nanosFirst => exact ⟨_, .byName _, rfl, by simp, by simp⟩
    | byPosition => exact ⟨_, .byPosition (Nat.le_refl 2), rfl, by simp, by simp⟩
  · rintro ⟨members, gives, known, hasSeconds, hasNanos⟩
    have distinct := gives.distinct (by decide) proper
    have known : ∀ member ∈ members, member.1 = "secs" ∨ member.1 = "nanos" := by
      simpa using known
    cases gives with
    | byName =>
      rcases pair_of_members distinct known hasSeconds hasNanos (by decide) with rfl | rfl
      · exact .secondsFirst _ _
      · exact .nanosFirst _ _
    | @byPosition items _ =>
      -- With a member for each field there are two items, in the order of the fields.
      match items with
      | [] => cases hasSeconds
      | [_] => simp at hasNanos
      | [first, second] =>
        have isSeconds : Json.ofNat seconds = first := by simpa using hasSeconds
        have isNanos : Json.ofNat nanos = second := by simpa using hasNanos
        subst isSeconds isNanos
        exact .byPosition _ _

/-- A value that counts seconds and nanoseconds is proper. -/
theorem Counts.proper {value : Json} {seconds nanos : Nat} (counts : Counts value seconds nanos) :
    value.Proper := by
  have number : ∀ count, (Json.ofNat count).Proper := fun count => .int _
  cases counts with
  | secondsFirst => exact .obj (by simp) (by simp [number])
  | nanosFirst => exact .obj (by simp) (by simp [number])
  | byPosition => exact .arr (by simp [number])

/-- A span is read from its forms, and from no other proper value. -/
theorem ofJson?_eq_some_iff {value : Json} (proper : value.Proper) {span : Duration} :
    ofJson? value = some span ↔ Denoted value span := by
  simp only [ofJson?, Option.bind_eq_bind, Option.bind_eq_some_iff, Json.record?_eq_some_iff]
  constructor
  · rintro ⟨members, gives, read⟩
    -- Unlike other records, this one has no members of other names.
    split at read
    · rename_i known
      have distinct := gives.distinct (by decide) proper
      simp only [Option.bind_eq_some_iff, Json.field?_eq_some_iff distinct] at read
      obtain ⟨seconds, ⟨_, hasSeconds, isSeconds⟩, nanos, ⟨_, hasNanos, isNanos⟩, parts⟩ := read
      rw [Json.uint64?_eq_some_iff] at isSeconds
      rw [Json.uint32?_eq_some_iff] at isNanos
      subst isSeconds isNanos
      exact ⟨seconds.toNat, nanos.toNat,
        (counts_iff proper).mpr ⟨members, gives, known, hasSeconds, hasNanos⟩,
        seconds.toNat_lt, nanos.toNat_lt, ofParts?_eq_some_iff.mp parts⟩
    · cases read
  · rintro ⟨seconds, nanos, counts, fitsSeconds, fitsNanos, parts⟩
    obtain ⟨members, gives, known, hasSeconds, hasNanos⟩ := (counts_iff proper).mp counts
    have distinct := gives.distinct (by decide) proper
    refine ⟨members, gives, ?_⟩
    rw [if_pos known]
    simp only [Option.bind_eq_some_iff, Json.field?_eq_some_iff distinct]
    -- Both counts fit their words, so the words are read from the counts' forms.
    have wordSeconds : (UInt64.ofNat seconds).toNat = seconds := UInt64.toNat_ofNat_of_lt' fitsSeconds
    have wordNanos : (UInt32.ofNat nanos).toNat = nanos := UInt32.toNat_ofNat_of_lt' fitsNanos
    refine ⟨UInt64.ofNat seconds, ⟨_, hasSeconds, ?_⟩, UInt32.ofNat nanos,
      ⟨_, hasNanos, ?_⟩, ?_⟩
    · rw [Json.uint64?_eq_some_iff, wordSeconds]
    · rw [Json.uint32?_eq_some_iff, wordNanos]
    · rw [ofParts?_eq_some_iff, wordSeconds, wordNanos]
      exact parts

/-- A form of a span is proper, so the span is read from it. -/
theorem ofJson?_of_denoted {value : Json} {span : Duration} (denoted : Denoted value span) :
    ofJson? value = some span := by
  obtain ⟨_, _, counts, parts⟩ := denoted
  exact (ofJson?_eq_some_iff counts.proper).mpr ⟨_, _, counts, parts⟩

/-- A span is written in one of its forms. -/
theorem denoted_json (span : Duration) : Denoted span.json span := by
  refine ⟨_, _, .secondsFirst _ _, span.seconds.toNat_lt, span.nanos.toNat_lt, ?_, ?_⟩
  · -- There is no full second of nanoseconds to be carried.
    rw [Nat.div_eq_of_lt span.nanos_lt, Nat.add_zero]
  · rw [Nat.mod_eq_of_lt span.nanos_lt]

end Duration

namespace Config

variable {value : Json} {members : List (String × Json)}

/-- Settings that different members of a record carry override the usual ones when it is read. -/
theorem ofJson?_of_gives
    (gives : Json.Gives ["timeout", "slot", "voltage", "max_time_extensions"] value members)
    (distinct : (members.map Prod.fst).Nodup) {settings : Settings} (inside : settings.In members) :
    ofJson? value = some (default.overriddenBy settings) := by
  simp only [ofJson?, Option.bind_eq_bind, Option.bind_eq_some_iff, Json.record?_eq_some_iff]
  refine ⟨members, gives, ?_⟩
  simp only [Json.fieldOr?_eq_some_iff distinct]
  -- Each field is read by a reader that accepts the forms that its member may have.
  refine ⟨_, ⟨settings.timeout, ?_, rfl⟩, _, ⟨settings.slot, ?_, rfl⟩,
    _, ⟨settings.voltage, ?_, rfl⟩, _, ⟨settings.maxTimeExtensions, ?_, rfl⟩, rfl⟩
  · exact inside.timeout.imp fun _ _ _ => Duration.ofJson?_of_denoted
  · exact inside.slot.imp fun _ _ _ => Json.uint8?_eq_some_iff.mpr
  · exact inside.voltage.imp fun _ _ _ => Json.named?_eq_some_iff.mpr
  · exact inside.maxTimeExtensions.imp fun _ _ _ => Json.uint32?_eq_some_iff.mpr

/-- A configuration is read from its forms, and from no other proper value. -/
theorem ofJson?_eq_some_iff (proper : value.Proper) {config : Config} :
    ofJson? value = some config ↔ Denoted value config := by
  constructor
  · intro read
    simp only [ofJson?, Option.bind_eq_bind, Option.bind_eq_some_iff, Json.record?_eq_some_iff]
      at read
    obtain ⟨members, gives, read⟩ := read
    simp only [Json.fieldOr?_eq_some_iff (gives.distinct (by decide) proper)] at read
    obtain ⟨_, ⟨timeout, hasTimeout, rfl⟩, _, ⟨slot, hasSlot, rfl⟩,
      _, ⟨voltage, hasVoltage, rfl⟩, _, ⟨limit, hasLimit, rfl⟩, made⟩ := read
    refine ⟨members, { timeout, slot, voltage, maxTimeExtensions := limit }, gives, ?_,
      (Option.some.inj made).symm⟩
    -- What is read from a member is one of its forms, since the member is proper as well.
    constructor
    · exact hasTimeout.imp fun _ _ member =>
        (Duration.ofJson?_eq_some_iff (gives.proper proper _ member)).mp
    · exact hasSlot.imp fun _ _ _ => Json.uint8?_eq_some_iff.mp
    · exact hasVoltage.imp fun _ _ _ => Json.named?_eq_some_iff.mp
    · exact hasLimit.imp fun _ _ _ => Json.uint32?_eq_some_iff.mp
  · rintro ⟨members, settings, gives, inside, rfl⟩
    exact ofJson?_of_gives gives (gives.distinct (by decide) proper) inside

/-- Settings are written as a proper object. -/
theorem json_proper (config : Config) : config.json.Proper := by
  have number : ∀ count, (Json.ofNat count).Proper := fun count => .int _
  have text : (Json.ofNamed config.voltage).Proper := .str _
  have span : config.timeout.json.Proper := (Duration.Counts.secondsFirst _ _).proper
  exact .obj (by simp) (by simp [number, text, span])

/-- A configuration is written in one of its forms, which carries all settings. -/
theorem denoted_json (config : Config) : Denoted config.json config := by
  let settings : Settings :=
    { timeout := some config.timeout
      slot := some config.slot
      voltage := some config.voltage
      maxTimeExtensions := some config.maxTimeExtensions }
  refine ⟨_, settings, .byName _, ?_, rfl⟩
  constructor
  · exact ⟨_, by simp, config.timeout.denoted_json⟩
  · exact ⟨_, by simp, rfl⟩
  · exact ⟨.ofNamed config.voltage, by simp, .text config.voltage⟩
  · exact ⟨_, by simp, rfl⟩

end Config

end Ccid
