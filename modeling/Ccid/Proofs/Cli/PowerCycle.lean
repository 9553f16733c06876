import Ccid.Cli.Program
import Ccid.Proofs.Cli.Uses
import Ccid.Proofs.Cli.Visits
import Ccid.Proofs.Session.Processing

/-!
What a check of a card certifies by its success.

A check succeeds exactly if a power-off is answered, and then a power-on, whose answer reports no
failure and opens with the expected octets. The answer to the power-off may well report a failure,
since a power-off that is refused counts as answered. So a check certifies a power cycle exactly if
its reader does not refuse to power the card off.
-/

namespace Ccid

/-- A step put into another form has the answer that it had before, if the form tells it. -/
theorem Step.answer_map_eq_ok_iff {Fault Old New : Type} {change : Old → New}
    (telling : ∀ {first second : Old}, change first = change second → first = second)
    {step : Step Fault Old} {answer : Old} :
    (step.map change).answer = .ok (change answer) ↔ step.answer = .ok answer := by
  unfold Step.map
  cases step.answer with
  | error error => simp [Except.map]
  | ok other =>
    simp only [Except.map, Except.ok.injEq]
    exact ⟨telling, congrArg change⟩

namespace Session

section Switching

variable {Fault : Type} [BulkFault Fault] {session : Session Fault} {number : Nat}

/-- A session begins with no frame written, and has written one after its first power-off. -/
theorem counted_of_start {config : Config} {pipe : Pipe Fault}
    (started : Session.start config pipe = .ok session) :
    session.HasWritten 0 ∧ (session.perform .powerOff).session.HasWritten 1 := by
  obtain ⟨_, _, counted⟩ := Session.of_start started
  -- The command for a power-off has no payload, so it is written in any case.
  have fits : Operation.powerOff.payload.length ≤ maxPayloadSize := by decide
  exact ⟨counted, counted.perform_of_fits fits⟩

/-- A power-off yields the answer to its command, whatever the answer reports. -/
theorem powerOff_ok_iff (counted : session.HasWritten number) {response : Response} :
    session.powerOff.answer = .ok response ↔
      ∃ reply, session.Answered number .powerOff reply ∧ reply.answer = response := by
  have called : (session.perform .powerOff).answer = .ok (.response response) ↔
      session.powerOff.answer = .ok response :=
    Step.answer_map_eq_ok_iff Answer.response.inj
  rw [← called, perform_answer_eq_ok_iff counted]
  simp only [Operation.conclude, Except.ok.injEq, Answer.response.injEq]

/-- A power-on yields the data of the answer to its command, unless that reports a failure. -/
theorem powerOn_ok_iff (counted : session.HasWritten number) {atr : Atr} :
    session.powerOn.answer = .ok atr ↔
      ∃ reply, session.Answered number .powerOn reply ∧
        reply.answer.status.command ≠ .failed ∧ atr = ⟨reply.answer.data⟩ := by
  have called : (session.perform .powerOn).answer = .ok (.atr atr) ↔
      session.powerOn.answer = .ok atr :=
    Step.answer_map_eq_ok_iff Answer.atr.inj
  rw [← called, perform_answer_eq_ok_iff counted]
  simp only [Operation.conclude_eq_atr_iff, SlotStatus.isFailed_eq_false_iff, true_and]

end Switching

end Session

namespace Usb

/-- The transfers of a session are seen on its reader as transfers, and nothing else of it is. -/
theorem transfers_observed (reader : Reader) (events : List (Ccid.Event Fault)) :
    transfers (reader.observed events) = reader.observed (events.filter Ccid.Event.isTransfer) := by
  -- An event of a session is a transfer on the bus exactly if it is one in the session.
  have same : Event.isTransfer ∘ Event.ofSession reader.endpoints = Ccid.Event.isTransfer := by
    funext event
    cases event <;> rfl
  rw [transfers, Reader.observed, List.filter_map, same]
  rfl

end Usb

namespace Cli

namespace Checked

variable {opening : Octets} {session : Session Usb.Fault} {use : Use}

/-- A check succeeds after an answered power-off by the octets that a power-on yields. -/
theorem succeeds_iff (checked : Checked opening session use) :
    (∃ report, use.outcome = .ok report) ↔
      (∃ response, session.powerOff.answer = .ok response) ∧
        ∃ atr, session.powerOff.session.powerOn.answer = .ok atr ∧ opening <+: atr.octets := by
  simp only [checked.outcome_iff]
  constructor
  · rintro ⟨_, response, atr, answered, switched, opens, _⟩
    exact ⟨⟨response, answered⟩, atr, switched, opens⟩
  · rintro ⟨⟨response, answered⟩, atr, switched, opens⟩
    exact ⟨.atr atr, response, atr, answered, switched, opens, rfl⟩

/-- Once the power-off is answered, a check transfers what its two calls do. -/
theorem transfers_eq (checked : Checked opening session use) {response : Response}
    (answered : session.powerOff.answer = .ok response) :
    use.events.filter Event.isTransfer
      = (session.perform .powerOff).transfers
        ++ ((session.perform .powerOff).session.perform .powerOn).transfers := by
  -- What is told between the calls is no transfer.
  have told (other : Response) : (checkedOff session other).filter Event.isTransfer
      = (session.perform .powerOff).transfers := by
    simp [checkedOff, Step.transfers, Session.perform, Step.map]
  cases checked with
  | unanswered failed =>
    rw [answered] at failed
    contradiction
  | unpowered | mismatched | opened =>
    rw [List.filter_append, told]
    rfl

end Checked

/-- A reader with a session on it, and its answers to a power-off and to the power-on after it. -/
structure Cycle where
  reader : Usb.Reader
  session : Session Usb.Fault
  off : Reply
  on : Reply

/-- What is transferred on the bus in a power cycle, in this order. -/
def Cycle.transfers (cycle : Cycle) (config : Config) : List Usb.Event :=
  cycle.reader.observed
    (Operation.powerOff.dialogue config 0 cycle.off ++ Operation.powerOn.dialogue config 1 cycle.on)

namespace Invocation

/-- A command line has its card switched off and on, and a text tells how the card then opens. -/
structure Cycled (invocation : Invocation) (bus : Usb.Bus) (text : String) (cycle : Cycle) :
    Prop where
  claimed : (invocation.attempt bus).outcome = .ok cycle.reader
  started : Session.start invocation.config cycle.reader.device.pipe = .ok cycle.session
  off : cycle.session.Answered 0 .powerOff cycle.off
  on : (cycle.session.perform .powerOff).session.Answered 1 .powerOn cycle.on
  switched : cycle.on.answer.status.command ≠ .failed
  opened : ∃ opening, Hex.decode text = .ok opening ∧ opening <+: cycle.on.answer.data

variable {invocation : Invocation} {bus : Usb.Bus} {text : String}

/-- A command line that asks for a check visits its reader for one, if its text denotes octets. -/
theorem run_of_decode (asked : invocation.action = .check text) {opening : Octets}
    (decoded : Hex.decode text = .ok opening) :
    invocation.run bus = invocation.withSession bus (check opening) := by
  simp only [run, asked, withOctets, decoded]

/-- A command line that asks for a check succeeds exactly if there is a power cycle in it. -/
theorem run_succeeds_iff (asked : invocation.action = .check text) :
    (∃ report, (invocation.run bus).outcome = .ok report) ↔
      ∃ cycle, invocation.Cycled bus text cycle := by
  constructor
  · rintro ⟨report, succeeded⟩
    cases decoded : Hex.decode text with
    | error error => simp [run, asked, withOctets, decoded] at succeeded
    | ok opening =>
      rw [run_of_decode asked decoded] at succeeded
      obtain ⟨reader, session, claimed, started, reported⟩ :=
        (invocation.withSession_visited bus (check opening)).outcome_eq_ok_iff.mp succeeded
      obtain ⟨⟨response, answered⟩, atr, switched, opens⟩ :=
        (check_checked opening session).succeeds_iff.mp ⟨report, reported⟩
      -- Both calls are answered by replies under their own counts.
      obtain ⟨counted, next⟩ := Session.counted_of_start started
      obtain ⟨off, offDecided, _⟩ := (Session.powerOff_ok_iff counted).mp answered
      obtain ⟨on, onDecided, sound, rfl⟩ := (Session.powerOn_ok_iff next).mp switched
      exact ⟨⟨reader, session, off, on⟩, claimed, started, offDecided, onDecided, sound,
        opening, decoded, opens⟩
  · rintro ⟨cycle, cycled⟩
    obtain ⟨opening, decoded, opens⟩ := cycled.opened
    -- The replies make both calls succeed, and with them the use of the session and the visit.
    obtain ⟨counted, next⟩ := Session.counted_of_start cycled.started
    have answered := (Session.powerOff_ok_iff counted).mpr ⟨_, cycled.off, rfl⟩
    have switched := (Session.powerOn_ok_iff next).mpr ⟨_, cycled.on, cycled.switched, rfl⟩
    obtain ⟨report, reported⟩ := (check_checked opening cycle.session).succeeds_iff.mpr
      ⟨⟨_, answered⟩, _, switched, opens⟩
    rw [run_of_decode asked decoded]
    exact ⟨report, (invocation.withSession_visited bus (check opening)).outcome_eq_ok_iff.mpr
      ⟨_, _, cycled.claimed, cycled.started, reported⟩⟩

/-- A command line leaves the exit code zero exactly if it succeeds. -/
theorem exitCode_outcome_iff :
    (invocation.outcome bus).exitCode = 0 ↔
      ∃ report, (invocation.run bus).outcome = .ok report := by
  cases result : (invocation.run bus).outcome <;> simp [outcome, result]

namespace Cycled

variable {cycle : Cycle}

/-- What a check with a power cycle in it transfers is that power cycle. -/
theorem transfers_eq (cycled : invocation.Cycled bus text cycle)
    (asked : invocation.action = .check text) :
    Usb.transfers (invocation.run bus).events = cycle.transfers invocation.config := by
  obtain ⟨opening, decoded, _⟩ := cycled.opened
  obtain ⟨settings, _, _⟩ := Session.of_start cycled.started
  obtain ⟨counted, _⟩ := Session.counted_of_start cycled.started
  have answered := (Session.powerOff_ok_iff counted).mpr ⟨_, cycled.off, rfl⟩
  have visited := invocation.withSession_visited bus (check opening)
  -- Of the whole visit, what the two calls transfer is left.
  rw [run_of_decode asked decoded, visited.eq_of_start cycled.claimed cycled.started]
  simp only [Usb.transfers_append, transfers_arrival, Usb.transfers_putAway, List.nil_append,
    List.append_nil, Usb.transfers_observed,
    (check_checked opening cycle.session).transfers_eq answered, cycled.off.transferred,
    cycled.on.transferred, Session.config_perform, settings, Cycle.transfers]

/-- In the power cycles of one command line the answer to the power-off is the same. -/
theorem off_unique (cycled : invocation.Cycled bus text cycle) {other : Cycle}
    (also : invocation.Cycled bus text other) : cycle.off.answer = other.off.answer := by
  obtain ⟨reader, session, off, on⟩ := cycle
  obtain ⟨_, _, otherOff, otherOn⟩ := other
  -- There is one reader, and one session on it.
  cases Except.ok.inj (cycled.claimed.symm.trans also.claimed)
  cases Except.ok.inj (cycled.started.symm.trans also.started)
  exact cycled.off.answer_unique (Session.counted_of_start cycled.started).1 also.off

end Cycled

end Invocation

/--
A check exits with success exactly if its reader answers a power-off and then a power-on, and the
answer to the power-on reports no failure and opens with the expected octets.

Then nothing else is transferred. The success certifies that the power-off did not fail unless the
reader refuses it and goes on to answer the power-on like that.
-/
theorem check_certifies_iff {words : List String} {invocation : Invocation} {text : String}
    (read : Invocation.ofWords words = .ok invocation) (asked : invocation.action = .check text)
    (bus : Usb.Bus) :
    let succeeds := (program words bus).exitCode = 0
    (succeeds ↔ ∃ cycle, invocation.Cycled bus text cycle) ∧
      (∀ cycle, invocation.Cycled bus text cycle →
        Usb.transfers (invocation.run bus).events = cycle.transfers invocation.config) ∧
      ((succeeds → ∃ cycle, invocation.Cycled bus text cycle ∧
          cycle.off.answer.status.command ≠ .failed) ↔
        ¬ ∃ cycle, invocation.Cycled bus text cycle ∧
          cycle.off.answer.status.command = .failed) := by
  intro succeeds
  have certified : succeeds ↔ ∃ cycle, invocation.Cycled bus text cycle := by
    unfold succeeds program
    rw [read]
    exact Invocation.exitCode_outcome_iff.trans (Invocation.run_succeeds_iff asked)
  refine ⟨certified, fun cycle cycled => cycled.transfers_eq asked, ?_, ?_⟩
  · rintro certifies ⟨cycle, cycled, failed⟩
    -- The success would have to stand for a power-off that both failed and did not.
    obtain ⟨other, also, sound⟩ := certifies (certified.mpr ⟨cycle, cycled⟩)
    rw [cycled.off_unique also] at failed
    exact sound failed
  · intro unrefused success
    obtain ⟨cycle, cycled⟩ := certified.mp success
    exact ⟨cycle, cycled, fun failed => unrefused ⟨cycle, cycled, failed⟩⟩

/-- The command line that asks for a check and for nothing else. -/
def plainCheck : Invocation :=
  { vendor := 0x072F, product := 0x90CC, timeoutMillis := 10000, slot := 0, json := false
    verbosity := 0, action := .check "3B8C8001" }

/-- An answer to a power-off, which a reader may refuse because its slot is busy. -/
def offAnswer (refused : Bool) : Response :=
  if refused then { plainAnswer .slotStatus 0 [] with status := ⟨0x40⟩, error := 0xE0 }
  else plainAnswer .slotStatus 0 []

/-- A reader on a bus of its own, and a power cycle in which it refuses the power-off or not. -/
def plainCycle (refused : Bool) : Cycle :=
  let on := plainAnswer .dataBlock 1 [0x3B, 0x8C, 0x80, 0x01, 0x04]
  let settings : Usb.AlternateSetting :=
    { number := 0, interfaceClass := 0x0B, subclass := 0, endpoints := [⟨0x81, 2⟩, ⟨0x02, 2⟩] }
  let device : Usb.Device :=
    { bus := 1, address := 4, ids := .ok { vendor := 0x072F, product := 0x90CC }
      configuration := .ok [[settings]], opening := .ok (), kernelDriver := .ok false
      detaching := .ok (), claiming := .ok (), releasing := .ok ()
      pipe :=
        { writes := [], replies := [.ok (offAnswer refused).encode, .ok on.encode] } }
  { reader := { device, endpoints := { interface := 0, bulkIn := 0x81, bulkOut := 0x02 } }
    session :=
      { config := plainCheck.config, sequence := .initial, lastAtr := none, power := .unknown
        pipe := device.pipe }
    off := ⟨[], offAnswer refused⟩
    on := ⟨[], on⟩ }

/-- The bus that a reader is on alone. -/
def Cycle.bus (cycle : Cycle) : Usb.Bus :=
  { devices := .ok [cycle.reader.device] }

/-- Whether its reader refuses the power-off or not, a check finds its power cycle. -/
theorem plainCycle_cycled (refused : Bool) :
    plainCheck.Cycled (plainCycle refused).bus "3B8C8001" (plainCycle refused) := by
  -- The status of the answer to the power-off is the one thing that differs.
  have opened : ∃ opening, Hex.decode "3B8C8001" = .ok opening ∧
      opening <+: (plainCycle refused).on.answer.data :=
    ⟨[0x3B, 0x8C, 0x80, 0x01], rfl, by cases refused <;> decide⟩
  cases refused <;>
    exact ⟨rfl, by cbv, ⟨by cbv, by simp [plainCycle], ⟨rfl, rfl, rfl, by decide⟩, by decide⟩,
      ⟨by cbv, by simp [plainCycle], ⟨rfl, rfl, rfl, by decide⟩, by decide⟩, by decide, opened⟩

/-- The word for a check alone asks for one. -/
theorem ofWords_plainCheck : Invocation.ofWords ["check"] = .ok plainCheck := by cbv

/-- A check of a card that is switched off and on as asked certifies that it was. -/
theorem check_certifies_iff_cycled :
    let cycle := plainCycle false
    Invocation.ofWords ["check"] = .ok plainCheck ∧
      (program ["check"] cycle.bus).exitCode = 0 ∧
      Usb.transfers (plainCheck.run cycle.bus).events = cycle.transfers plainCheck.config ∧
      ∃ found, plainCheck.Cycled cycle.bus "3B8C8001" found ∧
        found.off.answer.status.command ≠ .failed := by
  intro cycle
  have cycled : plainCheck.Cycled cycle.bus "3B8C8001" cycle := plainCycle_cycled false
  obtain ⟨succeeds, transfers, certifies⟩ :=
    check_certifies_iff ofWords_plainCheck rfl cycle.bus
  have success : (program ["check"] cycle.bus).exitCode = 0 := succeeds.mpr ⟨cycle, cycled⟩
  refine ⟨ofWords_plainCheck, success, transfers cycle cycled, certifies.mpr ?_ success⟩
  rintro ⟨other, also, failed⟩
  -- Any other power cycle would have the same answer to the power-off.
  rw [← cycled.off_unique also] at failed
  exact absurd failed (by decide)

/-- A check succeeds on a reader that refuses to power the card off and then powers it on. -/
theorem refusedPowerOff_checks_out :
    ¬ ∀ (words : List String) (invocation : Invocation) (text : String) (bus : Usb.Bus),
        Invocation.ofWords words = .ok invocation → invocation.action = .check text →
        (program words bus).exitCode = 0 →
        ∃ cycle, invocation.Cycled bus text cycle ∧
          cycle.off.answer.status.command ≠ .failed := by
  intro claimed
  -- The reader refuses the power-off for its busy slot, and the check goes on to the power-on.
  let cycle := plainCycle true
  have cycled : plainCheck.Cycled cycle.bus "3B8C8001" cycle := plainCycle_cycled true
  have success : (program ["check"] cycle.bus).exitCode = 0 := by
    unfold program
    rw [ofWords_plainCheck]
    exact Invocation.exitCode_outcome_iff.mpr
      ((Invocation.run_succeeds_iff rfl).mpr ⟨cycle, cycled⟩)
  obtain ⟨other, also, sound⟩ :=
    claimed ["check"] plainCheck "3B8C8001" cycle.bus ofWords_plainCheck rfl success
  rw [← cycled.off_unique also] at sound
  exact sound (by decide)

end Cli

end Ccid
