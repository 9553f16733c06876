import Ccid.Proofs.Session.Card
import Ccid.Proofs.Session.Runs

/-!
What a session knows of the card in the course of a run.

The card is what the last effective call of the history made it. An Answer-To-Reset is therefore
kept exactly while the card counts as powered on, and a card that was switched once stays known.
-/

namespace Ccid

namespace Session

variable {Fault : Type} [BulkFault Fault]

/-- The calls of a run, and what each of them yielded. -/
def history (session : Session Fault) (operations : List Operation) :
    List (Operation × Except ExchangeError Answer) :=
  operations.zip ((session.run operations).map Step.answer)

/-- The effects that the calls of a run had on the card, in their order. -/
def effects (session : Session Fault) (operations : List Operation) : List Card :=
  (session.history operations).filterMap fun call => call.1.effect? call.2

/-- The effects of a run are the effect of its first call, if any, and those of the others. -/
theorem effects_cons (session : Session Fault) (operation : Operation) (rest : List Operation) :
    session.effects (operation :: rest)
      = (operation.effect? (session.perform operation).answer).toList
        ++ (session.perform operation).session.effects rest := by
  simp only [effects, history, run, List.map_cons, List.zip_cons_cons, List.filterMap_cons]
  cases operation.effect? (session.perform operation).answer <;> rfl

/-- After a run the card is what the last effect made of it, or else what it was before. -/
theorem card_after (session : Session Fault) (operations : List Operation) :
    (session.after operations).card = (session.effects operations).getLast?.getD session.card := by
  -- Each call hands the card on to the next, either changed by its effect or unchanged.
  induction operations generalizing session with
  | nil => rfl
  | cons operation rest ih =>
    rw [after, ih, card_perform, effects_cons]
    cases operation.effect? (session.perform operation).answer with
    | none => rfl
    | some card =>
      rw [Option.toList_some, List.singleton_append, List.getLast?_cons]
      rfl

/-- After a run the card is as it was before, or an effect made it what it is. -/
theorem card_after_cases (session : Session Fault) (operations : List Operation) :
    (session.after operations).card = session.card ∨
      ∃ (operation : Operation) (answer : Except ExchangeError Answer),
        operation.effect? answer = some (session.after operations).card := by
  cases last : (session.effects operations).getLast? with
  | none =>
    left
    rw [card_after, last, Option.getD_none]
  | some card =>
    -- The last effect is the effect of some call of the history.
    right
    obtain ⟨call, _, effect⟩ := List.mem_filterMap.mp (List.mem_of_getLast? last)
    refine ⟨call.1, call.2, ?_⟩
    rw [card_after, last, Option.getD_some, effect]

/-- A card that was consistent before a run is consistent after it. -/
theorem consistent_after {session : Session Fault} (consistent : session.card.Consistent)
    (operations : List Operation) : (session.after operations).card.Consistent := by
  rcases session.card_after_cases operations with same | ⟨operation, answer, effect⟩
  · rw [same]
    exact consistent
  · exact (Operation.consistent_of_effect effect).1

/-- A card that was switched before a run is not unknown after it. -/
theorem switched_after {session : Session Fault} (switched : session.power ≠ .unknown)
    (operations : List Operation) : (session.after operations).power ≠ .unknown := by
  rcases session.card_after_cases operations with same | ⟨operation, answer, effect⟩
  · rw [show (session.after operations).power = session.power from congrArg Card.power same]
    exact switched
  · exact (Operation.consistent_of_effect effect).2

end Session

/-- A new session knows nothing of the card. -/
theorem Session.card_of_start {Fault : Type} {config : Config} {pipe : Pipe Fault}
    {session : Session Fault} (started : Session.start config pipe = .ok session) :
    session.card = .untouched := by
  obtain ⟨_, rfl⟩ := Session.start_eq_ok_iff.mp started
  rfl

/--
In every session that is reached, the card is what the last effective call of the history made it.

It is consistent, calls without an effect leave it alone, and once it was switched it never becomes
unknown again.
-/
theorem card_follows_history {Fault : Type} [BulkFault Fault] {config : Config}
    {pipe : Pipe Fault} {session : Session Fault}
    (started : Session.start config pipe = .ok session) (operations : List Operation) :
    let reached := session.after operations
    (reached.lastAtr.isSome = true ↔ reached.power = .poweredOn) ∧
      reached.card = (session.effects operations).getLast?.getD .untouched ∧
      (∀ operation, operation.Idle (reached.perform operation).answer →
        (reached.perform operation).session.card = reached.card) ∧
      (reached.power ≠ .unknown → ∀ more, (reached.after more).power ≠ .unknown) := by
  intro reached
  have untouched := Session.card_of_start started
  refine ⟨?_, ?_, ?_, ?_⟩
  · -- Neither an answer nor the power is there at the start, and effects come in pairs.
    have consistent : session.card.Consistent := by
      rw [untouched]
      simp [Card.Consistent, Card.untouched]
    exact Session.consistent_after consistent operations
  · rw [← untouched]
    exact session.card_after operations
  · intro operation idle
    rw [reached.card_perform, idle.effect?_eq, Option.getD_none]
  · intro switched more
    exact Session.switched_after switched more

/-- A power-on, a transmission that times out, and a power-off that the reader refuses. -/
theorem card_follows_history_refusedPowerOff :
    let answer : Octets := [0x80, 2, 0, 0, 0, 0, 0, 0, 0, 0, 0x3B, 0x00]
    let refusal : Octets := [0x81, 0, 0, 0, 0, 0, 2, 0x40, 0xFE, 0]
    let pipe : Pipe TransportError :=
      { writes := [], replies := [.ok answer, .error .timeout, .ok refusal] }
    let session : Session TransportError :=
      { config := .default, sequence := .initial, lastAtr := none, power := .unknown, pipe }
    let operations : List Operation := [.powerOn, .transmit [0x00, 0x84], .powerOff]
    let reached := session.after operations
    Session.start .default pipe = .ok session ∧
      reached.card = ⟨.poweredOn, some ⟨[0x3B, 0x00]⟩⟩ ∧
      ∀ more, (reached.after more).power ≠ .unknown := by
  intro answer refusal pipe session operations reached
  have started : Session.start .default pipe = .ok session :=
    Session.start_of_valid Config.validate_default
  have effects : session.effects operations = [⟨.poweredOn, some ⟨[0x3B, 0x00]⟩⟩] := by
    decide +kernel
  obtain ⟨_, card, _, switched⟩ := card_follows_history started operations
  rw [effects] at card
  refine ⟨started, card, switched ?_⟩
  rw [show reached.power = .poweredOn from congrArg Card.power card]
  decide

end Ccid
