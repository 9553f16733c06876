import Ccid.Proofs.Session.Calls

/-!
What a single call makes of what its session knows of the card.

Only a power-on that yields an Answer-To-Reset, and a power-off that the reader does not refuse,
have an effect on it. Every other call, a failed one among them, leaves it alone.
-/

namespace Ccid

/-- What is known of the card: what was done to its power last, and the answer that is kept. -/
structure Card where
  power : PowerState
  atr : Option Atr
  deriving DecidableEq

/-- A card that has not been switched yet. -/
def Card.untouched : Card :=
  ⟨.unknown, none⟩

/-- An Answer-To-Reset is kept exactly while the card counts as powered on. -/
def Card.Consistent (card : Card) : Prop :=
  card.atr.isSome = true ↔ card.power = .poweredOn

/-- What a session knows of the card. -/
def Session.card {Fault : Type} (session : Session Fault) : Card :=
  ⟨session.power, session.lastAtr⟩

namespace Operation

/-- What a call that came out like this makes of the card, if it has an effect on it. -/
def effect? (operation : Operation) (answer : Except ExchangeError Answer) : Option Card :=
  match operation, answer with
  | .powerOn, .ok (.atr atr) => some ⟨.poweredOn, some atr⟩
  | .powerOff, .ok (.response response) =>
    if response.status.command = .failed then none else some ⟨.poweredOff, none⟩
  | _, _ => none

/-- A call that came out like this leaves the card alone. -/
inductive Idle : Operation → Except ExchangeError Answer → Prop
  | slotStatus {answer : Except ExchangeError Answer} : Idle .slotStatus answer
  | transmit {apdu : Octets} {answer : Except ExchangeError Answer} : Idle (.transmit apdu) answer
  /-- The call failed. -/
  | failed {operation : Operation} {error : ExchangeError} : Idle operation (.error error)
  /-- The reader refused to power the card off. -/
  | refused {response : Response} : response.status.command = .failed →
    Idle .powerOff (.ok (.response response))

/-- A call that leaves the card alone has no effect. -/
theorem Idle.effect?_eq {operation : Operation} {answer : Except ExchangeError Answer}
    (idle : operation.Idle answer) : operation.effect? answer = none := by
  cases idle with
  | slotStatus | transmit => rfl
  | failed => cases operation <;> rfl
  | refused failed => rw [effect?, if_pos failed]

/-- Every effect leaves a card that is switched one way or the other, and consistent. -/
theorem consistent_of_effect {operation : Operation} {answer : Except ExchangeError Answer}
    {card : Card} (effect : operation.effect? answer = some card) :
    card.Consistent ∧ card.power ≠ .unknown := by
  -- There are two effects: a kept answer with the power on, and none with the power off.
  unfold effect? at effect
  split at effect
  · cases effect
    simp [Card.Consistent]
  · split at effect
    · simp at effect
    · cases effect
      simp [Card.Consistent]
  · simp at effect

/-- An effect that leaves an Answer-To-Reset is that of a call that yielded it. -/
theorem eq_ok_of_effect {operation : Operation} {answer : Except ExchangeError Answer}
    {card : Card} (effect : operation.effect? answer = some card) {atr : Atr}
    (kept : card.atr = some atr) : answer = .ok (.atr atr) := by
  unfold effect? at effect
  split at effect
  · cases effect
    cases kept
    rfl
  · split at effect
    · simp at effect
    · cases effect
      simp at kept
  · simp at effect

/-- What a call settles on is the effect of what it concludes, or else what was there before. -/
theorem card_settle {Fault : Type} (operation : Operation) (session : Session Fault)
    (response : Response) :
    (session.settle operation response).card
      = (operation.effect? (operation.conclude response)).getD session.card := by
  cases operation with
  | powerOn =>
    -- A power-on that failed concludes an error, and any other one keeps the response's data.
    cases failed : response.status.isFailed <;>
      simp [Session.settle, conclude, Response.accepted, failed, Except.map, effect?, Session.card]
  | powerOff =>
    -- A power-off concludes the response either way, so the status decides again.
    by_cases failed : response.status.command = .failed <;>
      simp [Session.settle, conclude, effect?, Session.card, SlotStatus.isFailed, failed]
  | slotStatus => rfl
  | transmit apdu => rfl

end Operation

namespace Session

variable {Fault : Type} [BulkFault Fault]

/-- After a call the card is what the call's effect makes of it, or else what it was before. -/
theorem card_perform (session : Session Fault) (operation : Operation) :
    (session.perform operation).session.card
      = (operation.effect? (session.perform operation).answer).getD session.card := by
  -- The exchange itself leaves the card alone; only its response may have an effect.
  obtain ⟨atr, power⟩ := (session.issue_exchanged operation).card_eq
  have issued : (session.issue operation).session.card = session.card := by
    rw [card, card, atr, power]
  rw [perform_eq]
  cases (session.issue operation).answer with
  | error error =>
    rw [Operation.Idle.failed.effect?_eq]
    exact issued
  | ok response => rw [← issued, operation.card_settle]

/-- A call keeps the Answer-To-Reset that was kept before, if any, or the one that it yields. -/
theorem lastAtr_perform (session : Session Fault) (operation : Operation) {atr : Atr}
    (kept : (session.perform operation).session.lastAtr = some atr) :
    session.lastAtr = some atr ∨ (session.perform operation).answer = .ok (.atr atr) := by
  have card := session.card_perform operation
  -- Without an effect the card is the same, and an effect tells what was yielded.
  cases effect : operation.effect? (session.perform operation).answer with
  | none =>
    rw [effect, Option.getD_none] at card
    exact Or.inl ((congrArg Card.atr card).symm.trans kept)
  | some changed =>
    rw [effect, Option.getD_some] at card
    exact Or.inr (Operation.eq_ok_of_effect effect ((congrArg Card.atr card).symm.trans kept))

/-- A call that yields an Answer-To-Reset keeps it, and knows that the card is on. -/
theorem card_of_perform_atr {session : Session Fault} {operation : Operation} {atr : Atr}
    (answered : (session.perform operation).answer = .ok (.atr atr)) :
    (session.perform operation).session.lastAtr = some atr ∧
      (session.perform operation).session.power = .poweredOn := by
  -- Only a power-on yields one, and that is its effect.
  obtain ⟨response, _, concluded⟩ := issue_of_perform_ok answered
  obtain ⟨rfl, _, _⟩ := Operation.conclude_eq_atr_iff.mp concluded
  have card := session.card_perform .powerOn
  rw [answered] at card
  exact ⟨congrArg Card.atr card, congrArg Card.power card⟩

end Session

end Ccid
