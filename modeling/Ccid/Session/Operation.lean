import Ccid.Session.Exchange

/-! The calls on a session, alone and in a row. -/

namespace Ccid

/-- An answer whose command did not fail. -/
def Response.accepted (response : Response) : Except ExchangeError Response :=
  if response.status.isFailed then
    .error (.commandFailed response.status.icc (SlotError.ofOctet response.error))
  else .ok response

/-- The warning that an answer deserves whose payload differs in length from what it announces. -/
def Response.lengthWarning (response : Response) : List Notice :=
  let kept := response.data.length
  if kept < response.payload.length then [.paddingDropped (response.payload.length - kept)]
  else if kept < response.dataLength.toNat then [.dataShort response.dataLength kept]
  else []

namespace Session

variable {Fault : Type} [BulkFault Fault]

/-- Powers the card on, and keeps its Answer-To-Reset. -/
def powerOn (session : Session Fault) : Step Fault Atr :=
  let step := session.exchange .iccPowerOn session.config.voltage.code []
  match step.answer.bind Response.accepted with
  | .error error => { answer := .error error, session := step.session, events := step.events }
  | .ok response =>
    let atr : Atr := ⟨response.data⟩
    { answer := .ok atr
      session := { step.session with lastAtr := some atr, power := .poweredOn }
      events :=
        step.events ++ (response.lengthWarning ++ [Notice.poweredOn atr.octets]).map Event.notice }

/--
Powers the card off.

A reader that answers with a failure leaves the power state and the kept answer as they were.
-/
def powerOff (session : Session Fault) : Step Fault Response :=
  let step := session.exchange .iccPowerOff 0 []
  match step.answer with
  | .error error => { answer := .error error, session := step.session, events := step.events }
  | .ok response =>
    if response.status.isFailed then
      let refused := Notice.powerOffRefused (SlotError.ofOctet response.error)
      { answer := .ok response
        session := step.session
        events := step.events ++ [.notice refused] }
    else
      { answer := .ok response
        session := { step.session with lastAtr := none, power := .poweredOff }
        events := step.events ++ [.notice .poweredOff] }

/-- Asks for the state of the slot. -/
def slotStatus (session : Session Fault) : Step Fault Response :=
  session.exchange .getSlotStatus 0 []

/-- Sends octets to the card; its answer has to come in one block. -/
def transmit (session : Session Fault) (apdu : Octets) : Step Fault Octets :=
  let step := session.exchange .xfrBlock 0 apdu
  match step.answer.bind Response.accepted with
  | .error error => { answer := .error error, session := step.session, events := step.events }
  | .ok response =>
    if response.chainParameter ≠ 0 then
      { answer := .error (.chainingUnsupported response.chainParameter)
        session := step.session
        events := step.events }
    else
      { answer := .ok response.data
        session := step.session
        events := step.events ++ response.lengthWarning.map Event.notice }

end Session

/-- A call on a session. -/
inductive Operation where
  | powerOn
  | powerOff
  | slotStatus
  | transmit (apdu : Octets)
  deriving DecidableEq, Repr

/-- What a call yields when it succeeds. -/
inductive Answer where
  | atr (atr : Atr)
  | response (response : Response)
  | data (octets : Octets)
  deriving DecidableEq, Repr

/-- A step with its answer put into another form. -/
def Step.map {Fault Old New : Type} (change : Old → New) (step : Step Fault Old) :
    Step Fault New :=
  { answer := step.answer.map change, session := step.session, events := step.events }

namespace Session

variable {Fault : Type} [BulkFault Fault]

/-- Makes one call. -/
def perform (session : Session Fault) : Operation → Step Fault Answer
  | .powerOn => session.powerOn.map .atr
  | .powerOff => session.powerOff.map .response
  | .slotStatus => session.slotStatus.map .response
  | .transmit apdu => (session.transmit apdu).map .data

/-- Makes calls one after another, whether or not they succeed. -/
def run (session : Session Fault) : List Operation → List (Step Fault Answer)
  | [] => []
  | operation :: rest =>
    let step := session.perform operation
    step :: step.session.run rest

end Session

end Ccid
