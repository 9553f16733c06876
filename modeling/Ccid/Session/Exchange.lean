import Ccid.Session.Basic

/-!
One command and the wait for its answer.

A transfer is an answer only if it has a full header, carries the command's number, names the
session's slot, and is of the kind that the command expects. Nothing is sent twice.
-/

namespace Ccid

/-- The answer in a transfer, or the first reason why it is none. -/
def checkResponse (command : Command) (current : UInt8) (transfer : Octets) :
    Except ExchangeError Response :=
  let expected := command.kind.expected
  match Response.decode transfer with
  | .error (.truncated length) => .error (.shortRead length)
  | .error (.unknownKind code) => .error (.unexpectedKind expected code)
  | .ok response =>
    if response.sequence ≠ current then
      .error (.sequenceMismatch current response.sequence)
    else if response.slot ≠ command.slot then
      .error (.slotMismatch command.slot response.slot)
    else if response.kind ≠ expected then
      .error (.unexpectedKind expected response.kind.code)
    else .ok response

/-- What a wait for an answer leaves: the answer, the replies not yet read, and what was seen. -/
structure Wait (Fault : Type) where
  answer : Except ExchangeError Response
  unread : List (Except Fault Octets)
  events : List (Event Fault)

/-- A wait that saw something before. -/
def Wait.after {Fault : Type} (events : List (Event Fault)) (wait : Wait Fault) : Wait Fault :=
  { wait with events := events ++ wait.events }

/--
Reads until a transfer is no time extension.

`check` judges a transfer, `limit` is how many extensions are granted, and `granted` counts those
granted so far, in 32 bits.
-/
def awaitAnswer {Fault : Type} [BulkFault Fault] (check : Octets → Except ExchangeError Response)
    (limit : UInt32) (timeout : Duration) (granted : UInt32) :
    List (Except Fault Octets) → Wait Fault
  | [] =>
    -- A read that nothing answers times out.
    let fault := BulkFault.timeout
    { answer := .error (.ofTransport (BulkFault.cause fault))
      unread := []
      events := [.read readLimit timeout (.error fault)] }
  | .error fault :: unread =>
    { answer := .error (.ofTransport (BulkFault.cause fault))
      unread
      events := [.read readLimit timeout (.error fault)] }
  | .ok sent :: unread =>
    -- A read never yields more than it asks for.
    let transfer := sent.take readLimit
    let seen := [.read readLimit timeout (.ok transfer), .notice (.received transfer)]
    match check transfer with
    | .error error => { answer := .error error, unread, events := seen }
    | .ok response =>
      if response.status.isTimeExtension then
        let count := granted + 1
        if count > limit then
          { answer := .error (.tooManyTimeExtensions limit), unread, events := seen }
        else
          (awaitAnswer check limit timeout count unread).after
            (seen ++ [.notice (.timeExtension count)])
      else { answer := .ok response, unread, events := seen }

namespace Session

variable {Fault : Type} [BulkFault Fault]

/-- The command that a session issues next. -/
def command (session : Session Fault) (kind : CommandKind) (reserved : UInt8)
    (payload : Octets) : Command :=
  { kind
    slot := session.config.slot
    sequence := session.sequence.upcoming
    reserved
    parameter := 0
    payload }

/-- Writes a frame, and waits for the answer to its command if all of it was taken. -/
def send (session : Session Fault) (command : Command) (frame : Octets) : Step Fault Response :=
  let timeout := session.config.timeout
  let (outcome, pipe) := session.pipe.write frame
  let events := [.notice (.sending frame), .write frame timeout outcome]
  match outcome with
  | .error fault =>
    { answer := .error (.ofTransport (BulkFault.cause fault))
      session := { session with pipe }
      events }
  | .ok written =>
    if written ≠ frame.length then
      { answer := .error (.shortWrite written frame.length)
        session := { session with pipe }
        events }
    else
      let check := checkResponse command session.sequence.current
      let wait := awaitAnswer check session.config.maxTimeExtensions timeout 0 pipe.replies
      { answer := wait.answer
        session := { session with pipe := { pipe with replies := wait.unread } }
        events := events ++ wait.events }

/--
Issues one command and waits for its answer.

A payload that no frame can hold is refused before a number is spent on it.
-/
def exchange (session : Session Fault) (kind : CommandKind) (reserved : UInt8)
    (payload : Octets) : Step Fault Response :=
  match checkPayloadLength payload.length with
  | .error error => { answer := .error (.encoding error), session, events := [] }
  | .ok _ =>
    let command := session.command kind reserved payload
    let session := { session with sequence := session.sequence.advance }
    match command.encode with
    | .error error => { answer := .error (.encoding error), session, events := [] }
    | .ok frame => session.send command frame

end Session

end Ccid
