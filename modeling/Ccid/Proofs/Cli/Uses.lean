import Ccid.Cli.Run

/-!
The ways in which the uses of a session that make two calls may go.

Octets are sent after a power-on, and a card is checked by a power-off and a power-on. The second
call is made on what the first one leaves, and only if that succeeded.
-/

namespace Ccid

/-- The octets that an Answer-To-Reset starts with are those that it opens with. -/
theorem Atr.startsWith_iff {atr : Atr} {opening : Octets} :
    atr.startsWith opening = true ↔ opening <+: atr.octets :=
  List.isPrefixOf_iff_prefix

namespace Cli

/-- The ways in which the sending of octets may go. -/
inductive Transmitted (apdu : Octets) (session : Session Usb.Fault) : Use → Prop
  /-- The power-on fails. -/
  | unpowered {error : ExchangeError} : session.powerOn.answer = .error error →
    Transmitted apdu session
      { outcome := .error (.exchange error), events := session.powerOn.events }
  /-- The octets are sent to the powered card. -/
  | sent {atr : Atr} : session.powerOn.answer = .ok atr →
    Transmitted apdu session
      { outcome := (Use.ofStep .answer (session.powerOn.session.transmit apdu)).outcome
        events := session.powerOn.events ++ (session.powerOn.session.transmit apdu).events }

/-- Every sending goes one of these ways. -/
theorem transmit_transmitted (apdu : Octets) (session : Session Usb.Fault) :
    Transmitted apdu session (transmit apdu session) := by
  fun_cases transmit apdu session with
  | case1 _ _ failed => exact .unpowered failed
  | case2 _ _ powered => exact .sent powered

/-- What is told of an answer is told exactly if the answer is there. -/
theorem told_eq_ok_iff {Error Answer : Type} {wrap : Error → Failure} {report : Answer → Report}
    {answer : Except Error Answer} {told : Report} :
    (answer.mapError wrap).map report = .ok told ↔
      ∃ value, answer = .ok value ∧ report value = told := by
  -- A failure is put into other words, and stays one.
  cases answer with
  | error error =>
    show Except.error (wrap error) = Except.ok told ↔ _
    simp
  | ok value =>
    show Except.ok (report value) = Except.ok told ↔ _
    simp

/-- A single call is reported exactly if it succeeds. -/
theorem Use.outcome_ofStep_iff {Answer : Type} {report : Answer → Report}
    {step : Step Usb.Fault Answer} {told : Report} :
    (Use.ofStep report step).outcome = .ok told ↔
      ∃ answer, step.answer = .ok answer ∧ report answer = told :=
  told_eq_ok_iff

/-- Octets are sent successfully exactly if the power-on succeeds and then the transmission. -/
theorem Transmitted.outcome_iff {apdu : Octets} {session : Session Usb.Fault} {use : Use}
    (transmitted : Transmitted apdu session use) {told : Report} :
    use.outcome = .ok told ↔
      ∃ atr octets, session.powerOn.answer = .ok atr ∧
        (session.powerOn.session.transmit apdu).answer = .ok octets ∧ .answer octets = told := by
  cases transmitted with
  | unpowered failed => simp [failed]
  | sent powered => simp [Use.outcome_ofStep_iff, powered]

/-- What is told in a check until the power-on: the power-off, and what came of it. -/
def checkedOff (session : Session Usb.Fault) (response : Response) : List (Event Usb.Fault) :=
  session.powerOff.events ++ [.notice (.checkedPowerOff response.report)]

/-- The ways in which a check of a card may go. -/
inductive Checked (opening : Octets) (session : Session Usb.Fault) : Use → Prop
  /-- The power-off is not answered. -/
  | unanswered {error : ExchangeError} : session.powerOff.answer = .error error →
    Checked opening session
      { outcome := .error (.exchange error), events := session.powerOff.events }
  /-- The power-off is answered, and the power-on is not, or with a failure. -/
  | unpowered {response : Response} {error : ExchangeError} :
    session.powerOff.answer = .ok response →
    session.powerOff.session.powerOn.answer = .error error →
    Checked opening session
      { outcome := .error (.exchange error)
        events := checkedOff session response ++ session.powerOff.session.powerOn.events }
  /-- The card answers to the power-on with other octets than expected. -/
  | mismatched {response : Response} {atr : Atr} : session.powerOff.answer = .ok response →
    session.powerOff.session.powerOn.answer = .ok atr → ¬ opening <+: atr.octets →
    Checked opening session
      { outcome := .error (.atrMismatch opening atr.octets)
        events := checkedOff session response ++ session.powerOff.session.powerOn.events }
  /-- The card answers to the power-on as expected. -/
  | opened {response : Response} {atr : Atr} : session.powerOff.answer = .ok response →
    session.powerOff.session.powerOn.answer = .ok atr → opening <+: atr.octets →
    Checked opening session
      { outcome := .ok (.atr atr)
        events := checkedOff session response ++ session.powerOff.session.powerOn.events }

/-- Every check goes one of these ways. -/
theorem check_checked (opening : Octets) (session : Session Usb.Fault) :
    Checked opening session (check opening session) := by
  -- The power-off decides first, then the power-on, and then the octets.
  fun_cases check opening session with
  | case1 _ _ failed => exact .unanswered failed
  | case2 _ _ answered _ _ _ failed => exact .unpowered answered failed
  | case3 _ _ answered _ _ _ switched opens =>
    exact .opened answered switched (Atr.startsWith_iff.mp opens)
  | case4 _ _ answered _ _ _ switched differs =>
    exact .mismatched answered switched fun opens => differs (Atr.startsWith_iff.mpr opens)

/-- A check tells of the Answer-To-Reset if it opens as expected, after an answered power-off. -/
theorem Checked.outcome_iff {opening : Octets} {session : Session Usb.Fault} {use : Use}
    (checked : Checked opening session use) {told : Report} :
    use.outcome = .ok told ↔
      ∃ response atr, session.powerOff.answer = .ok response ∧
        session.powerOff.session.powerOn.answer = .ok atr ∧ opening <+: atr.octets ∧
        .atr atr = told := by
  -- In each of the other ways an answer is missing, or it opens with other octets.
  cases checked with
  | unanswered failed => simp [failed]
  | unpowered _ failed => simp [failed]
  | mismatched _ switched differs => simp [switched, differs]
  | opened answered switched opens => simp [answered, switched, opens]

end Cli

end Ccid
