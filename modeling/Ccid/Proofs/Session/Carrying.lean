import Ccid.Proofs.Session.Transfers

/-!
What the transfers of a session yield is what its pipe has in store for them.

Each write takes the next outcome of the pipe's script, each read takes its next reply, and a call
leaves the pipe as its transfers do.
-/

namespace Ccid

variable {Fault : Type} [BulkFault Fault]

/-- What is seen of a pipe on the way from one state of its script to another. -/
inductive Pipe.Carries : Pipe Fault → List (Event Fault) → Pipe Fault → Prop
  | nothing {pipe : Pipe Fault} : Carries pipe [] pipe
  | notice {pipe after : Pipe Fault} {entry : Notice} {events : List (Event Fault)} :
    Carries pipe events after → Carries pipe (.notice entry :: events) after
  | write {pipe after : Pipe Fault} {frame : Octets} {timeout : Duration}
    {events : List (Event Fault)} : Carries (pipe.write frame).2 events after →
    Carries pipe (.write frame timeout (pipe.write frame).1 :: events) after
  | read {pipe after : Pipe Fault} {limit : Nat} {timeout : Duration}
    {events : List (Event Fault)} : Carries { pipe with replies := pipe.replies.tail } events after →
    Carries pipe (.read limit timeout (delivered limit pipe.replies.head?) :: events) after

namespace Pipe.Carries

variable {pipe middle after : Pipe Fault}

/-- What is seen on two ways in a row is seen on the whole way. -/
theorem append {first second : List (Event Fault)} (before : pipe.Carries first middle)
    (later : middle.Carries second after) : pipe.Carries (first ++ second) after := by
  induction before with
  | nothing => exact later
  | notice _ ih => exact .notice (ih later)
  | write _ ih => exact .write (ih later)
  | read _ ih => exact .read (ih later)

/-- Entries of the log leave a pipe as it is. -/
theorem notices (pipe : Pipe Fault) (entries : List Notice) :
    pipe.Carries (entries.map Event.notice) pipe := by
  induction entries with
  | nil => exact .nothing
  | cons entry rest ih => exact .notice ih

end Pipe.Carries

/-- The reads of a wait take the replies that the wait does not leave unread. -/
theorem carries_awaitAnswer (check : Octets → Except ExchangeError Response) (limit : UInt32)
    (timeout : Duration) (granted : UInt32) (writes : List (WriteOutcome Fault))
    (replies : List (Except Fault Octets)) :
    let wait := awaitAnswer check limit timeout granted replies
    Pipe.Carries { writes, replies } wait.events { writes, replies := wait.unread } := by
  intro wait
  unfold wait
  -- A wait that reads on has read one reply, and reads the rest of them.
  fun_induction awaitAnswer check limit timeout granted replies with
  | case1 | case2 => exact .read .nothing
  | case3 | case4 | case6 => exact .read (.notice .nothing)
  | case5 _ _ _ _ _ _ _ _ _ _ later => exact .read (.notice (.notice later))

/-- An exchange leaves the pipe as its transfers do. -/
theorem Exchanged.carries {session : Session Fault} {command : Command}
    {step : Step Fault Response} (exchanged : Exchanged session command step) :
    session.pipe.Carries step.events step.session.pipe := by
  -- The frame is written at most once, and only then its answer is waited for.
  have departs {outcome : Except Fault Nat}
      (written : (session.pipe.write command.frame).1 = outcome) :
      session.pipe.Carries (session.departure command.frame outcome)
        (session.pipe.write command.frame).2 := by
    rw [← written]
    exact .notice (.write .nothing)
  cases exchanged with
  | refused => exact .nothing
  | unwritten _ written | miscounted _ written => exact departs written
  | awaited _ written =>
    -- The wait begins with the replies that the write leaves, which are all of them.
    have left : (session.pipe.write command.frame).2 =
        { (session.pipe.write command.frame).2 with replies := session.pipe.replies } := by
      rw [← Pipe.replies_write session.pipe command.frame]
    have waited := carries_awaitAnswer (checkResponse command command.sequence)
      session.config.maxTimeExtensions session.config.timeout 0
      (session.pipe.write command.frame).2.writes session.pipe.replies
    refine (departs written).append ?_
    rw [left]
    exact waited

namespace Session

/-- A call leaves the pipe as its transfers do. -/
theorem carries_perform (session : Session Fault) (operation : Operation) :
    session.pipe.Carries (session.perform operation).events
      (session.perform operation).session.pipe := by
  -- After its exchange a call only adds to the log.
  obtain ⟨entries, events⟩ := session.perform_events operation
  rw [events, (session.perform_session operation).2.2]
  exact (session.issue_exchanged operation).carries.append (.notices _ entries)

end Session

end Ccid
