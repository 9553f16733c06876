import Ccid.Octets

/-!
The pair of bulk pipes to a reader.

A pipe is a script: what each further write and each further read will yield.
-/

namespace Ccid

/-- Why a transfer failed, as a session sees it. -/
inductive TransportError where
  | timeout
  | disconnected
  | io (text : String)
  deriving DecidableEq, Repr

/-- What went wrong, in words. -/
def TransportError.message : TransportError → String
  | .timeout => "Transfer timed out"
  | .disconnected => "Device disconnected"
  | .io text => "Transfer failed: " ++ text

/-- The faults that transfers over one kind of pipe may end with. -/
class BulkFault (Fault : Type) where
  /-- The fault of a transfer that nothing answers. -/
  timeout : Fault
  /-- What a fault means to a session. -/
  cause : Fault → TransportError
  /-- A transfer that nothing answers is a timeout to a session too. -/
  cause_timeout : cause timeout = .timeout

instance : BulkFault TransportError where
  timeout := .timeout
  cause := id
  cause_timeout := rfl

/-- How a write will end. -/
inductive WriteOutcome (Fault : Type) where
  /-- Every octet is taken. -/
  | all
  /-- This many octets are said to be taken. -/
  | accepted (octets : Nat)
  | failed (fault : Fault)
  deriving DecidableEq, Repr

/-- How many octets of a frame a write reports as taken. -/
def WriteOutcome.result {Fault : Type} (frame : Octets) : WriteOutcome Fault → Except Fault Nat
  | .all => .ok frame.length
  | .accepted octets => .ok octets
  | .failed fault => .error fault

/-- What the further transfers over a pair of pipes will yield. -/
structure Pipe (Fault : Type) where
  /-- One outcome a write; when none is left, writes succeed in full. -/
  writes : List (WriteOutcome Fault)
  /-- One transfer a read; when none is left, reads time out. -/
  replies : List (Except Fault Octets)

/-- The most octets that one read asks for. -/
def readLimit : Nat := 1024

/-- The outcome of writing a frame, and the pipe after it. -/
def Pipe.write {Fault : Type} (pipe : Pipe Fault) (frame : Octets) :
    Except Fault Nat × Pipe Fault :=
  match pipe.writes with
  | [] => (.ok frame.length, pipe)
  | outcome :: writes => (outcome.result frame, { pipe with writes })

end Ccid
