/-
What can go wrong in a coordinator, and which of it ends the worker.

* `isFatal_peerDisconnected_iff` — losing a connection is fatal unless it led to a peer.
-/
import PipelineWorker.Coordinator.State
import PipelineWorker.Net.Endpoint
import PipelineWorker.Net.Error
import PipelineWorker.Segment.Error

namespace PipelineWorker

/-- Why an operation of the coordinator failed. -/
inductive CoordinatorError
  /-- The other side did not follow the protocol. -/
  | protocolViolation (stage : Stage) (expected received : Kind)
  /-- A connection was lost. -/
  | peerDisconnected (role : Role)
  /-- There is no datamanager to talk to. -/
  | datamanagerUnreachable
  /-- There is nobody in that role to wait for. -/
  | missingConnection (role : Role)
  /-- The operation does not fit the stage. -/
  | invalidState (operation : String) (stage : Stage)
  | segment (error : SegmentError)
  | net (error : NetError)
  /-- The payload of a control message made no sense. -/
  | codec (error : CodecError)
  deriving DecidableEq, Repr, Inhabited

namespace CoordinatorError

/-- The text of the error. -/
def message : CoordinatorError → String
  | protocolViolation stage expected received =>
    s!"protocol violation while {stage.display}: expected {expected.display}, " ++
      s!"received {received.display}"
  | peerDisconnected role => s!"{role.display} disconnected"
  | datamanagerUnreachable => "datamanager unreachable"
  | missingConnection role => s!"no {role.display} connection"
  | invalidState operation stage => s!"{operation} is not possible while {stage.display}"
  | segment e => e.message
  | net e => e.message
  | codec _ => "malformed control message"

/-- Whether the coordinator can make no further progress.  Losing the controller or the datamanager
is fatal; losing a peer is not, nor are local mistakes such as a bad address. -/
def isFatal : CoordinatorError → Bool
  | protocolViolation .. | datamanagerUnreachable => true
  | peerDisconnected role | missingConnection role => role != .peer
  | invalidState .. | codec _ => false
  | segment (.unavailable ..) => true
  | segment (.outOfBounds ..) => false
  | net (.invalidAddress _) | net (.unknownConnection _) => false
  | net _ => true

theorem isFatal_peerDisconnected_iff {role : Role} :
    (peerDisconnected role).isFatal ↔ role ≠ .peer := by
  simp [isFatal]

end CoordinatorError

end PipelineWorker
