/-
The control loop.

Control messages are served until one asks to quit.  Errors that are not fatal are passed over.

* `serve` ends because every turn takes from what is to come, or costs a connection.
-/
import PipelineWorker.Coordinator.Handshake
import PipelineWorker.Coordinator.Prospects

namespace PipelineWorker

/-- The report that a control message leads to. -/
def Message.controlReport (m : Message) : Event :=
  match m.kind with
  | .quit => .quitRequested
  | .error => .errorReported m.payload.length
  | .warning => .warningReported m.payload.length
  | .unknown tag => .unknownIgnored tag
  | kind => .controlMessage kind m.origin m.payload.length

namespace Session

/-- Serves control messages until one asks to quit or a fatal error ends the worker. -/
def serve (s : Session) : Except CoordinatorError Unit × Session :=
  match _h : s.wait with
  | (.ok m, s') =>
    let s' := s'.report m.controlReport
    if m.kind = .quit then (.ok (), s') else serve s'
  | (.error e, s') =>
    if e.isFatal then (.error e, s') else serve (s'.report (.messageDropped e))
termination_by s.prospects
decreasing_by
  · have := prospects_wait_lt (congrArg Prod.fst _h)
    rwa [_h] at this
  · have := wait_error (congrArg Prod.fst _h)
    rw [_h] at this
    exact this.resolve_left ‹_›

end Session

end PipelineWorker
