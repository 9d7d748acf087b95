/-
Losing connections.

A connection that failed is given up; no other is.  Losing the controller or the datamanager ends
the worker, losing a peer does not.

* `traffic_connectionLost_le` — giving a connection up adds nothing to what is to come.
-/
import PipelineWorker.Coordinator.Basic

namespace PipelineWorker

namespace Session

/-- Gives up the connection and whatever it was to the worker. -/
def drop (id : ConnectionId) (s : Session) : Role × Session :=
  let (role, s) := s.remove id
  (role.getD .peer, { s with worker := s.worker.forget id })

/-- Ends the worker. -/
def terminate (s : Session) : Session := { s with worker := s.worker.terminate }

/-- Gives up a connection that the other end has closed. -/
def connectionLost (id : ConnectionId) (s : Session) : CoordinatorError × Session :=
  let (role, s) := s.drop id
  (.peerDisconnected role,
    match role with
    | .peer => s.report (.peerClosed id)
    | role => (s.report (.lostConnection role)).terminate)

/-- Gives up a connection on which receiving failed.  Whatever came of the failure, the stream
cannot be used any further. -/
def receiveFailed (id : ConnectionId) (e : NetError) (s : Session) : CoordinatorError × Session :=
  match e with
  | .connectionClosed _ => s.connectionLost id
  | e => (.net e, ((s.report (.receiveFailed id e)).connectionLost id).2)

/-- Gives up a connection on which sending failed. -/
def sendFailed (id : ConnectionId) (s : Session) : CoordinatorError × Session :=
  if s.worker.datamanager = some id then
    (.datamanagerUnreachable, ((s.drop id).2.report .datamanagerLost).terminate)
  else s.connectionLost id

/-! ### What is still to come -/

/-- Ending changes nothing of the worker but its stage. -/
theorem worker_terminate (s : Session) :
    s.terminate.worker = { s.worker with stage := s.terminate.worker.stage } := by
  unfold terminate Coordinator.terminate
  dsimp only
  split <;> rfl

@[simp] theorem queue_terminate (s : Session) : s.terminate.worker.queue = s.worker.queue := by
  rw [worker_terminate]

@[simp] theorem connections_terminate (s : Session) :
    s.terminate.worker.connections = s.worker.connections := by
  rw [worker_terminate]

@[simp] theorem traffic_terminate (s : Session) : s.terminate.traffic = s.traffic := by
  rw [traffic, connections_terminate]
  rfl

theorem traffic_drop_le (id : ConnectionId) (s : Session) : (s.drop id).2.traffic ≤ s.traffic :=
  s.traffic_remove_le id

/-- Giving a connection up adds nothing to what is to come. -/
theorem traffic_connectionLost_le (id : ConnectionId) (s : Session) :
    (s.connectionLost id).2.traffic ≤ s.traffic := by
  unfold connectionLost
  dsimp only
  split
  · exact s.traffic_drop_le id
  · rw [traffic_terminate]
    exact s.traffic_drop_le id

@[simp] theorem queue_connectionLost (id : ConnectionId) (s : Session) :
    (s.connectionLost id).2.worker.queue = s.worker.queue := by
  rw [connectionLost]
  dsimp only
  split
  · rfl
  · rw [queue_terminate]
    rfl

theorem connections_connectionLost (id : ConnectionId) (s : Session) :
    (s.connectionLost id).2.worker.connections = (s.remove id).2.worker.connections := by
  rw [connectionLost]
  dsimp only
  split
  · rfl
  · rw [connections_terminate]
    rfl

theorem weight_receiveFailed_le (id : ConnectionId) (e : NetError) (s : Session) :
    (s.receiveFailed id e).2.weight ≤ s.weight := by
  unfold receiveFailed
  split
  · simp only [weight, queue_connectionLost]
    exact Nat.add_le_add_right (s.traffic_connectionLost_le id) _
  · simp only [weight, queue_connectionLost]
    exact Nat.add_le_add_right (traffic_connectionLost_le ..) _

theorem connections_receiveFailed (id : ConnectionId) (e : NetError) (s : Session) :
    (s.receiveFailed id e).2.worker.connections = (s.remove id).2.worker.connections := by
  unfold receiveFailed
  split
  · exact s.connections_connectionLost id
  · simp only [connections_connectionLost]
    unfold remove Registry.remove report
    dsimp only
    split <;> rfl

end Session

end PipelineWorker
