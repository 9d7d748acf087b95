/-
The coordinator of a worker.

A coordinator holds what the worker has: its connections, its segments, the messages it deferred,
and how far it has come.  Together with its surroundings it is a `Session`; every operation takes a
session to its outcome and to the session afterwards.

* `weight` — what a session can still read: all waiting ends because it takes from it.
-/
import PipelineWorker.Net.Registry
import PipelineWorker.Segment.Access
import PipelineWorker.Coordinator.Queue
import PipelineWorker.Config.ModuleConfig

namespace PipelineWorker

/-- What a worker has. -/
structure Coordinator where
  config : ModuleConfig
  pid : UInt32
  stage : Stage := .unstarted
  connections : Registry := {}
  /-- The attached segments; there are none before the first announcement. -/
  segments : Option SegmentAccess := none
  /-- Messages that arrived while something else was waited for. -/
  queue : MessageQueue
  controller : Option ConnectionId := none
  datamanager : Option ConnectionId := none
  /-- The host on which the controller was reached; the datamanager lives there too. -/
  controllerEndpoint : Option Endpoint := none

/-- A coordinator and its surroundings. -/
structure Session where
  worker : Coordinator
  env : Environment

namespace Coordinator

/-- A coordinator that has not contacted anybody. -/
def ofConfig (config : ModuleConfig) (pid : UInt32) : Coordinator :=
  { config, pid, queue := .empty config.queueHighWater.toNat }

/-- The working segment. -/
def workingSegment? (p : Coordinator) : Option SegmentHandle :=
  p.segments.bind SegmentAccess.primary?

/-- The segment of a key. -/
def segment? (key : SegmentKey) (p : Coordinator) : Option SegmentHandle :=
  p.segments.bind (·.get? key)

/-- Whether messages were deferred. -/
def hasDeferred (p : Coordinator) : Bool := !p.queue.isEmpty

/-- Gives up the role that the connection has for the worker. -/
def forget (id : ConnectionId) (p : Coordinator) : Coordinator :=
  { p with
    controller := if p.controller = some id then none else p.controller
    datamanager := if p.datamanager = some id then none else p.datamanager }

/-- Ends the worker.  The handshake ends it by itself, once it has reported its stage. -/
def terminate (p : Coordinator) : Coordinator :=
  if p.stage.isHandshaking then p else { p with stage := .terminated }

/-- The connections that control messages come from. -/
def watched (p : Coordinator) : List ConnectionId := p.controller.toList ++ p.datamanager.toList

/-- The text of the coordinator where values are spelled out. -/
def detail (p : Coordinator) : String :=
  let segments := match p.segments with
    | none => "None"
    | some s => "Some(" ++ s.detail ++ ")"
  "ApplicationProcess \x7b module: " ++ Quoted.encode p.config.moduleName ++
    ", pid: " ++ toString p.pid.toNat ++ ", state: " ++ p.stage.detail ++
    ", connections: " ++ toString p.connections.length ++
    ", deferred: " ++ toString p.queue.length ++ ", shm: " ++ segments ++ " \x7d"

end Coordinator

namespace Session

/-! ### Parts of a session -/

/-- Reports one event. -/
def report (event : Event) (s : Session) : Session := { s with env := s.env.report event }

/-- Reports events, oldest first. -/
def reportAll (events : List Event) (s : Session) : Session :=
  { s with env := s.env.reportAll events }

/-- The time. -/
def now (s : Session) : Nat := s.env.net.now

/-- Sends a message on a connection. -/
def send (id : ConnectionId) (m : Message) (s : Session) : Except NetError Unit × Session :=
  let (x, connections, env) := s.worker.connections.send id m s.env
  (x, { worker := { s.worker with connections }, env })

/-- Waits for a message on a connection. -/
def receive (id : ConnectionId) (s : Session) : Except NetError Message × Session :=
  let (x, connections, env) := s.worker.connections.receive id s.env
  (x, { worker := { s.worker with connections }, env })

/-- Waits for a message on a connection until the deadline. -/
def receiveUntil (id : ConnectionId) (deadline : Nat) (s : Session) :
    Except NetError (Option Message) × Session :=
  let (x, connections, env) := s.worker.connections.receiveUntil id deadline s.env
  (x, { worker := { s.worker with connections }, env })

/-- Waits for a message on a connection, until the deadline if there is one. -/
def receiveBy (deadline : Option Nat) (id : ConnectionId) (s : Session) :
    Except NetError (Option Message) × Session :=
  match deadline with
  | some d => s.receiveUntil id d
  | none => ((s.receive id).1.map some, (s.receive id).2)

/-- Takes a connection out; the answer is its role. -/
def remove (id : ConnectionId) (s : Session) : Option Role × Session :=
  let (c, connections, env) := s.worker.connections.remove id s.env
  (c.map (·.role), { worker := { s.worker with connections }, env })

/-- Adds a message to the deferred ones. -/
def defer (m : Message) (s : Session) : Session :=
  let (queue, event) := s.worker.queue.push m
  ({ s with worker := { s.worker with queue } } : Session).reportAll event.toList

/-- Takes the oldest deferred message. -/
def popDeferred (s : Session) : Option Message × Session :=
  let (m, queue) := s.worker.queue.pop
  (m, { s with worker := { s.worker with queue } })

/-! ### What is still to come -/

/-- What can still be read off the connections. -/
def traffic (s : Session) : Nat := s.worker.connections.weight s.env.net

/-- What can still be read off the connections, and the deferred messages. -/
def weight (s : Session) : Nat := s.traffic + s.worker.queue.items.length

@[simp] theorem traffic_report (event : Event) (s : Session) :
    (s.report event).traffic = s.traffic := rfl

@[simp] theorem weight_report (event : Event) (s : Session) :
    (s.report event).weight = s.weight := rfl

@[simp] theorem traffic_defer (m : Message) (s : Session) : (s.defer m).traffic = s.traffic := rfl

theorem traffic_remove_le (id : ConnectionId) (s : Session) :
    (s.remove id).2.traffic ≤ s.traffic := by
  show (s.worker.connections.remove id s.env).2.2.net.weight + _ ≤ _
  rw [Registry.net_remove]
  exact Nat.add_le_add_left (Registry.buffered_remove_le ..) _

theorem traffic_receive_le (id : ConnectionId) (s : Session) :
    (s.receive id).2.traffic ≤ s.traffic :=
  Registry.weight_receive_le id s.worker.connections s.env

theorem traffic_receive_lt {id : ConnectionId} {s : Session} {m : Message}
    (h : (s.receive id).1 = .ok m) : (s.receive id).2.traffic < s.traffic :=
  Registry.weight_receive_lt (r := s.worker.connections) h

theorem traffic_receiveUntil_le (id : ConnectionId) (deadline : Nat) (s : Session) :
    (s.receiveUntil id deadline).2.traffic ≤ s.traffic :=
  Registry.weight_receiveUntil_le id deadline s.worker.connections s.env

theorem traffic_receiveUntil_lt {id : ConnectionId} {deadline : Nat} {s : Session} {m : Message}
    (h : (s.receiveUntil id deadline).1 = .ok (some m)) :
    (s.receiveUntil id deadline).2.traffic < s.traffic :=
  Registry.weight_receiveUntil_lt (r := s.worker.connections) h

theorem traffic_receiveBy_le (deadline : Option Nat) (id : ConnectionId) (s : Session) :
    (s.receiveBy deadline id).2.traffic ≤ s.traffic := by
  unfold receiveBy
  split
  · exact traffic_receiveUntil_le ..
  · exact traffic_receive_le ..

theorem traffic_receiveBy_lt {deadline : Option Nat} {id : ConnectionId} {s : Session} {m : Message}
    (h : (s.receiveBy deadline id).1 = .ok (some m)) :
    (s.receiveBy deadline id).2.traffic < s.traffic := by
  unfold receiveBy at h ⊢
  split at h
  · exact traffic_receiveUntil_lt h
  · cases hr : (s.receive id).1 with
    | error e => simp [hr, Except.map] at h
    | ok m' => exact traffic_receive_lt hr

@[simp] theorem queue_receiveBy (deadline : Option Nat) (id : ConnectionId) (s : Session) :
    (s.receiveBy deadline id).2.worker.queue = s.worker.queue := by
  unfold receiveBy
  split <;> rfl

end Session

end PipelineWorker
