/-
The life of a coordinator from its start to its end.

The handshake contacts the controller, learns from it where the datamanager listens, asks the
datamanager for the key of the working segment, attaches that and reports the process id.  No step
is tried twice; a failure is reported with the stage it happened in, and ends the worker.

* `handshake_of_stage_ne` — the handshake runs only once.
-/
import PipelineWorker.Coordinator.Exchange

namespace PipelineWorker

/-- A step of the coordinator that may fail. -/
abbrev Coordinated (α : Type) := ExceptT CoordinatorError (StateM Session) α

namespace Coordinated

/-- Reports one event. -/
def report (event : Event) : Coordinated Unit := modify (·.report event)

/-- Goes on to the next stage. -/
def enter (stage : Stage) : Coordinated Unit :=
  modify fun s => { s with worker := { s.worker with stage } }

/-- The failure that the other side did not follow the protocol in the present stage. -/
def violation {α : Type} (expected received : Kind) : Coordinated α := do
  throw (.protocolViolation (← get).worker.stage expected received)

/-- Fails where a payload makes no sense. -/
def decoded {α : Type} (x : Except CodecError α) : Coordinated α :=
  match x with
  | .ok a => pure a
  | .error e => throw (.codec e)

/-- Looks a host up. -/
def resolve (host : String) : Coordinated Endpoint := do
  let (x, events) := Endpoint.resolve (← get).env.names host
  modify (·.reportAll events)
  match x with
  | .error e => throw (.net e)
  | .ok endpoint =>
    -- Without an address, the endpoint would stand for this host.
    if endpoint.isResolved then pure endpoint else throw (.net (.hostNotFound host))

/-- Adds a connection. -/
def connect (role : Role) (endpoint : Endpoint) (port : Port) : Coordinated ConnectionId := do
  let s ← get
  let (x, connections, env) :=
    s.worker.connections.add role endpoint port s.worker.config.connectTimeout s.env
  set { s with worker := { s.worker with connections }, env }
  match x with
  | .ok id => pure id
  | .error e => throw (.net e)

/-- Attaches the working segment to a fresh access, in the place of what was attached before. -/
def attachWorking (a : SegmentAnnouncement) : Coordinated Unit := do
  let s ← get
  let fresh : SegmentAccess := { dir := s.worker.config.segmentDir }
  let (x, access, files, events) := fresh.attach a.key a.size.toNat s.env.files
  set { s with env := ({ s.env with files } : Environment).reportAll events }
  match x with
  | .error e => throw (.segment e)
  | .ok _ =>
    let released := s.worker.segments.elim [] fun old => old.detachAll.2
    modify fun s => ({ s with
      worker := { s.worker with segments := some access } } : Session).reportAll released

/-! ### The steps of the handshake -/

/-- Connects to the controller. -/
def contactController : Coordinated Unit := do
  enter .contactingController
  let config := (← get).worker.config
  let endpoint ← resolve config.controllerHost
  report (.contactingController endpoint config.controllerPort)
  let id ← connect .controller endpoint config.controllerPort
  modify fun s => { s with
    worker := { s.worker with controller := some id, controllerEndpoint := some endpoint } }
  enter .awaitingAssignment

/-- Waits for the controller to name the datamanager's port. -/
def awaitAssignment : Coordinated Port := do
  let m ← Session.wait
  if m.kind ≠ .appContactDm then
    violation .appContactDm m.kind
  let a ← decoded (DatamanagerAssignment.decode m.payload.toList)
  report (.datamanagerAssigned a.port)
  return a.port

/-- Connects to the datamanager, which runs where the controller runs. -/
def contactDatamanager (port : Port) : Coordinated ConnectionId := do
  enter .contactingDatamanager
  match (← get).worker.controllerEndpoint with
  | none => throw (.missingConnection .controller)
  | some endpoint =>
    report (.contactingDatamanager endpoint port)
    let id ← connect .datamanager endpoint port
    modify fun s => { s with worker := { s.worker with datamanager := some id } }
    return id

/-- Asks the datamanager for the working segment, and attaches it. -/
def obtainSegment (datamanager : ConnectionId) : Coordinated Unit := do
  enter .awaitingKey
  let reply ← Session.exchange datamanager (.empty .getShmKey) [.getShmKey]
  if reply.payload.isEmpty then
    violation .getShmKey reply.kind
  let a ← decoded (SegmentAnnouncement.decode reply.payload.toList)
  attachWorking a
  report (.workingSegmentAttached a.key a.size)
  enter .attached

/-- Reports the process id to the datamanager. -/
def announcePid : Coordinated Unit := do
  Session.sendToDatamanager (ProcessIdAnnouncement.toMessage ⟨(← get).worker.pid⟩)
  enter .running

/-- All steps of the handshake. -/
def handshakeSteps : Coordinated Unit := do
  contactController
  let port ← awaitAssignment
  let datamanager ← contactDatamanager port
  obtainSegment datamanager
  announcePid
  let p := (← get).worker
  report (.moduleRunning p.config.moduleName p.config.moduleId p.pid)

end Coordinated

namespace Session

/-- The startup handshake.  It runs only once. -/
def handshake (s : Session) : Except CoordinatorError Unit × Session :=
  if s.worker.stage ≠ .unstarted then (.error (.invalidState "handshake" s.worker.stage), s)
  else
    match Coordinated.handshakeSteps s with
    | (.ok (), s) => (.ok (), s)
    | (.error e, s) =>
      let s := s.report (.handshakeFailed s.worker.stage s.worker.config.moduleName e)
      (.error e, { s with worker := { s.worker with stage := .terminated } })

theorem handshake_of_stage_ne {s : Session} (h : s.worker.stage ≠ .unstarted) :
    s.handshake = (.error (.invalidState "handshake" s.worker.stage), s) := by
  simp [handshake, h]

/-! ### The end -/

/-- Takes back all attachments. -/
def releaseSegments (s : Session) : Session :=
  ({ s with worker := { s.worker with segments := none } } : Session).reportAll
    (s.worker.segments.elim [] fun access => access.detachAll.2)

/-- Takes out the connections of these numbers. -/
def removeAll (ids : List ConnectionId) (s : Session) : Session :=
  ids.foldl (fun s id => (s.remove id).2) s

/-- Gives back all segments and drops all connections. -/
def shutdown (s : Session) : Session :=
  if s.worker.stage = .terminated ∧ s.worker.connections.isEmpty then s
  else
    let s := (s.report (.shuttingDown s.worker.config.moduleName)).releaseSegments
    let s := s.removeAll (s.worker.connections.connections.map (·.id))
    { s with
      worker := { s.worker with controller := none, datamanager := none, stage := .terminated } }

/-- Ends the worker for good; segments that a shutdown left alone are given back too. -/
def dispose (s : Session) : Session := s.shutdown.releaseSegments

/-- A fresh coordinator that has run its handshake; after a failure it is disposed of. -/
def start (config : ModuleConfig) (pid : UInt32) (env : Environment) :
    Except CoordinatorError Unit × Session :=
  match handshake { worker := .ofConfig config pid, env } with
  | (.ok (), s) => (.ok (), s)
  | (.error e, s) => (.error e, s.dispose)

end Session

end PipelineWorker
