/-
What the worker reports while it runs.

An `Event` is a fact: which connection was lost, which segment was attached.  How it is worded, at
which level and under which name of its origin is decided in one place, `Event.report`.
-/
import PipelineWorker.Coordinator.Error

namespace PipelineWorker

/-- How much an event matters. -/
inductive Level
  | trace | debug | info | warn | error
  deriving DecidableEq, Repr, Inhabited

namespace Level

/-- The place of the level, least important first. -/
def index : Level → Nat
  | trace => 0
  | debug => 1
  | info => 2
  | warn => 3
  | error => 4

/-- The name of the level. -/
def display : Level → String
  | trace => "TRACE"
  | debug => "DEBUG"
  | info => "INFO"
  | warn => "WARN"
  | error => "ERROR"

end Level

/-- The value of a field of a report. -/
inductive Shown
  /-- Text that stands for itself. -/
  | plain (text : String)
  /-- Text from outside, which is quoted where values stand side by side. -/
  | quoted (text : String)
  deriving DecidableEq, Repr

/-- Something worth reporting. -/
inductive Event
  | hostResolved (host : String) (addr : Ipv4)
  | hostLookupFailed (host : String)
  | hostNameUnknown
  | numericOnly (failures : UInt32)
  | connected (id : ConnectionId) (role : Role) (endpoint : Endpoint) (port : Port)
  | sending (id : ConnectionId) (kind : Kind) (length : Nat)
  | received (id : ConnectionId) (m : Message)
  | wentAway (id : ConnectionId) (role : Role) (error : CodecError)
  | connectionRemoved (id : ConnectionId) (role : Role)
  | attachedSmaller (key : SegmentKey) (requested mapped : Nat)
  | reattached (key : SegmentKey) (count : Nat)
  | attached (key : SegmentKey) (length : Nat) (created : Bool) (path : String)
  | detached (key : SegmentKey)
  | detachingAll (count : Nat)
  | backlogReached (backlog highWater : Nat)
  | handshakeFailed (stage : Stage) (worker : String) (error : CoordinatorError)
  | moduleRunning (worker : String) (id pid : UInt32)
  | contactingController (endpoint : Endpoint) (port : Port)
  | datamanagerAssigned (port : Port)
  | contactingDatamanager (endpoint : Endpoint) (port : Port)
  | workingSegmentAttached (key : SegmentKey) (size : UInt32)
  | exchangeSendFailed (role : Role) (error : NetError)
  | deferring (kind : Kind) (role : Role)
  | datamanagerSendFailed (error : NetError) (kind : Kind)
  | shuttingDown (worker : String)
  | controlReceived (kind : Kind) (id : ConnectionId)
  | deadlineInsideFrame (id : ConnectionId)
  | malformedAnnouncement (error : CodecError) (origin : Option ConnectionId)
  | newSegment (key : SegmentKey) (size : UInt32)
  | lostConnection (role : Role)
  | peerClosed (id : ConnectionId)
  | receiveFailed (id : ConnectionId) (error : NetError)
  | datamanagerLost
  | startingModule (worker : String) (id : UInt32) (controller : String) (port : Port)
  | messageDropped (error : CoordinatorError)
  | quitRequested
  | errorReported (payload : Nat)
  | warningReported (payload : Nat)
  | unknownIgnored (tag : Int32)
  | controlMessage (kind : Kind) (origin : Option ConnectionId) (length : Nat)
  | coordinatorFailed (error : CoordinatorError)
  deriving DecidableEq, Repr

/-- An event in words. -/
structure Report where
  level : Level
  /-- The part of the worker that reports. -/
  target : String
  message : String
  fields : List (String × Shown)
  deriving DecidableEq, Repr

namespace Report

/-- Whether a report has that field.  The message counts as one. -/
def hasField (r : Report) (name : String) : Bool :=
  name = "message" || r.fields.any (·.1 = name)

/-- Lookup and naming of hosts. -/
def host := "basalt_net::host"

/-- Single connections. -/
def connection := "basalt_net::connection"

/-- The registry of connections. -/
def registry := "basalt_net::registry"

/-- Shared segments. -/
def segments := "basalt_shm::access"

/-- The queue of deferred messages. -/
def queue := "basalt_appproc::queue"

/-- The coordinator. -/
def coordinator := "basalt_appproc::process"

/-- The program. -/
def program := "basalt_module"

end Report

/-- The words for where a message came from. -/
def originDetail : Option ConnectionId → String
  | none => "None"
  | some id => s!"Some({id.detail})"

open Report in
/-- Level, origin, message and fields of an event. -/
def Event.report : Event → Report
  | hostResolved h addr =>
    ⟨.debug, host, "resolved host", [("host", .quoted h), ("addr", .plain addr.display)]⟩
  | hostLookupFailed h => ⟨.warn, host, "host lookup failed", [("host", .quoted h)]⟩
  | hostNameUnknown => ⟨.warn, host, "gethostname failed; using loopback", []⟩
  | numericOnly failures =>
    ⟨.warn, host, "reverse lookups keep failing; switching to numeric names",
      [("failures", .plain (toString failures.toNat))]⟩
  | connected id role endpoint port =>
    ⟨.debug, connection, "connected",
      [("id", .plain id.display), ("role", .plain role.display),
        ("endpoint", .plain endpoint.display), ("port", .plain (toString port.toNat))]⟩
  | sending id kind length =>
    ⟨.trace, connection, "send",
      [("id", .plain id.display), ("kind", .plain kind.display), ("len", .plain (toString length))]⟩
  | received id m =>
    ⟨.trace, connection, "recv",
      [("id", .plain id.display), ("kind", .plain m.kind.display),
        ("len", .plain (toString m.payload.length))]⟩
  | wentAway id role error =>
    ⟨.debug, connection, "peer went away",
      [("id", .plain id.display), ("role", .plain role.display), ("error", .plain error.detail)]⟩
  | connectionRemoved id role =>
    ⟨.debug, registry, "connection removed",
      [("id", .plain id.display), ("role", .plain role.display)]⟩
  | attachedSmaller key requested mapped =>
    ⟨.warn, segments, "segment already attached with a smaller size; keeping existing mapping",
      [("key", .plain key.display), ("requested", .plain (toString requested)),
        ("mapped", .plain (toString mapped))]⟩
  | reattached key count =>
    ⟨.debug, segments, "segment re-attached",
      [("key", .plain key.display), ("count", .plain (toString count))]⟩
  | attached key length created path =>
    ⟨.debug, segments, "segment attached",
      [("key", .plain key.display), ("len", .plain (toString length)),
        ("created", .plain (toString created)), ("path", .plain path)]⟩
  | detached key => ⟨.debug, segments, "segment detached", [("key", .plain key.display)]⟩
  | detachingAll count =>
    ⟨.debug, segments, "detaching all segments", [("count", .plain (toString count))]⟩
  | backlogReached backlog highWater =>
    ⟨.warn, queue, "deferred message backlog reached high-water mark",
      [("backlog", .plain (toString backlog)), ("high_water", .plain (toString highWater))]⟩
  | handshakeFailed stage worker error =>
    ⟨.error, coordinator, "handshake failed",
      [("stage", .plain stage.display), ("module", .plain worker),
        ("error", .plain error.message)]⟩
  | moduleRunning worker id pid =>
    ⟨.info, coordinator, "module running",
      [("module", .plain worker), ("id", .plain (toString id.toNat)),
        ("pid", .plain (toString pid.toNat))]⟩
  | contactingController endpoint port =>
    ⟨.info, coordinator, "contacting controller",
      [("endpoint", .plain endpoint.display), ("port", .plain (toString port.toNat))]⟩
  | datamanagerAssigned port =>
    ⟨.debug, coordinator, "datamanager assigned", [("port", .plain (toString port.toNat))]⟩
  | contactingDatamanager endpoint port =>
    ⟨.info, coordinator, "contacting datamanager",
      [("endpoint", .plain endpoint.display), ("port", .plain (toString port.toNat))]⟩
  | workingSegmentAttached key size =>
    ⟨.info, coordinator, "shared memory attached",
      [("key", .plain key.display), ("size", .plain (toString size.toNat))]⟩
  | exchangeSendFailed role error =>
    ⟨.warn, coordinator, "send failed during exchange",
      [("role", .plain role.display), ("error", .plain error.message)]⟩
  | deferring kind role =>
    ⟨.debug, coordinator, "deferring message",
      [("kind", .plain kind.display), ("role", .plain role.display)]⟩
  | datamanagerSendFailed error kind =>
    ⟨.warn, coordinator, "send to datamanager failed",
      [("error", .plain error.message), ("kind", .plain kind.display)]⟩
  | shuttingDown worker => ⟨.info, coordinator, "shutting down", [("module", .plain worker)]⟩
  | controlReceived kind id =>
    ⟨.debug, coordinator, "control message received",
      [("kind", .plain kind.display), ("conn", .plain id.display)]⟩
  | deadlineInsideFrame id =>
    ⟨.debug, coordinator, "deadline passed inside a frame", [("conn", .plain id.display)]⟩
  | malformedAnnouncement error origin =>
    ⟨.warn, coordinator, "ignoring malformed segment announcement",
      [("error", .plain error.message), ("origin", .plain (originDetail origin))]⟩
  | newSegment key size =>
    ⟨.info, coordinator, "new shared segment",
      [("key", .plain key.display), ("size", .plain (toString size.toNat))]⟩
  | lostConnection role =>
    ⟨.error, coordinator, "lost connection; coordinator cannot continue",
      [("role", .plain role.display)]⟩
  | peerClosed id => ⟨.warn, coordinator, "peer connection closed", [("conn", .plain id.display)]⟩
  | receiveFailed id error =>
    ⟨.warn, coordinator, "receive failed; dropping connection",
      [("conn", .plain id.display), ("error", .plain error.message)]⟩
  | datamanagerLost =>
    ⟨.error, coordinator, "datamanager unreachable; coordinator cannot continue", []⟩
  | startingModule worker id controller port =>
    ⟨.info, program, "starting module",
      [("module", .plain worker), ("id", .plain (toString id.toNat)),
        ("controller", .plain controller), ("port", .plain (toString port.toNat))]⟩
  | messageDropped error =>
    ⟨.warn, program, "control message dropped", [("error", .plain error.message)]⟩
  | quitRequested => ⟨.info, program, "quit requested", []⟩
  | errorReported payload =>
    ⟨.error, program, "error reported", [("payload", .plain (toString payload))]⟩
  | warningReported payload =>
    ⟨.warn, program, "warning reported", [("payload", .plain (toString payload))]⟩
  | unknownIgnored tag =>
    ⟨.warn, program, "ignoring unknown message type", [("tag", .plain (toString tag.toInt))]⟩
  | controlMessage kind origin length =>
    ⟨.debug, program, "control message",
      [("kind", .plain kind.display), ("origin", .plain (originDetail origin)),
        ("len", .plain (toString length))]⟩
  | coordinatorFailed error =>
    ⟨.error, program, "coordinator failed", [("error", .plain error.message)]⟩

end PipelineWorker
