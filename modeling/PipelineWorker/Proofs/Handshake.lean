/-
What the startup handshake takes, and what it leaves.

* `Dialogue.Follows` — what the others have to do for the handshake to succeed, told by what their
  sides of the sockets, the names and the files are like at the start;
* `Dialogue.Leaves` — what there is in the end;
* `handshake_follows` — **the handshake succeeds if and only if the others follow the protocol**,
  and then it leaves just that.
-/
import PipelineWorker.Proofs.Attaching
import PipelineWorker.Proofs.Steps

namespace PipelineWorker

/-! ### The protocol -/

/-- What is said in a handshake that succeeds. -/
structure Dialogue where
  /-- Where the controller and the datamanager run. -/
  endpoint : Endpoint
  controller : Listener
  /-- The announcements of the controller in front of its assignment. -/
  announced : List Message
  assignment : Message
  port : Port
  datamanager : Listener
  /-- What the datamanager says in front of its reply. -/
  passed : List Message
  reply : Message
  /-- The working segment. -/
  working : SegmentAnnouncement
  handle : SegmentHandle
  /-- Segments and files behind the assignment, and behind the reply. -/
  early : Holding
  late : Holding
  /-- The bytes that the controller and the datamanager send behind that. -/
  controllerRest : Bytes
  datamanagerRest : Bytes

namespace Dialogue

/-- What the worker asks the datamanager for. -/
def request : Message := .empty .getShmKey

/-- What the worker tells the datamanager in the end. -/
def introduction (pid : UInt32) : Message := ProcessIdAnnouncement.toMessage ⟨pid⟩

/-- How the request ends on a socket whose writes meet `sink`. -/
def requesting (sink : Sink) : Except CodecError Unit × WriteOutcome :=
  Sink.writeMessage request (.ok ()) sink

/-- How the last message ends on that socket. -/
def introducing (pid : UInt32) (sink : Sink) : Except CodecError Unit × WriteOutcome :=
  Sink.writeMessage (introduction pid) (.ok ()) (requesting sink).2.sink

/-- The others follow the protocol, and names, sockets and files do their part. -/
structure Follows (config : ModuleConfig) (pid : UInt32) (env : Environment) (d : Dialogue) :
    Prop where
  resolved : (Endpoint.resolve env.names config.controllerHost).1 = .ok d.endpoint
  known : d.endpoint.isResolved = true
  controllerAnswers : env.net.answering d.endpoint.addr config.controllerPort
    config.connectTimeout = some d.controller
  /-- The first message of the controller that is no announcement is the assignment. -/
  assigned : Scan ⟨0⟩ .controller (fun _ => True) config.segmentDir
    (Link.bytesOf d.controller.arrivals) (none, env.files) d.announced (.ok d.assignment) d.early
    d.controllerRest
  kind : d.assignment.kind = .appContactDm
  port : DatamanagerAssignment.decode d.assignment.payload.toList = .ok ⟨d.port⟩
  /-- By then the faults of polls are used up. -/
  datamanagerAnswers : ({ env.net with pollFaults := [] } : Network).answering d.endpoint.addr
    d.port config.connectTimeout = some d.datamanager
  requested : (requesting d.datamanager.sink).1 = .ok ()
  /-- The reply comes before any farewell. -/
  replied : Scan ⟨1⟩ .datamanager (· ∈ [.getShmKey]) config.segmentDir
    (Link.bytesOf d.datamanager.arrivals) d.early d.passed (.ok d.reply) d.late d.datamanagerRest
  working : SegmentAnnouncement.decode d.reply.payload.toList = .ok d.working
  attached : (({ dir := config.segmentDir } : SegmentAccess).attach d.working.key
    d.working.size.toNat d.late.2).1 = .ok d.handle
  introduced : (introducing pid d.datamanager.sink).1 = .ok ()

end Dialogue

namespace Session

/-- Connection `id` has this role and link `i`, on which `sent` was sent and `coming` is still to
come. -/
structure Wired (id : ConnectionId) (role : Role) (i : Nat) (sent coming : Bytes) (s : Session) :
    Prop where
  found : ∃ c, s.worker.connections.get? id = some c ∧ c.role = role ∧ c.link = i
  sent : (s.env.net.link i).sent = sent
  coming : (s.env.net.link i).coming = coming

end Session

/-- What there is in the end.  Links are counted from those that there were before. -/
structure Dialogue.Leaves (config : ModuleConfig) (pid : UInt32) (env : Environment)
    (d : Dialogue) (s : Session) : Prop where
  stage : s.worker.stage = .running
  /-- The working segment is attached once, and nothing else is. -/
  segments : s.worker.segments = some {
    dir := config.segmentDir
    entries := [(d.working.key, { handle := d.handle, count := 1 })]
    primaryKey := some d.working.key }
  controller : s.worker.controller = some ⟨0⟩
  datamanager : s.worker.datamanager = some ⟨1⟩
  /-- Nothing was said to the controller, and nothing behind the assignment was read. -/
  toController : s.Wired ⟨0⟩ .controller env.net.links.length [] d.controllerRest
  /-- The request and the process id were sent to the datamanager, and nothing behind the reply was
  read. -/
  toDatamanager : ∃ request introduction, Frame.encode Dialogue.request = .ok request ∧
    Frame.encode (Dialogue.introduction pid) = .ok introduction ∧
    s.Wired ⟨1⟩ .datamanager (env.net.links.length + 1) (request ++ introduction)
      d.datamanagerRest
  /-- There are no other new links. -/
  links : s.env.net.links.length = env.net.links.length + 2
  /-- What the datamanager said in front of the reply waits, but for the announcements. -/
  deferred : s.worker.queue.items = proper d.passed

namespace Session

/-! ### Between the steps -/

variable {config : ModuleConfig} {pid : UInt32} {env : Environment}

/-- A worker that was just made. -/
def fresh (config : ModuleConfig) (pid : UInt32) (env : Environment) : Session :=
  { worker := .ofConfig config pid, env }

/-- What leaves connections and network alone leaves every connection as it is. -/
theorem Wired.of_eq {id : ConnectionId} {role : Role} {i : Nat} {sent coming : Bytes}
    {s t : Session} (h : s.Wired id role i sent coming)
    (hc : t.worker.connections = s.worker.connections) (hn : t.env.net = s.env.net) :
    t.Wired id role i sent coming := by
  refine ⟨?_, ?_, ?_⟩
  · rw [hc]
    exact h.found
  · rw [hn]
    exact h.sent
  · rw [hn]
    exact h.coming

/-- Listening to one connection leaves the others alone. -/
theorem Wired.of_hears {id j : ConnectionId} {c c' : Connection} {role : Role} {i : Nat}
    {sent coming : Bytes} {s t : Session} (h : s.Wired j role i sent coming)
    (hears : Hears id c c' s t) (hj : j ≠ id) (hi : i ≠ c.link) : t.Wired j role i sent coming := by
  have hsame := hears.net.others i hi
  refine ⟨?_, hsame.sent.trans h.sent, hsame.coming.trans h.coming⟩
  rw [hears.others j hj]
  exact h.found

/-- Sending on one connection leaves the others alone. -/
theorem Wired.afterSend {id j : ConnectionId} {c : Connection} {role : Role} {i : Nat}
    {sent coming : Bytes} {s : Session} (h : s.Wired j role i sent coming) (hl : Live id c s)
    (m : Message) (hj : j ≠ id) (hi : i ≠ c.link) :
    (s.afterSend m c).Wired j role i sent coming := by
  have hlink := (c.writesOn_written m hl.inStep.linked).others i hi
  refine ⟨?_, (congrArg Link.sent hlink).trans h.sent, (congrArg Link.coming hlink).trans h.coming⟩
  have hother : (s.worker.connections.put c).get? j = s.worker.connections.get? j := by
    refine Registry.get?_put_ne ?_
    rw [Registry.id_of_get? hl.found]
    exact hj
  show ∃ c', (s.worker.connections.put c).get? j = some c' ∧ _
  rw [hother]
  exact h.found

/-- A new connection leaves the others alone. -/
theorem Wired.adds {id : ConnectionId} {role : Role} {i : Nat} {sent coming : Bytes} {l : Listener}
    {c : Connection} {s t : Session} (h : s.Wired id role i sent coming) (hadds : Adds l c s t)
    (hi : i < s.env.net.links.length) : t.Wired id role i sent coming := by
  have hlink := hadds.opened.link_of_lt hi
  obtain ⟨c₀, hfound, hrole, hlink₀⟩ := h.found
  refine ⟨⟨c₀, ?_, hrole, hlink₀⟩, (congrArg Link.sent hlink).trans h.sent,
    (congrArg Link.coming hlink).trans h.coming⟩
  rw [hadds.worker]
  exact Registry.get?_concat_of_some hfound _

/-! ### The controller -/

/-- The controller was contacted. -/
structure Contacted (config : ModuleConfig) (pid : UInt32) (env : Environment)
    (endpoint : Endpoint) (l : Listener) (c : Connection) (s : Session) : Prop where
  worker : s.worker = { Coordinator.ofConfig config pid with
    stage := .awaitingAssignment
    connections := s.worker.connections
    controller := some ⟨0⟩
    controllerEndpoint := some endpoint }
  nextId : s.worker.connections.nextId = 1
  others : ∀ id, id ≠ ⟨0⟩ → s.worker.connections.get? id = none
  live : Live ⟨0⟩ c s
  connection : c = {
    id := ⟨0⟩, role := .controller, endpoint, port := config.controllerPort,
    link := env.net.links.length }
  files : s.env.files = env.files
  opened : Network.Opened l c.link env.net s.env.net

theorem contacted {t : Session}
    (h : Coordinated.contactController (fresh config pid env) = (.ok (), t)) :
    ∃ endpoint l c, (Endpoint.resolve env.names config.controllerHost).1 = .ok endpoint ∧
      endpoint.isResolved = true ∧
      env.net.answering endpoint.addr config.controllerPort config.connectTimeout = some l ∧
      Contacted config pid env endpoint l c t := by
  obtain ⟨endpoint, id, u, hresolved, hknown, hadd, rfl⟩ :=
    Coordinated.contactController_eq_ok.1 h
  obtain ⟨rfl, l, hl, hadds⟩ := addConnection_ok hadd
  have hlive := hadds.live rfl rfl rfl
  refine ⟨endpoint, l, _, hresolved, hknown, hl, ?_, ?_, fun id hid => ?_,
    ⟨hlive.found, hlive.inStep, hlive.alive⟩, rfl, hadds.files, hadds.opened⟩
  · rw [Coordinated.afterController, hadds.worker]
    rfl
  · rw [Coordinated.afterController, hadds.worker]
    rfl
  · rw [Coordinated.afterController, hadds.worker]
    exact List.find?_cons_of_neg fun h => hid (of_decide_eq_true h).symm

theorem contactController_of (pid : UInt32) {endpoint : Endpoint} {l : Listener}
    (hresolved : (Endpoint.resolve env.names config.controllerHost).1 = .ok endpoint)
    (hknown : endpoint.isResolved = true)
    (hl : env.net.answering endpoint.addr config.controllerPort config.connectTimeout = some l) :
    ∃ t, Coordinated.contactController (fresh config pid env) = (.ok (), t) := by
  obtain ⟨u, hadd⟩ := addConnection_of_answering .controller
    (Coordinated.beforeController endpoint (fresh config pid env)) hl
  exact ⟨_, Coordinated.contactController_eq_ok.2 ⟨endpoint, _, u, hresolved, hknown, hadd, rfl⟩⟩

theorem Contacted.attends {endpoint : Endpoint} {l : Listener} {c : Connection} {s : Session}
    (h : Contacted config pid env endpoint l c s) (hp : env.net.PollsFine) :
    Attends ⟨0⟩ c s := by
  refine ⟨h.live, ?_, ?_, hp.of_suffix h.opened.faults⟩
  · rw [h.worker]
    rfl
  · rw [h.worker]
    rfl

/-- The stream of the new connection is what the controller sends. -/
theorem Contacted.stream {endpoint : Endpoint} {l : Listener} {c : Connection} {s : Session}
    (h : Contacted config pid env endpoint l c s) :
    c.stream s.env.net = Link.bytesOf l.arrivals := by
  rw [Connection.stream, h.opened.link, Link.coming, Listener.arrivals_opened, h.connection]
  rfl

/-- What the wait for the assignment does. -/
theorem Contacted.scans {endpoint : Endpoint} {l : Listener} {c : Connection} {s : Session}
    (h : Contacted config pid env endpoint l c s) (hp : env.net.PollsFine) :
    ∃ announced, Scan ⟨0⟩ .controller (fun _ => True) config.segmentDir
        (Link.bytesOf l.arrivals) (none, env.files) announced s.wait.1 s.wait.2.holding
        (s.wait.2.env.net.link c.link).coming ∧
      ∀ m, s.wait.1 = .ok m →
        ∃ c', Hears ⟨0⟩ c c' s s.wait.2 ∧ s.wait.2.worker.queue.items = [] ∧
          s.wait.2.env.net.pollFaults = [] := by
  have hscans := wait_scans (h.attends hp)
  have hconfig : s.worker.config = config := by
    rw [h.worker]
    rfl
  have hrole : c.role = .controller := by rw [h.connection]
  have hholding : s.holding = (none, env.files) := by
    rw [holding, h.files, h.worker]
    rfl
  rw [hconfig, hrole, hholding, h.stream] at hscans
  exact hscans

/-- The controller has named a port. -/
structure Directed (config : ModuleConfig) (pid : UInt32) (env : Environment)
    (endpoint : Endpoint) (held : Holding) (rest : Bytes) (s : Session) : Prop where
  config : s.worker.config = config
  pid : s.worker.pid = pid
  controller : s.worker.controller = some ⟨0⟩
  endpoint : s.worker.controllerEndpoint = some endpoint
  nextId : s.worker.connections.nextId = 1
  free : s.worker.connections.get? ⟨1⟩ = none
  queue : s.worker.queue.items = []
  holding : s.holding = held
  listeners : s.env.net.listeners = env.net.listeners
  faults : s.env.net.pollFaults = []
  links : s.env.net.links.length = env.net.links.length + 1
  wired : s.Wired ⟨0⟩ .controller env.net.links.length [] rest

theorem Contacted.directed {endpoint : Endpoint} {l : Listener} {c c' : Connection}
    {s t : Session} (h : Contacted config pid env endpoint l c s) (hears : Hears ⟨0⟩ c c' s t)
    (hq : t.worker.queue.items = []) (hf : t.env.net.pollFaults = []) :
    Directed config pid env endpoint t.holding (t.env.net.link c.link).coming t := by
  have hlink : c.link = env.net.links.length := by rw [h.connection]
  have hrole : c.role = .controller := by rw [h.connection]
  have hwired : t.Wired ⟨0⟩ .controller env.net.links.length [] (t.env.net.link c.link).coming := by
    refine ⟨⟨c', hears.live.found, hears.role.trans hrole, hears.link.trans hlink⟩, ?_, ?_⟩
    · rw [← hlink, hears.net.sent, h.opened.link, Listener.sent_opened]
    · rw [← hlink]
  have hworker := hears.worker
  rw [h.worker] at hworker
  refine ⟨?_, ?_, ?_, ?_, hears.nextId.trans h.nextId, ?_, hq, rfl, ?_, hf, ?_, hwired⟩
  · rw [hworker]
    rfl
  · rw [hworker]
    rfl
  · rw [hworker]
  · rw [hworker]
  · rw [hears.others _ (by decide)]
    exact h.others _ (by decide)
  · exact hears.net.listeners.trans h.opened.listeners
  · rw [hears.net.count, h.opened.count]

theorem Directed.report {endpoint : Endpoint} {held : Holding} {rest : Bytes} {s : Session}
    (h : Directed config pid env endpoint held rest s) (event : Event) :
    Directed config pid env endpoint held rest (s.report event) :=
  ⟨h.config, h.pid, h.controller, h.endpoint, h.nextId, h.free, h.queue, h.holding, h.listeners,
    h.faults, h.links, h.wired.of_eq rfl rfl⟩

/-! ### The datamanager -/

/-- The datamanager is connected: connection `c`, on whose link `sent` was sent and `rest` is to
come, and whose coming writes meet `sink`. -/
structure Served (config : ModuleConfig) (pid : UInt32) (env : Environment) (c : Connection)
    (deferred : List Message) (held : Holding) (rest₀ : Bytes) (sink : Sink) (sent rest : Bytes)
    (s : Session) : Prop where
  config : s.worker.config = config
  pid : s.worker.pid = pid
  controller : s.worker.controller = some ⟨0⟩
  datamanager : s.worker.datamanager = some ⟨1⟩
  queue : s.worker.queue.items = deferred
  holding : s.holding = held
  links : s.env.net.links.length = env.net.links.length + 2
  wired : s.Wired ⟨0⟩ .controller env.net.links.length [] rest₀
  live : Live ⟨1⟩ c s
  role : c.role = .datamanager
  link : c.link = env.net.links.length + 1
  sink : (s.env.net.link c.link).sink = sink
  sent : (s.env.net.link c.link).sent = sent
  coming : (s.env.net.link c.link).coming = rest

/-- Who answers depends on the listeners, and on the faults of polls that are left. -/
theorem answering_congr {net net' : Network} (hl : net'.listeners = net.listeners)
    (hf : net'.pollFaults = []) (addr : Ipv4) (port : Port) (timeout : Option Nat) :
    net'.answering addr port timeout
      = ({ net with pollFaults := [] } : Network).answering addr port timeout := by
  rw [Network.answering, Network.answering, hl, hf]

theorem Directed.served {endpoint : Endpoint} {held : Holding} {rest : Bytes} {s t : Session}
    {port : Port} {id : ConnectionId} (h : Directed config pid env endpoint held rest s)
    (ht : Coordinated.contactDatamanager port s = (.ok id, t)) :
    id = ⟨1⟩ ∧ ∃ l c, ({ env.net with pollFaults := [] } : Network).answering endpoint.addr port
        config.connectTimeout = some l ∧ c.buffered = [] ∧
      Served config pid env c [] held rest l.sink [] (Link.bytesOf l.arrivals) t := by
  obtain ⟨u, hadd, rfl⟩ := (Coordinated.contactDatamanager_eq_ok h.endpoint).1 ht
  obtain ⟨rfl, l, hl, hadds⟩ := addConnection_ok hadd
  rw [h.config] at hl
  -- The new connection has the second number, and the second of the new links.
  generalize hc : dialled .datamanager endpoint port
    (Coordinated.beforeDatamanager endpoint port s) = c at hadds ⊢
  have hid : c.id = ⟨1⟩ := by
    rw [← hc]
    exact congrArg ConnectionId.mk h.nextId
  have hlink : c.link = env.net.links.length + 1 := by
    rw [← hc]
    exact h.links
  have hbuffered : c.buffered = [] := by rw [← hc, dialled]
  have hlive := hadds.live (by rw [← hc, dialled]) hbuffered (by rw [hid]; exact h.free)
  rw [hid] at hlive
  have hlast := hadds.opened.link
  have hwired := (h.wired.of_eq (t := Coordinated.beforeDatamanager endpoint port s) rfl rfl).adds
    hadds (Nat.lt_of_lt_of_eq (Nat.lt_succ_self _) h.links.symm)
  refine ⟨hid, l, c, (answering_congr h.listeners h.faults ..).symm.trans hl, hbuffered, ?_⟩
  refine ⟨?_, ?_, ?_, ?_, ?_, ?_, ?_, hwired.of_eq rfl rfl,
    ⟨hlive.found, hlive.inStep, hlive.alive⟩, by rw [← hc, dialled], hlink, ?_, ?_, ?_⟩
  · exact (congrArg Coordinator.config hadds.worker).trans h.config
  · exact (congrArg Coordinator.pid hadds.worker).trans h.pid
  · exact (congrArg Coordinator.controller hadds.worker).trans h.controller
  · exact congrArg some hid
  · exact (congrArg (·.queue.items) hadds.worker).trans h.queue
  · refine Eq.trans (Prod.ext ?_ ?_ : _ = s.holding) h.holding
    · exact (congrArg Coordinator.segments hadds.worker).trans rfl
    · exact hadds.files
  · exact hadds.opened.count.trans (congrArg (· + 1) h.links)
  · exact (congrArg Link.sink hlast).trans (l.sink_opened _)
  · exact (congrArg Link.sent hlast).trans (l.sent_opened _)
  · refine (congrArg Link.coming hlast).trans ?_
    rw [Link.coming, l.arrivals_opened]

theorem Directed.contactDatamanager_of {endpoint : Endpoint} {held : Holding} {rest : Bytes}
    {s : Session} {port : Port} {l : Listener} (h : Directed config pid env endpoint held rest s)
    (hl : ({ env.net with pollFaults := [] } : Network).answering endpoint.addr port
      config.connectTimeout = some l) :
    ∃ id t, Coordinated.contactDatamanager port s = (.ok id, t) := by
  have hanswers := (answering_congr h.listeners h.faults ..).trans hl
  rw [← h.config] at hanswers
  obtain ⟨u, hadd⟩ := addConnection_of_answering .datamanager
    (Coordinated.beforeDatamanager endpoint port s) hanswers
  exact ⟨_, _, (Coordinated.contactDatamanager_eq_ok h.endpoint).2 ⟨u, hadd, rfl⟩⟩

section Serving

variable {c : Connection} {deferred : List Message} {held : Holding} {rest₀ sent rest : Bytes}
  {sink : Sink} {s t : Session}

/-- The link takes a message if its sink does. -/
theorem Served.send_eq (h : Served config pid env c deferred held rest₀ sink sent rest s)
    (m : Message) :
    ((s.env.net.link c.link).send m).1 = (Sink.writeMessage m (.ok ()) sink).1 := by
  rw [← h.sink]
  rfl

/-- What was sent went out on the datamanager's link. -/
theorem Served.afterSend (h : Served config pid env c deferred held rest₀ sink sent rest s)
    (m : Message) :
    Served config pid env c deferred held rest₀ (Sink.writeMessage m (.ok ()) sink).2.sink
      (sent ++ (Sink.writeMessage m (.ok ()) sink).2.written) rest (s.afterSend m c) := by
  have hlink : (s.afterSend m c).env.net.link c.link = ((s.env.net.link c.link).send m).2 :=
    Network.link_setLink h.live.inStep.linked _
  refine ⟨h.config, h.pid, h.controller, h.datamanager, h.queue, h.holding, ?_, ?_,
    h.live.afterSend m, h.role, h.link, ?_, ?_, ?_⟩
  · exact (Network.length_setLink ..).trans h.links
  · refine h.wired.afterSend h.live m (by decide) ?_
    rw [h.link]
    exact Nat.ne_of_lt (Nat.lt_succ_self _)
  · rw [hlink, ← h.sink]
    rfl
  · rw [hlink, ← h.sent, ← h.sink]
    rfl
  · rw [hlink, ← h.coming]
    rfl

theorem Served.hears {c' : Connection}
    (h : Served config pid env c deferred held rest₀ sink sent rest s)
    (hears : Hears ⟨1⟩ c c' s t) :
    Served config pid env c' t.worker.queue.items t.holding rest₀ sink sent
      (t.env.net.link c.link).coming t := by
  refine ⟨?_, ?_, ?_, ?_, rfl, rfl, hears.net.count.trans h.links, ?_, hears.live,
    hears.role.trans h.role, hears.link.trans h.link, ?_, ?_, ?_⟩
  · rw [hears.worker]
    exact h.config
  · rw [hears.worker]
    exact h.pid
  · rw [hears.worker]
    exact h.controller
  · rw [hears.worker]
    exact h.datamanager
  · refine h.wired.of_hears hears (by decide) ?_
    rw [h.link]
    exact Nat.ne_of_lt (Nat.lt_succ_self _)
  · rw [hears.link]
    exact hears.net.sink.trans h.sink
  · rw [hears.link]
    exact hears.net.sent.trans h.sent
  · rw [hears.link]

/-- What leaves connections, network and the like alone. -/
theorem Served.of_eq {held' : Holding}
    (h : Served config pid env c deferred held rest₀ sink sent rest s)
    (hworker : t.worker = { s.worker with
      stage := t.worker.stage
      segments := t.worker.segments })
    (hnet : t.env.net = s.env.net) (hheld : t.holding = held') :
    Served config pid env c deferred held' rest₀ sink sent rest t := by
  refine ⟨?_, ?_, ?_, ?_, ?_, hheld, by rw [hnet]; exact h.links, h.wired.of_eq ?_ hnet,
    ⟨?_, by rw [hnet]; exact h.live.inStep, h.live.alive⟩, h.role, h.link,
    by rw [hnet]; exact h.sink, by rw [hnet]; exact h.sent, by rw [hnet]; exact h.coming⟩
  · rw [hworker]
    exact h.config
  · rw [hworker]
    exact h.pid
  · rw [hworker]
    exact h.controller
  · rw [hworker]
    exact h.datamanager
  · rw [hworker]
    exact h.queue
  · rw [hworker]
  · rw [hworker]
    exact h.live.found

/-- The session in which the worker asks for its segment. -/
def askingForKey (s : Session) : Session :=
  { s with worker := { s.worker with stage := .awaitingKey } }

theorem Served.asking (h : Served config pid env c deferred held rest₀ sink sent rest s) :
    Served config pid env c deferred held rest₀ sink sent rest s.askingForKey :=
  h.of_eq rfl rfl h.holding

/-- **The worker gets a reply if its request is sent and the reply comes.** -/
theorem Served.requestSegment_eq_ok
    (h : Served config pid env c deferred held rest₀ sink sent rest s) {reply : Message} :
    Coordinated.requestSegment ⟨1⟩ s = (.ok reply, t) ↔
      (Sink.writeMessage Dialogue.request (.ok ()) sink).1 = .ok () ∧
      (s.askingForKey.afterSend Dialogue.request c).awaitReply ⟨1⟩ c.role [.getShmKey]
        = (.ok reply, t) := by
  rw [← h.asking.send_eq Dialogue.request]
  exact exchange_eq_ok h.asking.live

/-- The wait for the reply is a scan of what the datamanager sends. -/
theorem Served.scans (hb : c.buffered = [])
    (h : Served config pid env c deferred held rest₀ sink sent rest s) :
    ∃ passed, Scan ⟨1⟩ .datamanager (· ∈ [.getShmKey]) config.segmentDir rest held passed
        (s.awaitReply ⟨1⟩ c.role [.getShmKey]).1
        (s.awaitReply ⟨1⟩ c.role [.getShmKey]).2.holding
        ((s.awaitReply ⟨1⟩ c.role [.getShmKey]).2.env.net.link c.link).coming ∧
      (s.awaitReply ⟨1⟩ c.role [.getShmKey]).2.worker.queue.items = deferred ++ proper passed := by
  have hscans := awaitReply_scans c.role [.getShmKey] h.live.found h.live.inStep h.live.alive
  have hstream : c.stream s.env.net = rest := by
    rw [Connection.stream, hb, h.coming]
    rfl
  rw [hstream, h.config, h.holding, h.queue] at hscans
  rw [h.role] at hscans ⊢
  exact hscans

/-- The session that follows a reply. -/
theorem Served.replied (hb : c.buffered = [])
    (h : Served config pid env c deferred held rest₀ sink sent rest s) {reply : Message}
    (ht : s.awaitReply ⟨1⟩ c.role [.getShmKey] = (.ok reply, t)) :
    ∃ passed late left c', Scan ⟨1⟩ .datamanager (· ∈ [.getShmKey]) config.segmentDir rest held
        passed (.ok reply) late left ∧
      Served config pid env c' (deferred ++ proper passed) late rest₀ sink sent left t := by
  obtain ⟨passed, hscan, hqueue⟩ := h.scans hb
  obtain ⟨c', hears⟩ := awaitReply_hears c.role [.getShmKey] h.live (by rw [ht])
  rw [ht] at hscan hqueue hears
  have hserved := h.hears hears
  rw [show t.worker.queue.items = _ from hqueue] at hserved
  exact ⟨passed, t.holding, _, c', hscan, hserved⟩

/-- The working segment takes the place of what was attached before. -/
theorem Served.supplied (h : Served config pid env c deferred held rest₀ sink sent rest s)
    {reply : Message} (ht : Coordinated.assignedSegment reply s = (.ok (), t)) :
    ∃ a handle files, SegmentAnnouncement.decode reply.payload.toList = .ok a ∧
      (({ dir := config.segmentDir } : SegmentAccess).attach a.key a.size.toNat held.2).1
        = .ok handle ∧
      Served config pid env c deferred
        (some {
          dir := config.segmentDir
          entries := [(a.key, { handle, count := 1 })]
          primaryKey := some a.key }, files) rest₀ sink sent rest t := by
  obtain ⟨a, handle, ha, hattach, rfl⟩ := Coordinated.assignedSegment_eq_ok.1 ht
  obtain ⟨hworker, hnet, hfiles⟩ := Coordinated.afterSegment_of_ok hattach
  have hheld : s.env.files = held.2 := congrArg Prod.snd h.holding
  refine ⟨a, handle, (Coordinated.afterSegment a s).env.files, ha, ?_, h.of_eq ?_ hnet ?_⟩
  · rw [← h.config, ← hheld]
    exact hattach
  · rw [hworker]
  · refine congrArg (·, (Coordinated.afterSegment a s).env.files) ?_
    rw [hworker, ← h.config]
    exact congrArg some (SegmentAccess.attach_fresh hattach)

theorem Served.assignedSegment_of
    (h : Served config pid env c deferred held rest₀ sink sent rest s) {reply : Message}
    {a : SegmentAnnouncement} {handle : SegmentHandle}
    (ha : SegmentAnnouncement.decode reply.payload.toList = .ok a)
    (hattach : (({ dir := config.segmentDir } : SegmentAccess).attach a.key a.size.toNat
      held.2).1 = .ok handle) :
    ∃ t, Coordinated.assignedSegment reply s = (.ok (), t) := by
  have hheld : s.env.files = held.2 := congrArg Prod.snd h.holding
  rw [← h.config, ← hheld] at hattach
  exact ⟨_, Coordinated.assignedSegment_eq_ok.2 ⟨a, handle, ha, hattach, rfl⟩⟩

/-- **The process id is announced if the datamanager's link takes it.** -/
theorem Served.announcePid_eq_ok
    (h : Served config pid env c deferred held rest₀ sink sent rest s) :
    Coordinated.announcePid s = (.ok (), t) ↔
      (Sink.writeMessage (Dialogue.introduction pid) (.ok ()) sink).1 = .ok () ∧
      t = { s.afterSend (Dialogue.introduction pid) c with worker := {
        (s.afterSend (Dialogue.introduction pid) c).worker with stage := .running } } := by
  rw [Coordinated.announcePid_eq_ok, h.pid, ← h.send_eq]
  constructor
  · rintro ⟨u, hsent, rfl⟩
    obtain ⟨hlink, rfl⟩ := (sendToDatamanager_eq_ok h.datamanager h.live).1 hsent
    exact ⟨hlink, rfl⟩
  · rintro ⟨hlink, rfl⟩
    exact ⟨_, (sendToDatamanager_eq_ok h.datamanager h.live).2 ⟨hlink, rfl⟩, rfl⟩

end Serving

/-! ### The whole handshake -/

/-- **A handshake that succeeds followed the protocol, and leaves what it should.** -/
theorem follows_of_handshake (hp : env.net.PollsFine) {u : Session}
    (h : (fresh config pid env).handshake = (.ok (), u)) :
    ∃ d : Dialogue, d.Follows config pid env ∧ d.Leaves config pid env u := by
  obtain ⟨m, port, id, reply, t₁, t₂, t₃, t₄, t₅, t₆, t₇, hs⟩ := (handshake_eq_ok rfl).1 h
  -- The controller is contacted, and its first message that is no announcement names a port.
  obtain ⟨endpoint, l₁, c₁, hresolved, hknown, hl₁, hcontacted⟩ := contacted hs.contactController
  obtain ⟨announced, hassigned, hears⟩ := hcontacted.scans hp
  rw [hs.wait] at hassigned hears
  obtain ⟨c₁', hheard, hempty, hfaults⟩ := hears m rfl
  obtain ⟨hkind, hport, rfl⟩ := Coordinated.assigned_eq_ok.1 hs.assigned
  have hdirected := (hcontacted.directed hheard hempty hfaults).report (.datamanagerAssigned port)
  -- The datamanager is asked for a segment, and told the process id once that is attached.
  obtain ⟨rfl, l₂, c₂, hl₂, hb, hserved⟩ := hdirected.served hs.contactDatamanager
  obtain ⟨hrequested, hreply⟩ := hserved.requestSegment_eq_ok.1 hs.requestSegment
  obtain ⟨passed, late, left, c₃, hreplied, hserved'⟩ :=
    (hserved.asking.afterSend Dialogue.request).replied hb hreply
  obtain ⟨a, handle, files, ha, hattach, hsupplied⟩ := hserved'.supplied hs.assignedSegment
  obtain ⟨hintroduced, rfl⟩ := hsupplied.announcePid_eq_ok.1 hs.announcePid
  have hlast := hsupplied.afterSend (Dialogue.introduction pid)
  refine ⟨⟨endpoint, l₁, announced, m, port, l₂, passed, reply, a, handle, _, late, _, left⟩,
    ⟨hresolved, hknown, hl₁, hassigned, hkind, hport, hl₂, hrequested, hreplied, ha, hattach,
      hintroduced⟩, ?_⟩
  rw [hs.finish]
  refine ⟨rfl, congrArg Prod.fst hlast.holding, hlast.controller, hlast.datamanager,
    hlast.wired.of_eq rfl rfl, ?_, hlast.links, hlast.queue⟩
  refine ⟨_, _, Sink.frame_of_writeMessage hrequested, Sink.frame_of_writeMessage hintroduced,
    ⟨c₃, hlast.live.found, hlast.role, hlast.link⟩, ?_, ?_⟩
  · rw [← hlast.link]
    exact hlast.sent
  · rw [← hlast.link]
    exact hlast.coming

/-- Where the protocol is followed, the handshake succeeds. -/
theorem handshake_of_follows (hp : env.net.PollsFine) {d : Dialogue}
    (h : d.Follows config pid env) : ∃ u, (fresh config pid env).handshake = (.ok (), u) := by
  obtain ⟨t₁, h₁⟩ := contactController_of pid h.resolved h.known h.controllerAnswers
  obtain ⟨endpoint, l₁, c₁, hresolved, hknown, hl₁, hcontacted⟩ := contacted h₁
  obtain rfl : d.endpoint = endpoint := Except.ok.inj (h.resolved.symm.trans hresolved)
  obtain rfl : d.controller = l₁ := Option.some.inj (h.controllerAnswers.symm.trans hl₁)
  -- The wait finds what the protocol says, since a stream has one answer only.
  obtain ⟨announced, hscan, hears⟩ := hcontacted.scans hp
  obtain ⟨-, hm, hearly, hrest⟩ := h.assigned.unique hscan
  obtain ⟨c₁', hheard, hempty, hfaults⟩ := hears _ hm
  have hwait : t₁.wait = (.ok d.assignment, t₁.wait.2) := Prod.ext hm rfl
  have hassigned := (Coordinated.assigned_eq_ok (s := t₁.wait.2)).2 ⟨h.kind, h.port, rfl⟩
  have hdirected := (hcontacted.directed hheard hempty hfaults).report (.datamanagerAssigned d.port)
  obtain ⟨id, t₄, h₄⟩ := hdirected.contactDatamanager_of h.datamanagerAnswers
  obtain ⟨rfl, l₂, c₂, hl₂, hb, hserved⟩ := hdirected.served h₄
  obtain rfl : d.datamanager = l₂ := Option.some.inj (h.datamanagerAnswers.symm.trans hl₂)
  -- So does the exchange, which starts from the segments that the wait has left.
  have hasked := hserved.asking.afterSend Dialogue.request
  obtain ⟨passed, hscan₂, -⟩ := hasked.scans hb
  rw [hearly] at hscan₂
  obtain ⟨-, hreply, -, -⟩ := h.replied.unique hscan₂
  have hanswered := hserved.requestSegment_eq_ok.2 ⟨h.requested, Prod.ext hreply rfl⟩
  obtain ⟨passed', late, left, c₃, hscan₃, hserved'⟩ := hasked.replied hb (Prod.ext hreply rfl)
  rw [hearly] at hscan₃
  obtain ⟨-, -, rfl, -⟩ := h.replied.unique hscan₃
  obtain ⟨t₆, h₆⟩ := hserved'.assignedSegment_of h.working h.attached
  obtain ⟨a, handle, files, -, -, hsupplied⟩ := hserved'.supplied h₆
  have hintroduced := hsupplied.announcePid_eq_ok.2 ⟨h.introduced, rfl⟩
  exact ⟨_, (handshake_eq_ok rfl).2 ⟨_, _, _, _, t₁, _, _, t₄, _, t₆, _,
    ⟨h₁, hwait, hassigned, h₄, hanswered, h₆, hintroduced, rfl⟩⟩⟩

end Session

/-- The names, the sockets and the files leave one way to follow the protocol. -/
theorem Dialogue.Follows.unique {config : ModuleConfig} {pid : UInt32} {env : Environment}
    {d d' : Dialogue} (h : d.Follows config pid env) (h' : d'.Follows config pid env) : d' = d := by
  obtain ⟨endpoint, l₁, announced, m, port, l₂, passed, reply, a, handle, early, late, rest₁,
    rest₂⟩ := d
  obtain ⟨endpoint', l₁', announced', m', port', l₂', passed', reply', a', handle', early', late',
    rest₁', rest₂'⟩ := d'
  obtain rfl : endpoint = endpoint' := Except.ok.inj (h.resolved.symm.trans h'.resolved)
  obtain rfl : l₁ = l₁' := Option.some.inj (h.controllerAnswers.symm.trans h'.controllerAnswers)
  obtain ⟨rfl, hm, rfl, rfl⟩ := h.assigned.unique h'.assigned
  obtain rfl : m' = m := Except.ok.inj hm
  obtain rfl : port = port' :=
    congrArg DatamanagerAssignment.port (Except.ok.inj (h.port.symm.trans h'.port))
  obtain rfl : l₂ = l₂' :=
    Option.some.inj (h.datamanagerAnswers.symm.trans h'.datamanagerAnswers)
  obtain ⟨rfl, hreply, rfl, rfl⟩ := h.replied.unique h'.replied
  obtain rfl : reply' = reply := Except.ok.inj hreply
  obtain rfl : a = a' := Except.ok.inj (h.working.symm.trans h'.working)
  obtain rfl : handle = handle' := Except.ok.inj (h.attached.symm.trans h'.attached)
  rfl

/-- **The handshake of a new worker succeeds if and only if the others follow the protocol, and then
it leaves what it should**; polls are taken not to fail. -/
theorem Session.handshake_follows (config : ModuleConfig) (pid : UInt32) (env : Environment)
    (hp : env.net.PollsFine) :
    ((fresh config pid env).handshake.1 = .ok () ↔ ∃ d : Dialogue, d.Follows config pid env) ∧
      ∀ d : Dialogue, d.Follows config pid env →
        d.Leaves config pid env (fresh config pid env).handshake.2 := by
  refine ⟨⟨fun h => ?_, ?_⟩, fun d hd => ?_⟩
  · obtain ⟨d, hfollows, -⟩ := follows_of_handshake hp (Prod.ext h rfl)
    exact ⟨d, hfollows⟩
  · rintro ⟨d, hd⟩
    obtain ⟨u, hu⟩ := handshake_of_follows hp hd
    rw [hu]
  · obtain ⟨u, hu⟩ := handshake_of_follows hp hd
    obtain ⟨d', hfollows, hleaves⟩ := follows_of_handshake hp hu
    rw [hd.unique hfollows] at hleaves
    rw [hu]
    exact hleaves

/-- A controller that names port 5000. -/
def Listener.assigning : Listener where
  addr := .loopback
  port := 4000
  script := [(0, .data [0, 0, 0, 12, 0, 0, 0, 4, 0, 0, 19, 136])]

/-- A datamanager that has some other news in front of its reply, which comes in two parts, and
says more behind it. -/
def Listener.supplying : Listener where
  addr := .loopback
  port := 5000
  script := [
    (0, .data [0, 0, 0, 6, 0]),
    (5, .data [0, 0, 0, 0, 0, 0, 13, 0, 0, 0, 8, 0, 0, 0, 1, 0, 0, 0, 64, 0, 0, 0, 1])]

/-- These two on one host, where a poll reports too much and another one is interrupted. -/
def Environment.cooperative : Environment where
  net := { listeners := [.assigning, .supplying], pollFaults := [.spurious, .failure .intr] }

/-- What is said there. -/
def Dialogue.cooperative : Dialogue where
  endpoint := ⟨.loopback, "127.0.0.1"⟩
  controller := .assigning
  announced := []
  assignment := (Message.ofBytes .appContactDm [0, 0, 19, 136]).withOrigin ⟨0⟩
  port := 5000
  datamanager := .supplying
  passed := [(Message.ofBytes .info []).withOrigin ⟨1⟩]
  reply := (Message.ofBytes .getShmKey [0, 0, 0, 1, 0, 0, 0, 64]).withOrigin ⟨1⟩
  working := ⟨⟨1⟩, 64⟩
  handle := { key := ⟨1⟩, mapping := { file := 0, length := 64, created := true, serial := 0 } }
  early := (none, {})
  late := (none, {})
  controllerRest := []
  datamanagerRest := [0, 0, 0, 1]

/-- With these two the handshake of a worker succeeds. -/
theorem Session.handshake_follows_cooperative :
    Environment.cooperative.net.PollsFine ∧
      Dialogue.cooperative.Follows (.ofController "127.0.0.1" 4000) 7 .cooperative ∧
      (fresh (.ofController "127.0.0.1" 4000) 7 .cooperative).handshake.1 = .ok () ∧
      Dialogue.cooperative.Leaves (.ofController "127.0.0.1" 4000) 7 .cooperative
        (fresh (.ofController "127.0.0.1" 4000) 7 .cooperative).handshake.2 := by
  have hp : Environment.cooperative.net.PollsFine := by
    intro fault hf
    rcases List.mem_cons.1 hf with rfl | hf
    · exact .inr rfl
    · rw [List.mem_singleton.1 hf]
      exact .inl rfl
  have hd : Dialogue.cooperative.Follows (.ofController "127.0.0.1" 4000) 7 .cooperative := by
    refine ⟨rfl, rfl, rfl, ?_, rfl, rfl, rfl, rfl, ?_, rfl, ?_, rfl⟩
    · have hframe : Frame.decode [0, 0, 0, 12, 0, 0, 0, 4, 0, 0, 19, 136]
          = .ok (Message.ofBytes .appContactDm [0, 0, 19, 136], 12) := rfl
      exact Verdict.scan (.answer hframe (by decide) trivial)
    · have hnews : Frame.decode (Link.bytesOf Listener.supplying.arrivals)
          = .ok (Message.ofBytes .info [], 8) := rfl
      have hframe : Frame.decode ((Link.bytesOf Listener.supplying.arrivals).drop 8)
          = .ok (Message.ofBytes .getShmKey [0, 0, 0, 1, 0, 0, 0, 64], 16) := rfl
      refine Scan.cons hnews (.inr (by decide)) rfl (Verdict.scan ?_)
      exact .answer hframe (by decide) (by decide)
    · have hslot : ({} : FileSystem).locate (SegmentKey.path ⟨1⟩ "/dev/shm")
          = .ok (.slot ⟨2, "basalt-seg-00000001"⟩ none) := rfl
      exact SegmentAccess.attach_of_missing (by decide) hslot (by decide) (by decide)
  obtain ⟨hiff, hleaves⟩ := handshake_follows (.ofController "127.0.0.1" 4000) 7 .cooperative hp
  exact ⟨hp, hd, hiff.2 ⟨_, hd⟩, hleaves _ hd⟩

end PipelineWorker
