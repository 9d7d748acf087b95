/-
When the steps of the handshake succeed.

For each step the sessions are told in which it succeeds, and the session that it leaves.

* `contactController_eq_ok`, `assigned_eq_ok`, `contactDatamanager_eq_ok`,
  `assignedSegment_eq_ok`, `announcePid_eq_ok` — one step each;
* `handshake_eq_ok` — all of them, one after the other;
* `addConnection_ok`, `exchange_eq_ok`, `sendToDatamanager_eq_ok` — what the steps are made of.
-/
import PipelineWorker.Proofs.Listening

namespace PipelineWorker

namespace Coordinated

variable {α : Type}

theorem decoded_eq_ok {x : Except CodecError α} {s t : Session} {a : α} :
    decoded x s = (.ok a, t) ↔ x = .ok a ∧ t = s := by
  cases x with
  | ok b =>
    refine ⟨fun h => ?_, ?_⟩
    · cases h
      exact ⟨rfl, rfl⟩
    · rintro ⟨hx, rfl⟩
      cases hx
      rfl
  | error e =>
    refine ⟨(fun h => nomatch h), ?_⟩
    rintro ⟨hx, -⟩
    cases hx

theorem resolve_eq_ok {host : String} {s t : Session} {endpoint : Endpoint} :
    resolve host s = (.ok endpoint, t) ↔
      (Endpoint.resolve s.env.names host).1 = .ok endpoint ∧ endpoint.isResolved = true ∧
        t = s.reportAll (Endpoint.resolve s.env.names host).2 := by
  rw [resolve, run_bind, run_get]
  dsimp only
  rw [run_bind, run_modify]
  generalize Endpoint.resolve s.env.names host = r
  rcases r with ⟨e | found, events⟩
  · refine ⟨(fun h => by cases h), ?_⟩
    rintro ⟨hx, -⟩
    cases hx
  · dsimp only
    by_cases hf : found.isResolved = true
    · rw [if_pos hf, run_pure]
      refine ⟨fun h => ?_, ?_⟩
      · cases h
        exact ⟨rfl, hf, rfl⟩
      · rintro ⟨hx, -, rfl⟩
        cases hx
        rfl
    · rw [if_neg hf, run_throw]
      refine ⟨(fun h => by cases h), ?_⟩
      rintro ⟨hx, hr, -⟩
      cases hx
      exact absurd hr hf

theorem connect_eq_ok {role : Role} {endpoint : Endpoint} {port : Port} {s t : Session}
    {id : ConnectionId} :
    connect role endpoint port s = (.ok id, t) ↔
      s.addConnection role endpoint port s.worker.config.connectTimeout = (.ok id, t) := by
  rw [run_connect]
  generalize s.addConnection role endpoint port s.worker.config.connectTimeout = r
  rcases r with ⟨e | i, u⟩
  · exact ⟨(fun h => nomatch h), (fun h => nomatch h)⟩
  · refine ⟨fun h => ?_, fun h => ?_⟩
    · cases h
      rfl
    · cases h
      rfl

/-- The session in which the worker connects to the controller. -/
def beforeController (endpoint : Endpoint) (s : Session) : Session :=
  (({ s with worker := { s.worker with stage := .contactingController } } : Session).reportAll
    (Endpoint.resolve s.env.names s.worker.config.controllerHost).2).report
      (.contactingController endpoint s.worker.config.controllerPort)

/-- The session once the controller was contacted. -/
def afterController (endpoint : Endpoint) (id : ConnectionId) (s : Session) : Session :=
  { s with worker := { s.worker with
      controller := some id, controllerEndpoint := some endpoint, stage := .awaitingAssignment } }

theorem contactController_eq_ok {s t : Session} :
    contactController s = (.ok (), t) ↔ ∃ endpoint id u,
      (Endpoint.resolve s.env.names s.worker.config.controllerHost).1 = .ok endpoint ∧
      endpoint.isResolved = true ∧
      (beforeController endpoint s).addConnection .controller endpoint
        s.worker.config.controllerPort s.worker.config.connectTimeout = (.ok id, u) ∧
      t = afterController endpoint id u := by
  constructor
  · intro h
    obtain ⟨_, s₁, h₁, h⟩ := bind_eq_ok.1 h
    cases h₁
    obtain ⟨_, s₂, h₂, h⟩ := bind_eq_ok.1 h
    cases h₂
    obtain ⟨endpoint, s₃, h₃, h⟩ := bind_eq_ok.1 h
    obtain ⟨hresolved, hknown, rfl⟩ := resolve_eq_ok.1 h₃
    obtain ⟨_, s₄, h₄, h⟩ := bind_eq_ok.1 h
    cases h₄
    obtain ⟨id, u, h₅, h⟩ := bind_eq_ok.1 h
    obtain ⟨_, s₆, h₆, h⟩ := bind_eq_ok.1 h
    cases h₆
    cases h
    exact ⟨endpoint, id, u, hresolved, hknown, connect_eq_ok.1 h₅, rfl⟩
  · rintro ⟨endpoint, id, u, hresolved, hknown, hadd, rfl⟩
    refine bind_eq_ok.2 ⟨_, _, rfl, bind_eq_ok.2 ⟨_, _, rfl, ?_⟩⟩
    refine bind_eq_ok.2 ⟨endpoint, _, resolve_eq_ok.2 ⟨hresolved, hknown, rfl⟩, ?_⟩
    refine bind_eq_ok.2 ⟨_, _, rfl, bind_eq_ok.2 ⟨id, u, connect_eq_ok.2 hadd, ?_⟩⟩
    rfl

theorem assigned_eq_ok {m : Message} {s t : Session} {port : Port} :
    assigned m s = (.ok port, t) ↔ m.kind = .appContactDm ∧
      DatamanagerAssignment.decode m.payload.toList = .ok ⟨port⟩ ∧
      t = s.report (.datamanagerAssigned port) := by
  by_cases hk : m.kind = .appContactDm
  · have hsteps : assigned m = (do
        let a ← decoded (DatamanagerAssignment.decode m.payload.toList)
        report (.datamanagerAssigned a.port)
        return a.port) := if_neg fun h => h hk
    rw [hsteps]
    constructor
    · intro h
      obtain ⟨a, s₁, h₁, hrest⟩ := bind_eq_ok.1 h
      obtain ⟨ha, rfl⟩ := decoded_eq_ok.1 h₁
      cases hrest
      exact ⟨hk, ha, rfl⟩
    · rintro ⟨-, ha, rfl⟩
      exact bind_eq_ok.2 ⟨_, _, decoded_eq_ok.2 ⟨ha, rfl⟩, rfl⟩
  · refine ⟨fun h => ?_, ?_⟩
    · rw [assigned] at h
      rw [if_pos hk] at h
      cases h
    · rintro ⟨h, -⟩
      exact absurd h hk

/-- The session in which the worker connects to the datamanager. -/
def beforeDatamanager (endpoint : Endpoint) (port : Port) (s : Session) : Session :=
  ({ s with worker := { s.worker with stage := .contactingDatamanager } } : Session).report
    (.contactingDatamanager endpoint port)

/-- Connects to the datamanager on the controller's host, if that is known. -/
def dialDatamanager (port : Port) : Option Endpoint → Coordinated ConnectionId
  | none => throw (.missingConnection .controller)
  | some endpoint => do
    report (.contactingDatamanager endpoint port)
    let id ← connect .datamanager endpoint port
    modify fun s => { s with worker := { s.worker with datamanager := some id } }
    return id

theorem run_contactDatamanager (port : Port) (s : Session) :
    contactDatamanager port s = dialDatamanager port s.worker.controllerEndpoint
      { s with worker := { s.worker with stage := .contactingDatamanager } } := rfl

theorem contactDatamanager_eq_ok {port : Port} {s t : Session} {id : ConnectionId}
    {endpoint : Endpoint} (he : s.worker.controllerEndpoint = some endpoint) :
    contactDatamanager port s = (.ok id, t) ↔ ∃ u,
      (beforeDatamanager endpoint port s).addConnection .datamanager endpoint port
        s.worker.config.connectTimeout = (.ok id, u) ∧
      t = { u with worker := { u.worker with datamanager := some id } } := by
  have hsteps := congrArg (fun e => dialDatamanager port e
    { s with worker := { s.worker with stage := .contactingDatamanager } }) he
  rw [run_contactDatamanager, hsteps]
  constructor
  · intro h
    obtain ⟨_, s₁, h₁, h⟩ := bind_eq_ok.1 h
    cases h₁
    obtain ⟨i, u, h₂, hrest⟩ := bind_eq_ok.1 h
    cases hrest
    exact ⟨u, connect_eq_ok.1 h₂, rfl⟩
  · rintro ⟨u, hadd, rfl⟩
    exact bind_eq_ok.2 ⟨_, _, rfl, bind_eq_ok.2 ⟨id, u, connect_eq_ok.2 hadd, rfl⟩⟩

theorem attachWorking_eq_ok {a : SegmentAnnouncement} {s t : Session} :
    attachWorking a s = (.ok (), t) ↔ ∃ handle,
      (({ dir := s.worker.config.segmentDir } : SegmentAccess).attach a.key a.size.toNat
        s.env.files).1 = .ok handle ∧ t = (afterAttach
          (({ dir := s.worker.config.segmentDir } : SegmentAccess).attach a.key a.size.toNat
            s.env.files) s).2 := by
  rw [run_attachWorking]
  generalize SegmentAccess.attach a.key a.size.toNat _ s.env.files = r
  rcases r with ⟨e | handle, access, files, events⟩
  · refine ⟨(fun h => nomatch h), ?_⟩
    rintro ⟨handle, h, -⟩
    cases h
  · refine ⟨fun h => ⟨handle, rfl, ?_⟩, ?_⟩
    · cases h
      rfl
    · rintro ⟨-, -, rfl⟩
      rfl

/-- The session once the working segment was attached. -/
def afterSegment (a : SegmentAnnouncement) (s : Session) : Session :=
  let attached := (afterAttach (({ dir := s.worker.config.segmentDir } : SegmentAccess).attach
    a.key a.size.toNat s.env.files) s).2
  let reported := attached.report (.workingSegmentAttached a.key a.size)
  { reported with worker := { reported.worker with stage := .attached } }

theorem afterSegment_of_ok {a : SegmentAnnouncement} {s : Session} {handle : SegmentHandle}
    (h : (({ dir := s.worker.config.segmentDir } : SegmentAccess).attach a.key a.size.toNat
      s.env.files).1 = .ok handle) :
    (afterSegment a s).worker = { s.worker with
      stage := .attached
      segments := some (({ dir := s.worker.config.segmentDir } : SegmentAccess).attach a.key
        a.size.toNat s.env.files).2.1 } ∧
    (afterSegment a s).env.net = s.env.net ∧
    (afterSegment a s).env.files = (({ dir := s.worker.config.segmentDir } : SegmentAccess).attach
      a.key a.size.toNat s.env.files).2.2.1 := by
  rw [afterSegment]
  generalize SegmentAccess.attach a.key a.size.toNat _ s.env.files = r at h ⊢
  obtain ⟨x, access, files, events⟩ := r
  cases h
  exact ⟨rfl, rfl, rfl⟩

/-- An empty reply names no segment. -/
theorem decode_of_isEmpty {p : Payload} (h : p.isEmpty = true) :
    SegmentAnnouncement.decode p.toList = .error (.truncated 4 0) := by
  have hlength : p.toList.length = 0 := by
    rw [Payload.length_toList]
    exact eq_of_beq h
  rw [List.eq_nil_of_length_eq_zero hlength]
  rfl

theorem assignedSegment_eq_ok {reply : Message} {s t : Session} :
    assignedSegment reply s = (.ok (), t) ↔ ∃ a handle,
      SegmentAnnouncement.decode reply.payload.toList = .ok a ∧
      (({ dir := s.worker.config.segmentDir } : SegmentAccess).attach a.key a.size.toNat
        s.env.files).1 = .ok handle ∧
      t = afterSegment a s := by
  by_cases hempty : reply.payload.isEmpty = true
  · -- An empty reply is refused at once, and could not be decoded either.
    constructor
    · intro h
      rw [assignedSegment, if_pos hempty] at h
      cases h
    · rintro ⟨a, handle, ha, -⟩
      rw [decode_of_isEmpty hempty] at ha
      cases ha
  · have hsteps : assignedSegment reply = (do
        let a ← decoded (SegmentAnnouncement.decode reply.payload.toList)
        attachWorking a
        report (.workingSegmentAttached a.key a.size)
        enter .attached) := if_neg hempty
    rw [hsteps]
    constructor
    · intro h
      obtain ⟨a, s₁, h₁, hrest⟩ := bind_eq_ok.1 h
      obtain ⟨ha, rfl⟩ := decoded_eq_ok.1 h₁
      obtain ⟨_, s₂, h₂, hrest'⟩ := bind_eq_ok.1 hrest
      obtain ⟨handle, hattach, rfl⟩ := attachWorking_eq_ok.1 h₂
      cases hrest'
      exact ⟨a, handle, ha, hattach, rfl⟩
    · rintro ⟨a, handle, ha, hattach, rfl⟩
      refine bind_eq_ok.2 ⟨a, s, decoded_eq_ok.2 ⟨ha, rfl⟩, bind_eq_ok.2 ⟨(), _, ?_, rfl⟩⟩
      exact attachWorking_eq_ok.2 ⟨handle, hattach, rfl⟩

theorem announcePid_eq_ok {s t : Session} :
    announcePid s = (.ok (), t) ↔ ∃ u,
      s.sendToDatamanager (ProcessIdAnnouncement.toMessage ⟨s.worker.pid⟩) = (.ok (), u) ∧
      t = { u with worker := { u.worker with stage := .running } } := by
  constructor
  · intro h
    obtain ⟨_, s₁, h₁, h⟩ := bind_eq_ok.1 h
    cases h₁
    obtain ⟨_, u, h₂, hrest⟩ := bind_eq_ok.1 h
    cases hrest
    exact ⟨u, h₂, rfl⟩
  · rintro ⟨u, hsent, rfl⟩
    exact bind_eq_ok.2 ⟨_, _, rfl, bind_eq_ok.2 ⟨(), u, hsent, rfl⟩⟩

end Coordinated

namespace Session

/-- The sessions between the steps of a handshake that succeeds. -/
structure Stations (s u : Session) (m : Message) (port : Port) (id : ConnectionId)
    (reply : Message) (t₁ t₂ t₃ t₄ t₅ t₆ t₇ : Session) : Prop where
  contactController : Coordinated.contactController s = (.ok (), t₁)
  wait : t₁.wait = (.ok m, t₂)
  assigned : Coordinated.assigned m t₂ = (.ok port, t₃)
  contactDatamanager : Coordinated.contactDatamanager port t₃ = (.ok id, t₄)
  requestSegment : Coordinated.requestSegment id t₄ = (.ok reply, t₅)
  assignedSegment : Coordinated.assignedSegment reply t₅ = (.ok (), t₆)
  announcePid : Coordinated.announcePid t₆ = (.ok (), t₇)
  finish : u = t₇.report (.moduleRunning t₇.worker.config.moduleName t₇.worker.config.moduleId
    t₇.worker.pid)

/-- **The handshake of a new worker succeeds if all its steps do.** -/
theorem handshake_eq_ok {s u : Session} (hs : s.worker.stage = .unstarted) :
    s.handshake = (.ok (), u) ↔ ∃ m port id reply t₁ t₂ t₃ t₄ t₅ t₆ t₇,
      Stations s u m port id reply t₁ t₂ t₃ t₄ t₅ t₆ t₇ := by
  have hsteps : s.handshake = (.ok (), u) ↔ Coordinated.handshakeSteps s = (.ok (), u) := by
    rw [handshake, if_neg (by rw [hs]; exact fun h => h rfl)]
    generalize Coordinated.handshakeSteps s = r
    rcases r with ⟨e | x, t⟩
    · constructor <;> intro h <;> cases h
    · exact Iff.rfl
  rw [hsteps]
  constructor
  · intro h
    obtain ⟨_, t₁, h₁, h⟩ := Coordinated.bind_eq_ok.1 h
    obtain ⟨port, t₃, h₂, h⟩ := Coordinated.bind_eq_ok.1 h
    obtain ⟨m, t₂, hwait, hassigned⟩ := Coordinated.bind_eq_ok.1 h₂
    obtain ⟨id, t₄, h₃, h⟩ := Coordinated.bind_eq_ok.1 h
    obtain ⟨_, t₆, h₄, h⟩ := Coordinated.bind_eq_ok.1 h
    rw [Coordinated.obtainSegment_eq] at h₄
    obtain ⟨reply, t₅, hrequest, hsegment⟩ := Coordinated.bind_eq_ok.1 h₄
    obtain ⟨_, t₇, h₅, h⟩ := Coordinated.bind_eq_ok.1 h
    cases h
    exact ⟨m, port, id, reply, t₁, t₂, t₃, t₄, t₅, t₆, t₇,
      ⟨h₁, hwait, hassigned, h₃, hrequest, hsegment, h₅, rfl⟩⟩
  · rintro ⟨m, port, id, reply, t₁, t₂, t₃, t₄, t₅, t₆, t₇, h⟩
    refine Coordinated.bind_eq_ok.2 ⟨(), t₁, h.contactController, ?_⟩
    refine Coordinated.bind_eq_ok.2 ⟨port, t₃, ?_, ?_⟩
    · exact Coordinated.bind_eq_ok.2 ⟨m, t₂, h.wait, h.assigned⟩
    refine Coordinated.bind_eq_ok.2 ⟨id, t₄, h.contactDatamanager, ?_⟩
    refine Coordinated.bind_eq_ok.2 ⟨(), t₆, ?_, ?_⟩
    · rw [Coordinated.obtainSegment_eq]
      exact Coordinated.bind_eq_ok.2 ⟨reply, t₅, h.requestSegment, h.assignedSegment⟩
    refine Coordinated.bind_eq_ok.2 ⟨(), t₇, h.announcePid, ?_⟩
    rw [h.finish]
    rfl

/-! ### What the parts do where they succeed -/

/-- The connection that a worker makes next, if it can. -/
def dialled (role : Role) (endpoint : Endpoint) (port : Port) (s : Session) : Connection :=
  { id := ⟨s.worker.connections.nextId⟩, role, endpoint, port, link := s.env.net.links.length }

/-- From `s` to `t` the connection `c` to the listener `l` was added, and nothing else happened. -/
structure Adds (l : Listener) (c : Connection) (s t : Session) : Prop where
  worker : t.worker = { s.worker with connections := {
    connections := s.worker.connections.connections ++ [c]
    nextId := s.worker.connections.nextId + 1 } }
  files : t.env.files = s.env.files
  opened : Network.Opened l c.link s.env.net t.env.net

theorem addConnection_ok {role : Role} {endpoint : Endpoint} {port : Port} {timeout : Option Nat}
    {s t : Session} {id : ConnectionId}
    (h : s.addConnection role endpoint port timeout = (.ok id, t)) :
    id = (s.dialled role endpoint port).id ∧
      ∃ l, s.env.net.answering endpoint.addr port timeout = some l ∧
        Adds l (s.dialled role endpoint port) s t := by
  rw [addConnection, Registry.add] at h
  dsimp only at h
  cases hd : Connection.dial ⟨s.worker.connections.nextId⟩ role endpoint port timeout s.env with
  | mk x env =>
    rw [hd] at h
    cases x with
    | error e => cases h
    | ok c =>
      obtain ⟨l, hl, hopened, hc, henv⟩ := Connection.dial_ok hd
      cases h
      have hdialled : c = s.dialled role endpoint port := by
        rw [hc, hopened.number]
        rfl
      refine ⟨rfl, l, hl, ?_, ?_, ?_⟩
      · rw [← hdialled]
      · show env.files = _
        rw [henv]
        rfl
      · rw [← hdialled]
        exact hopened

/-- A connection that cannot be made takes its number along, and nothing else happens. -/
theorem addConnection_error {role : Role} {endpoint : Endpoint} {port : Port}
    {timeout : Option Nat} {s t : Session} {e : NetError}
    (h : s.addConnection role endpoint port timeout = (.error e, t)) :
    t.worker = { s.worker with connections := { s.worker.connections with
      nextId := s.worker.connections.nextId + 1 } } := by
  rw [addConnection, Registry.add] at h
  dsimp only at h
  split at h
  · rw [← (Prod.mk.inj h).2]
  · cases h

theorem addConnection_of_answering (role : Role) {endpoint : Endpoint} {port : Port}
    {timeout : Option Nat} (s : Session) {l : Listener}
    (h : s.env.net.answering endpoint.addr port timeout = some l) :
    ∃ t, s.addConnection role endpoint port timeout
      = (.ok (s.dialled role endpoint port).id, t) := by
  obtain ⟨hdial, -⟩ := Network.dial_of_answering h
  cases hd : s.env.net.dial endpoint.addr port timeout with
  | mk r net =>
    rw [hd] at hdial
    obtain rfl : r = .ok s.env.net.links.length := hdial
    rw [addConnection, Registry.add, Connection.dial, hd]
    exact ⟨_, rfl⟩

/-- A connection that was added is live. -/
theorem Adds.live {l : Listener} {c : Connection} {s t : Session} (h : Adds l c s t)
    (hc : c.alive = true) (hb : c.buffered = [])
    (hnew : s.worker.connections.get? c.id = none) : Live c.id c t := by
  refine ⟨?_, ⟨?_, ?_, fun _ => ?_⟩, hc⟩
  · rw [h.worker]
    exact Registry.get?_concat hnew _
  · rw [h.opened.count, h.opened.number]
    exact Nat.lt_succ_self _
  · rw [hb]
    exact Frame.isPartial_nil
  · rw [h.opened.link, Listener.readTimeout_opened]

/-- A send on a live connection succeeds if its link takes the frame. -/
theorem send_of_live {id : ConnectionId} {c : Connection} {s : Session} {m : Message}
    (hl : Live id c s) (h : ((s.env.net.link c.link).send m).1 = .ok ()) :
    s.send id m = (.ok (), s.afterSend m c) := by
  rw [send, Registry.send, Registry.withConnection, hl.found]
  dsimp only
  rw [Connection.send_of_ok hl.alive h]
  rfl

theorem send_eq_ok {id : ConnectionId} {c : Connection} {s t : Session} {m : Message}
    (hl : Live id c s) :
    s.send id m = (.ok (), t) ↔
      ((s.env.net.link c.link).send m).1 = .ok () ∧ t = s.afterSend m c := by
  constructor
  · intro h
    obtain ⟨-, hlink, hsend⟩ := send_ok hl.found (by rw [h])
    rw [h] at hsend
    exact ⟨hlink, (Prod.mk.inj hsend).2⟩
  · rintro ⟨hlink, rfl⟩
    exact send_of_live hl hlink

theorem Live.afterSend {id : ConnectionId} {c : Connection} {s : Session} (hl : Live id c s)
    (m : Message) : Live id c (s.afterSend m c) := by
  obtain ⟨hfound, hstep, -⟩ := found_afterSend m hl.found hl.inStep
  exact ⟨hfound, hstep, hl.alive⟩

/-- An exchange succeeds if its request is sent and the reply comes. -/
theorem exchange_eq_ok {id : ConnectionId} {c : Connection} {s t : Session} {request m : Message}
    {expected : List Kind} (hl : Live id c s) :
    s.exchange id request expected = (.ok m, t) ↔
      ((s.env.net.link c.link).send request).1 = .ok () ∧
      (s.afterSend request c).awaitReply id c.role expected = (.ok m, t) := by
  rw [exchange, hl.found]
  dsimp only
  constructor
  · intro h
    cases hs : s.send id request with
    | mk x u =>
      rw [hs] at h
      cases x with
      | error e => cases h
      | ok _ =>
        obtain ⟨hlink, rfl⟩ := (send_eq_ok hl).1 hs
        exact ⟨hlink, h⟩
  · rintro ⟨hlink, h⟩
    rw [send_of_live hl hlink]
    exact h

theorem sendToDatamanager_eq_ok {id : ConnectionId} {c : Connection} {s t : Session}
    {m : Message} (hd : s.worker.datamanager = some id) (hl : Live id c s) :
    s.sendToDatamanager m = (.ok (), t) ↔
      ((s.env.net.link c.link).send m).1 = .ok () ∧ t = s.afterSend m c := by
  rw [sendToDatamanager, hd]
  dsimp only
  constructor
  · intro h
    cases hs : s.send id m with
    | mk x u =>
      rw [hs] at h
      cases x with
      | error e => cases h
      | ok _ =>
        obtain ⟨hlink, rfl⟩ := (send_eq_ok hl).1 hs
        exact ⟨hlink, (Prod.mk.inj h).2.symm⟩
  · rintro ⟨hlink, rfl⟩
    rw [send_of_live hl hlink]

end Session

end PipelineWorker
