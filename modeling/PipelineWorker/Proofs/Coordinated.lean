/-
Steps that may fail, one after the other.

* `run_bind` — a step and what follows it;
* `bind_eq_ok`, `bind_eq_error` — a sequence succeeds if both of its parts do, and fails if one does;
* `Keeps.bind` — what every step does to the session, a sequence of steps does;
* `Ensures.bind` — what a sequence of steps leads to, whether it succeeds or not;
* `run_connect`, `run_attachWorking` — the steps that look at the session before they change it;
* `Lasting` — relations that hold along all steps of the handshake that receive nothing.
-/
import PipelineWorker.Coordinator.Handshake
import PipelineWorker.Proofs.Connection

namespace PipelineWorker

namespace Session

/-- Adds a connection. -/
def addConnection (role : Role) (endpoint : Endpoint) (port : Port) (timeout : Option Nat)
    (s : Session) : Except NetError ConnectionId × Session :=
  let (x, connections, env) := s.worker.connections.add role endpoint port timeout s.env
  (x, { worker := { s.worker with connections }, env })

end Session

namespace SegmentAccess

/-- Attaching a segment receives nothing. -/
theorem quiet_attach (key : SegmentKey) (size : Nat) (s : SegmentAccess) (fs : FileSystem) :
    (s.attach key size fs).2.2.2.filterMap Event.message? = [] := by
  rw [attach]
  split
  · dsimp only
    split <;> rfl
  · dsimp only
    split <;> rfl

theorem quiet_detachAll (s : SegmentAccess) :
    s.detachAll.2.filterMap Event.message? = [] := by
  rw [detachAll]
  dsimp only
  split <;> rfl

end SegmentAccess

namespace Coordinated

variable {α β : Type}

/-- A step that fails ends the sequence. -/
theorem run_bind (x : Coordinated α) (f : α → Coordinated β) (s : Session) :
    (x >>= f) s = match x s with
      | (.ok a, t) => f a t
      | (.error e, t) => (.error e, t) := by
  show (match x s with | (a, t) => (ExceptT.bindCont f a) t) = _
  rcases x s with ⟨a | e, t⟩
  · rfl
  · rfl

theorem run_bind_of_ok {x : Coordinated α} {f : α → Coordinated β} {s t : Session} {a : α}
    (h : x s = (.ok a, t)) : (x >>= f) s = f a t := by
  rw [run_bind, h]

theorem run_bind_of_error {x : Coordinated α} {f : α → Coordinated β} {s t : Session}
    {e : CoordinatorError} (h : x s = (.error e, t)) : (x >>= f) s = (.error e, t) := by
  rw [run_bind, h]

@[simp] theorem run_pure (a : α) (s : Session) : (pure a : Coordinated α) s = (.ok a, s) := rfl

@[simp] theorem run_throw (e : CoordinatorError) (s : Session) :
    (throw e : Coordinated α) s = (.error e, s) := rfl

@[simp] theorem run_get (s : Session) : (get : Coordinated Session) s = (.ok s, s) := rfl

@[simp] theorem run_set (s t : Session) : (set t : Coordinated PUnit) s = (.ok ⟨⟩, t) := rfl

@[simp] theorem run_modify (f : Session → Session) (s : Session) :
    (modify f : Coordinated PUnit) s = (.ok ⟨⟩, f s) := rfl

/-- **A sequence of steps succeeds if both of its parts do.** -/
theorem bind_eq_ok {x : Coordinated α} {f : α → Coordinated β} {s u : Session} {b : β} :
    (x >>= f) s = (.ok b, u) ↔ ∃ a t, x s = (.ok a, t) ∧ f a t = (.ok b, u) := by
  rw [run_bind]
  rcases x s with ⟨e | a, t⟩
  · refine ⟨(fun h => nomatch h), ?_⟩
    rintro ⟨a, t', h, -⟩
    cases h
  · refine ⟨fun h => ⟨a, t, rfl, h⟩, ?_⟩
    rintro ⟨a', t', h, hf⟩
    cases h
    exact hf

/-- **It fails if its first part does, or the second one after that.** -/
theorem bind_eq_error {x : Coordinated α} {f : α → Coordinated β} {s u : Session}
    {e : CoordinatorError} :
    (x >>= f) s = (.error e, u) ↔
      x s = (.error e, u) ∨ ∃ a t, x s = (.ok a, t) ∧ f a t = (.error e, u) := by
  rw [run_bind]
  rcases x s with ⟨e' | a, t⟩
  · refine ⟨fun h => ?_, ?_⟩
    · cases h
      exact .inl rfl
    · rintro (h | ⟨a, t', h, -⟩)
      · cases h
        rfl
      · cases h
  · refine ⟨fun h => .inr ⟨a, t, rfl, h⟩, ?_⟩
    rintro (h | ⟨a', t', h, hf⟩)
    · cases h
    · cases h
      exact hf

/-- The step does to every session what `P` says, whether it fails or not. -/
def Keeps (P : Session → Session → Prop) (x : Coordinated α) : Prop := ∀ s, P s (x s).2

/-- What every step does to the session, a sequence of steps does. -/
theorem Keeps.bind {P : Session → Session → Prop} {x : Coordinated α} {f : α → Coordinated β}
    (htrans : ∀ {s t u}, P s t → P t u → P s u) (hx : Keeps P x) (hf : ∀ a, Keeps P (f a)) :
    Keeps P (x >>= f) := by
  intro s
  have hs := hx s
  rw [run_bind]
  rcases hr : x s with ⟨e | a, t⟩
  · rw [hr] at hs
    exact hs
  · rw [hr] at hs
    exact htrans hs (hf a t)

/-- Started in `s`, the step succeeds as `Q` says, or fails as `F` says. -/
def Ensures (x : Coordinated α) (s : Session) (Q : α → Session → Prop) (F : Session → Prop) :
    Prop :=
  match x s with
  | (.ok a, t) => Q a t
  | (.error _, t) => F t

section Ensures

variable {x : Coordinated α} {f : α → Coordinated β} {s : Session} {Q : α → Session → Prop}
  {F : Session → Prop}

theorem Ensures.bind {R : β → Session → Prop}
    (hx : Ensures x s (fun a t => Ensures (f a) t R F) F) : Ensures (x >>= f) s R F := by
  rw [Ensures, run_bind]
  rw [Ensures] at hx
  rcases hr : x s with ⟨e | a, t⟩
  · rw [hr] at hx
    exact hx
  · rw [hr] at hx
    exact hx

theorem Ensures.mono {R : α → Session → Prop} {G : Session → Prop} (hx : Ensures x s Q F)
    (hQ : ∀ a t, Q a t → R a t) (hF : ∀ t, F t → G t) : Ensures x s R G := by
  rw [Ensures] at hx ⊢
  rcases hr : x s with ⟨e | a, t⟩
  · rw [hr] at hx
    exact hF t hx
  · rw [hr] at hx
    exact hQ a t hx

theorem ensures_of (hok : ∀ a, (x s).1 = .ok a → Q a (x s).2)
    (herror : ∀ e, (x s).1 = .error e → F (x s).2) : Ensures x s Q F := by
  rw [Ensures]
  generalize x s = r at hok herror ⊢
  rcases r with ⟨e | a, t⟩
  · exact herror e rfl
  · exact hok a rfl

/-- Where a step succeeds, it is known how it did. -/
theorem Ensures.run (hx : Ensures x s Q F) :
    Ensures x s (fun a t => x s = (.ok a, t) ∧ Q a t) F := by
  rw [Ensures] at hx ⊢
  rcases hr : x s with ⟨e | a, t⟩
  · rw [hr] at hx
    exact hx
  · rw [hr] at hx
    exact ⟨rfl, hx⟩

theorem ensures_pure {a : α} (h : Q a s) : Ensures (pure a) s Q F := h

theorem ensures_throw {e : CoordinatorError} (h : F s) : Ensures (throw e : Coordinated α) s Q F :=
  h

theorem ensures_get {Q : Session → Session → Prop} (h : Q s s) :
    Ensures (get : Coordinated Session) s Q F := h

theorem ensures_modify {g : Session → Session} {Q : PUnit → Session → Prop} (h : Q ⟨⟩ (g s)) :
    Ensures (modify g : Coordinated PUnit) s Q F := h

theorem ensures_decoded {y : Except CodecError α} (hok : ∀ a, y = .ok a → Q a s) (herror : F s) :
    Ensures (decoded y) s Q F := by
  cases y with
  | ok a => exact hok a rfl
  | error e => exact herror

theorem ensures_resolve {host : String} {Q : Endpoint → Session → Prop}
    (hok : ∀ endpoint events, Q endpoint (s.reportAll events))
    (herror : ∀ events, F (s.reportAll events)) : Ensures (resolve host) s Q F := by
  rw [resolve]
  refine .bind (ensures_get ?_)
  generalize Endpoint.resolve s.env.names host = r
  obtain ⟨y, events⟩ := r
  refine .bind (ensures_modify ?_)
  cases y with
  | error e => exact ensures_throw (herror events)
  | ok endpoint =>
    dsimp only
    split
    · exact ensures_pure (hok endpoint events)
    · exact ensures_throw (herror events)

end Ensures

/-! ### Steps that look at the session -/

theorem run_connect (role : Role) (endpoint : Endpoint) (port : Port) (s : Session) :
    connect role endpoint port s
      = ((s.addConnection role endpoint port s.worker.config.connectTimeout).1.mapError .net,
        (s.addConnection role endpoint port s.worker.config.connectTimeout).2) := by
  rw [connect, run_bind, run_get, Session.addConnection]
  dsimp only
  rw [run_bind, run_set]
  dsimp only
  cases (s.worker.connections.add role endpoint port s.worker.config.connectTimeout s.env).1 <;> rfl

theorem ensures_connect {role : Role} {endpoint : Endpoint} {port : Port} {s : Session}
    {Q : ConnectionId → Session → Prop} {F : Session → Prop}
    (hok : ∀ id t, s.addConnection role endpoint port s.worker.config.connectTimeout = (.ok id, t) →
      Q id t)
    (herror : ∀ e t,
      s.addConnection role endpoint port s.worker.config.connectTimeout = (.error e, t) → F t) :
    Ensures (connect role endpoint port) s Q F := by
  rw [Ensures, run_connect]
  generalize s.addConnection role endpoint port s.worker.config.connectTimeout = r at hok herror ⊢
  rcases r with ⟨e | id, t⟩
  · exact herror e t rfl
  · exact hok id t rfl

/-- The session once the working segment was attached, or was not. -/
def afterAttach (x : Except SegmentError SegmentHandle × SegmentAccess × FileSystem × List Event)
    (s : Session) : Except CoordinatorError Unit × Session :=
  let env := ({ s.env with files := x.2.2.1 } : Environment).reportAll x.2.2.2
  match x.1 with
  | .error e => (.error (.segment e), { s with env })
  | .ok _ =>
    (.ok (), Session.reportAll (s.worker.segments.elim [] fun old => old.detachAll.2)
      { worker := { s.worker with segments := some x.2.1 }, env })

theorem run_attachWorking (a : SegmentAnnouncement) (s : Session) :
    attachWorking a s = afterAttach (({ dir := s.worker.config.segmentDir } : SegmentAccess).attach
      a.key a.size.toNat s.env.files) s := by
  rw [attachWorking, run_bind, run_get]
  dsimp only
  rw [run_bind, run_set]
  dsimp only
  generalize SegmentAccess.attach a.key a.size.toNat _ s.env.files = r
  rcases r with ⟨e | h, access, files, events⟩ <;> rfl
/-! ### The parts of the handshake -/

/-- What the handshake does with the message that it waited for. -/
def assigned (m : Message) : Coordinated Port := do
  if m.kind ≠ .appContactDm then
    violation .appContactDm m.kind
  let a ← decoded (DatamanagerAssignment.decode m.payload.toList)
  report (.datamanagerAssigned a.port)
  return a.port

theorem awaitAssignment_eq : awaitAssignment = Session.wait >>= assigned := rfl

/-- Asks the datamanager for the working segment. -/
def requestSegment (datamanager : ConnectionId) : Coordinated Message := do
  enter .awaitingKey
  Session.exchange datamanager (.empty .getShmKey) [.getShmKey]

/-- What the handshake does with the reply. -/
def assignedSegment (reply : Message) : Coordinated Unit := do
  if reply.payload.isEmpty then
    violation .getShmKey reply.kind
  let a ← decoded (SegmentAnnouncement.decode reply.payload.toList)
  attachWorking a
  report (.workingSegmentAttached a.key a.size)
  enter .attached

theorem obtainSegment_eq (datamanager : ConnectionId) :
    obtainSegment datamanager = requestSegment datamanager >>= assignedSegment := rfl

/-- What holds of two sessions where one comes from the other by steps that receive nothing. -/
structure Lasting (P : Session → Session → Prop) : Prop where
  refl : ∀ s, P s s
  trans : ∀ {s t u}, P s t → P t u → P s u
  /-- Steps that leave connections, deferred messages and the network alone. -/
  aside : ∀ {s t : Session}, t.worker.connections = s.worker.connections →
    t.worker.queue = s.worker.queue → t.env.net = s.env.net →
    t.env.received = s.env.received → P s t
  addConnection : ∀ role endpoint port timeout s,
    P s (Session.addConnection role endpoint port timeout s).2

section Lasting

variable {P : Session → Session → Prop} (h : Lasting P)

include h

theorem Lasting.pure (a : α) : Keeps P (pure a : Coordinated α) := h.refl

theorem Lasting.throw (e : CoordinatorError) : Keeps P (throw e : Coordinated α) := h.refl

theorem Lasting.get : Keeps P (get : Coordinated Session) := h.refl

theorem Lasting.bind {x : Coordinated α} {f : α → Coordinated β} (hx : Keeps P x)
    (hf : ∀ a, Keeps P (f a)) : Keeps P (x >>= f) := .bind h.trans hx hf

theorem Lasting.violation (expected received : Kind) :
    Keeps P (violation expected received : Coordinated α) := h.refl

theorem Lasting.decoded (x : Except CodecError α) : Keeps P (decoded x) := by
  cases x with
  | ok a => exact h.pure a
  | error e => exact h.throw (.codec e)

theorem Lasting.report {event : Event} (he : event.message? = none) : Keeps P (report event) := by
  intro s
  refine h.aside rfl rfl rfl ?_
  show (s.env.report event).received = _
  rw [Environment.received_report, he]
  exact List.append_nil _

theorem Lasting.reportAll {events : List Event} (he : events.filterMap Event.message? = [])
    (s : Session) : P s (s.reportAll events) := by
  refine h.aside rfl rfl rfl ?_
  show (s.env.reportAll events).received = _
  rw [Environment.received_reportAll, he, List.append_nil]

theorem Lasting.enter (stage : Stage) : Keeps P (enter stage) := fun _ => h.aside rfl rfl rfl rfl

theorem Lasting.resolve (host : String) : Keeps P (resolve host) := by
  refine h.bind h.get fun s => ?_
  have hquiet : (Endpoint.resolve s.env.names host).2.filterMap Event.message? = [] := by
    rw [Endpoint.resolve]
    split
    · rfl
    · rw [Endpoint.resolveSymbolic]
      cases NameTable.firstV4 (s.env.names.addresses host) <;> rfl
  refine h.bind (fun t => h.reportAll hquiet t) fun _ => ?_
  split
  · exact h.throw _
  · split
    · exact h.pure _
    · exact h.throw _

theorem Lasting.connect (role : Role) (endpoint : Endpoint) (port : Port) :
    Keeps P (connect role endpoint port) := by
  intro s
  rw [run_connect]
  exact h.addConnection role endpoint port _ s

theorem Lasting.attachWorking (a : SegmentAnnouncement) : Keeps P (attachWorking a) := by
  intro s
  rw [run_attachWorking]
  have hattach := SegmentAccess.quiet_attach a.key a.size.toNat
    ({ dir := s.worker.config.segmentDir } : SegmentAccess) s.env.files
  generalize SegmentAccess.attach a.key a.size.toNat _ s.env.files = r at hattach ⊢
  obtain ⟨x, access, files, events⟩ := r
  have henv : (({ s.env with files } : Environment).reportAll events).received
      = s.env.received := by
    rw [Environment.received_reportAll, hattach, List.append_nil]
    rfl
  cases x with
  | error e => exact h.aside rfl rfl rfl henv
  | ok handle =>
    have hreleased : (s.worker.segments.elim [] fun old => old.detachAll.2).filterMap
        Event.message? = [] := by
      cases s.worker.segments with
      | none => rfl
      | some old => exact old.quiet_detachAll
    have hattached : P s
        { worker := { s.worker with segments := some access }
          env := ({ s.env with files } : Environment).reportAll events } :=
      h.aside rfl rfl rfl henv
    exact h.trans hattached (h.reportAll hreleased _)

theorem Lasting.contactController : Keeps P contactController := by
  refine h.bind (h.enter _) fun _ => h.bind h.get fun s => ?_
  refine h.bind (h.resolve _) fun endpoint => h.bind (h.report rfl) fun _ => ?_
  refine h.bind (h.connect _ _ _) fun id => ?_
  exact h.bind (fun _ => h.aside rfl rfl rfl rfl) fun _ => h.enter _

theorem Lasting.assigned (m : Message) : Keeps P (assigned m) := by
  have hrest : Keeps P (do
      let a ← Coordinated.decoded (DatamanagerAssignment.decode m.payload.toList)
      Coordinated.report (.datamanagerAssigned a.port)
      return a.port) :=
    h.bind (h.decoded _) fun a => h.bind (h.report rfl) fun _ => h.pure _
  rw [Coordinated.assigned]
  dsimp only
  split
  · exact h.bind (h.violation _ _) fun _ => hrest
  · exact hrest

theorem Lasting.contactDatamanager (port : Port) : Keeps P (contactDatamanager port) := by
  refine h.bind (h.enter _) fun _ => h.bind h.get fun s => ?_
  split
  · exact h.throw _
  · refine h.bind (h.report rfl) fun _ => h.bind (h.connect _ _ _) fun id => ?_
    exact h.bind (fun _ => h.aside rfl rfl rfl rfl) fun _ => h.pure _

theorem Lasting.assignedSegment (reply : Message) : Keeps P (assignedSegment reply) := by
  have hrest : Keeps P (do
      let a ← Coordinated.decoded (SegmentAnnouncement.decode reply.payload.toList)
      Coordinated.attachWorking a
      Coordinated.report (.workingSegmentAttached a.key a.size)
      Coordinated.enter .attached) :=
    h.bind (h.decoded _) fun a => h.bind (h.attachWorking a) fun _ =>
      h.bind (h.report rfl) fun _ => h.enter _
  rw [Coordinated.assignedSegment]
  dsimp only
  split
  · exact h.bind (h.violation _ _) fun _ => hrest
  · exact hrest

end Lasting

end Coordinated

end PipelineWorker
