/-
How the handshake of a new worker fails.

Every failure ends the worker, and nearly every one counts as fatal.  Three do not (`Mild`): the text
of the controller's host is malformed, the controller assigns a port that is none, or the datamanager
replies with something that names no segment.

* `contactController_error`, `assigned_error`, `contactDatamanager_error`, `assignedSegment_error`,
  `announcePid_error` — what the steps fail with;
* `isFatal_or_mild` — all of them, one after the other;
* `handshake_error_mild_iff` — **a handshake that fails ends the worker, and the failures that do not
  count as fatal are those three**.
-/
import PipelineWorker.Proofs.Destination
import PipelineWorker.Proofs.Fatality

namespace PipelineWorker

/-- Digits and dots that are no dotted quad. -/
structure MalformedHost (host : String) : Prop where
  numeric : IsNumeric host
  unread : Endpoint.maxQuadBytes < host.utf8ByteSize ∨ ∀ addr, ¬ IsQuad host addr

/-- A host is refused at once only where it is malformed. -/
theorem Endpoint.resolve_eq_error {names : NameTable} {host : String} {e : NetError} :
    (resolve names host).1 = .error e ↔ MalformedHost host ∧ e = .invalidAddress host := by
  constructor
  · intro h
    by_cases hnumeric : IsNumeric host
    · rw [resolve_of_isNumeric hnumeric] at h
      dsimp only at h
      rw [resolveNumeric] at h
      split at h
      · cases h
      · rename_i hquad
        exact ⟨⟨hnumeric, ofQuad?_eq_none_iff.1 hquad⟩, (Except.error.inj h).symm⟩
    · rw [resolve_of_not_isNumeric hnumeric] at h
      cases h
  · rintro ⟨⟨hnumeric, hunread⟩, rfl⟩
    exact resolve_of_malformed hnumeric hunread

/-! ### The steps of the handshake -/

namespace Coordinated

variable {s t : Session} {e : CoordinatorError}

theorem resolve_error {host : String} (h : resolve host s = (.error e, t)) :
    (MalformedHost host ∧ e = .net (.invalidAddress host)) ∨ e = .net (.hostNotFound host) := by
  cases hresolve : (Endpoint.resolve s.env.names host).1 with
  | error f =>
    rw [resolve_of_error hresolve] at h
    obtain ⟨hbad, rfl⟩ := Endpoint.resolve_eq_error.1 hresolve
    exact .inl ⟨hbad, (Except.error.inj (congrArg Prod.fst h)).symm⟩
  | ok endpoint =>
    cases hknown : endpoint.isResolved with
    | false =>
      rw [resolve_of_unresolved hresolve hknown] at h
      exact .inr (Except.error.inj (congrArg Prod.fst h)).symm
    | true =>
      rw [resolve_eq_ok.2 ⟨hresolve, hknown, rfl⟩] at h
      cases h

theorem connect_error {role : Role} {endpoint : Endpoint} {port : Port}
    (h : connect role endpoint port s = (.error e, t)) :
    ∃ f, e = .net (.connect endpoint.display port f) := by
  rw [run_connect, Session.addConnection, Registry.add, Connection.dial] at h
  generalize s.env.net.dial endpoint.addr port s.worker.config.connectTimeout = r at h
  rcases r with ⟨f | i, net⟩
  · exact ⟨f, (Except.error.inj (congrArg Prod.fst h)).symm⟩
  · cases h

/-- The controller is not reached: its host is malformed, or the failure is fatal. -/
theorem contactController_error (h : contactController s = (.error e, t)) :
    (MalformedHost s.worker.config.controllerHost ∧
      e = .net (.invalidAddress s.worker.config.controllerHost)) ∨ e.isFatal = true := by
  rw [run_contactController] at h
  rcases bind_eq_error.1 h with h | ⟨endpoint, u, -, h⟩
  · rcases resolve_error h with hbad | rfl
    · exact .inl hbad
    · exact .inr rfl
  · rcases bind_eq_error.1 h with h | ⟨_, v, -, h⟩
    · cases h
    · rcases bind_eq_error.1 h with h | ⟨id, w, -, h⟩
      · obtain ⟨f, rfl⟩ := connect_error h
        exact .inr rfl
      · cases h

theorem decoded_error {α : Type} {x : Except CodecError α} (h : decoded x s = (.error e, t)) :
    ∃ f, x = .error f ∧ e = .codec f := by
  cases x with
  | ok a => cases h
  | error f => exact ⟨f, rfl, (Except.error.inj (congrArg Prod.fst h)).symm⟩

/-- The message is no assignment, which is fatal, or it assigns a port that is none. -/
theorem assigned_error {m : Message} (h : assigned m s = (.error e, t)) :
    e.isFatal = true ∨ m.kind = .appContactDm ∧
      ∃ f, DatamanagerAssignment.decode m.payload.toList = .error f ∧ e = .codec f := by
  by_cases hk : m.kind = .appContactDm
  · rw [assigned, if_neg fun hne => hne hk] at h
    rcases bind_eq_error.1 h with h | ⟨a, u, -, h⟩
    · exact .inr ⟨hk, decoded_error h⟩
    · cases h
  · rw [assigned, if_pos hk] at h
    rcases bind_eq_error.1 h with h | ⟨a, u, hu, -⟩
    · cases h
      exact .inl rfl
    · cases hu

theorem contactDatamanager_error {port : Port} (h : contactDatamanager port s = (.error e, t)) :
    e.isFatal = true := by
  rw [run_contactDatamanager] at h
  cases he : s.worker.controllerEndpoint with
  | none =>
    rw [he] at h
    cases h
    rfl
  | some endpoint =>
    rw [he] at h
    rcases bind_eq_error.1 h with h | ⟨_, u, -, h⟩
    · cases h
    · rcases bind_eq_error.1 h with h | ⟨id, v, -, h⟩
      · obtain ⟨f, rfl⟩ := connect_error h
        rfl
      · cases h

theorem attachWorking_error {a : SegmentAnnouncement} (h : attachWorking a s = (.error e, t)) :
    e.isFatal = true := by
  rw [run_attachWorking, afterAttach] at h
  split at h
  · rename_i f hattach
    obtain ⟨reason, rfl⟩ := SegmentAccess.attach_error hattach
    cases h
    rfl
  · cases h

/-- The reply is empty, which is fatal, or names no segment, or the segment cannot be attached, which
is fatal. -/
theorem assignedSegment_error {reply : Message} (h : assignedSegment reply s = (.error e, t)) :
    e.isFatal = true ∨ reply.payload.isEmpty = false ∧
      ∃ f, SegmentAnnouncement.decode reply.payload.toList = .error f ∧ e = .codec f := by
  cases hempty : reply.payload.isEmpty with
  | true =>
    rw [assignedSegment, if_pos hempty] at h
    rcases bind_eq_error.1 h with h | ⟨a, u, hu, -⟩
    · cases h
      exact .inl rfl
    · cases hu
  | false =>
    rw [assignedSegment, if_neg (by rw [hempty]; exact Bool.false_ne_true)] at h
    rcases bind_eq_error.1 h with h | ⟨a, u, -, h⟩
    · exact .inr ⟨rfl, decoded_error h⟩
    · rcases bind_eq_error.1 h with h | ⟨_, v, -, h⟩
      · exact .inl (attachWorking_error h)
      · cases h

theorem announcePid_error (h : announcePid s = (.error e, t)) :
    (s.sendToDatamanager (ProcessIdAnnouncement.toMessage ⟨s.worker.pid⟩)).1 = .error e := by
  rcases bind_eq_error.1 h with h | ⟨_, u, hu, h⟩
  · cases h
  · cases hu
    rcases bind_eq_error.1 h with h | ⟨_, v, -, h⟩
    · exact congrArg Prod.fst h
    · cases h

end Coordinated

namespace Session

variable {config : ModuleConfig} {pid : UInt32} {env : Environment} {s t : Session}
  {e : CoordinatorError}

/-! ### Failures that do not count as fatal -/

/-- A failure of the handshake that does not count as fatal. -/
inductive Mild (s : Session) : CoordinatorError → Prop
  /-- The text of the controller's host is malformed. -/
  | host (malformed : MalformedHost s.worker.config.controllerHost) :
      Mild s (.net (.invalidAddress s.worker.config.controllerHost))
  /-- The controller assigns a port that is none. -/
  | port {m : Message} {t : Session} {f : CodecError} (waited : s.handshakeWait? = some (.ok m, t))
      (kind : m.kind = .appContactDm)
      (malformed : DatamanagerAssignment.decode m.payload.toList = .error f) : Mild s (.codec f)
  /-- The reply of the datamanager is not empty, and names no segment. -/
  | segment {reply : Message} {t : Session} {f : CodecError}
      (exchanged : s.handshakeExchange? = some (.ok reply, t))
      (content : reply.payload.isEmpty = false)
      (malformed : SegmentAnnouncement.decode reply.payload.toList = .error f) : Mild s (.codec f)

theorem Mild.not_isFatal (h : Mild s e) : e.isFatal = false := by
  cases h <;> rfl

/-- They do occur. -/
theorem Mild.handshake (hs : s.worker.stage = .unstarted) (h : Mild s e) :
    s.handshake.1 = .error e := by
  suffices hsteps : ∃ t, Coordinated.handshakeSteps s = (.error e, t) by
    obtain ⟨t, ht⟩ := hsteps
    rw [handshake_of_error ht hs]
  cases h with
  | host malformed =>
    have hresolve : (Endpoint.resolve s.env.names s.worker.config.controllerHost).1 = _ :=
      Endpoint.resolve_eq_error.2 ⟨malformed, rfl⟩
    exact ⟨_, Coordinated.run_bind_of_error ((Coordinated.run_contactController s).trans
      (Coordinated.run_bind_of_error (Coordinated.resolve_of_error hresolve)))⟩
  | @port m t f waited kind malformed =>
    rw [handshakeWait?, if_pos hs] at waited
    split at waited
    · rename_i a hcontact
      have hassigned : Coordinated.assigned m t = (.error (.codec f), t) := by
        rw [Coordinated.assigned, if_neg fun hne => hne kind, malformed]
        rfl
      exact ⟨t, (Coordinated.run_bind_of_ok hcontact).trans (Coordinated.run_bind_of_error
        ((Coordinated.run_bind_of_ok (Option.some.inj waited)).trans hassigned))⟩
    · cases waited
  | @segment reply t f exchanged content malformed =>
    rw [handshakeExchange?, if_pos hs] at exchanged
    split at exchanged
    · rename_i id a hintroduction
      have hassigned : Coordinated.assignedSegment reply t = (.error (.codec f), t) := by
        rw [Coordinated.assignedSegment, if_neg (by rw [content]; exact Bool.false_ne_true),
          malformed]
        rfl
      rw [handshakeSteps_eq]
      exact ⟨t, (Coordinated.run_bind_of_ok hintroduction).trans ((Coordinated.run_bind_of_ok
        (Option.some.inj exchanged)).trans (Coordinated.run_bind_of_error hassigned))⟩
    · cases exchanged

/-! ### There are no others -/

theorem unstarted_fresh : (fresh config pid env).worker.stage = .unstarted := rfl

/-- A handshake that fails does so in one of its steps. -/
theorem handshakeSteps_of_error (hs : s.worker.stage = .unstarted)
    (h : s.handshake.1 = .error e) : ∃ t, Coordinated.handshakeSteps s = (.error e, t) := by
  rw [handshake, if_neg (fun hne => hne hs)] at h
  generalize Coordinated.handshakeSteps s = r at h ⊢
  rcases r with ⟨f | _, t⟩
  · obtain rfl : f = e := Except.error.inj h
    exact ⟨t, rfl⟩
  · cases h

/-- Up to its exchange a new worker fails fatally, unless the host or the port is bad. -/
theorem isFatal_or_mild_of_introduction
    (h : introduction (fresh config pid env) = (.error e, t)) :
    e.isFatal = true ∨ Mild (fresh config pid env) e := by
  rcases Coordinated.bind_eq_error.1 h with h | ⟨_, t₁, hcontact, h⟩
  · rcases Coordinated.contactController_error h with ⟨hbad, rfl⟩ | hfatal
    · exact .inr (.host hbad)
    · exact .inl hfatal
  obtain ⟨hsound₁, h₁⟩ := standing_of_contactController_fresh hcontact
  have hwait? : (fresh config pid env).handshakeWait? = some t₁.wait := by
    rw [handshakeWait?, if_pos unstarted_fresh, hcontact]
  rcases Coordinated.bind_eq_error.1 h with h | ⟨m, t₂, hwait, h⟩
  · have hstaffed : t₁.standing.Staffed := by
      rw [h₁]
      refine ⟨fun id hid => ?_, fun id hid => ?_, fun hstage => ?_⟩
      · rw [← Option.some.inj hid]
        rfl
      · cases hid
      · cases hstage
    exact .inl (isFatal_of_wait hsound₁ hstaffed (congrArg Prod.fst h))
  rcases Coordinated.bind_eq_error.1 h with h | ⟨port, t₃, -, h⟩
  · rcases Coordinated.assigned_error h with hfatal | ⟨kind, f, malformed, rfl⟩
    · exact .inl hfatal
    · exact .inr (.port (hwait?.trans (congrArg some hwait)) kind malformed)
  · exact .inl (Coordinated.contactDatamanager_error h)

/-- The exchange itself fails fatally, since it is with the datamanager. -/
theorem isFatal_of_requestSegment {u : Session} {id : ConnectionId}
    (hintroduction : introduction (fresh config pid env) = (.ok id, t))
    (h : Coordinated.requestSegment id t = (.error e, u)) : e.isFatal = true := by
  obtain ⟨hsound, rfl, hstanding⟩ := standing_of_introduction hintroduction
  rcases Coordinated.bind_eq_error.1 h with h | ⟨_, v, hv, h⟩
  · cases h
  · cases hv
    have hrole : t.askingForKey.standing.role? ⟨1⟩ = some .datamanager := by
      show Standing.role? _ { t.standing with stage := .awaitingKey } = _
      rw [hstanding]
      rfl
    have hafter := exchange_after (s := t.askingForKey) ⟨1⟩ (.empty .getShmKey) [.getShmKey] hsound
    rw [show t.askingForKey.exchange ⟨1⟩ _ _ = (.error e, u) from h] at hafter
    exact hafter.isFatal hrole (by decide)

/-- Behind the exchange a new worker fails fatally, unless the reply names no segment. -/
theorem isFatal_or_mild_of_conclusion {u v : Session} {id : ConnectionId} {reply : Message}
    (hintroduction : introduction (fresh config pid env) = (.ok id, t))
    (hrequest : Coordinated.requestSegment id t = (.ok reply, u))
    (h : conclusion reply u = (.error e, v)) :
    e.isFatal = true ∨ Mild (fresh config pid env) e := by
  have hexchange? : (fresh config pid env).handshakeExchange? = some (.ok reply, u) := by
    rw [handshakeExchange?, if_pos unstarted_fresh, hintroduction]
    exact congrArg some hrequest
  rcases Coordinated.bind_eq_error.1 h with h | ⟨_, w, hassigned, h⟩
  · rcases Coordinated.assignedSegment_error h with hfatal | ⟨content, f, malformed, rfl⟩
    · exact .inl hfatal
    · exact .inr (.segment hexchange? content malformed)
  rcases Coordinated.bind_eq_error.1 h with h | ⟨_, x, -, h⟩
  · obtain ⟨hsound, rfl, hstanding⟩ := standing_of_introduction hintroduction
    have hw : w.standing = { t.standing with stage := .attached } := by
      rw [standing_of_assignedSegment hassigned, standing_of_requestSegment hsound hrequest]
    have hdatamanager : w.worker.datamanager = some ⟨1⟩ := by
      show w.standing.datamanager = _
      rw [hw, hstanding]
    have hrole : w.standing.role? ⟨1⟩ = some .datamanager := by
      rw [hw, hstanding]
      rfl
    have hafter := sendToDatamanager_after (ProcessIdAnnouncement.toMessage ⟨w.worker.pid⟩)
      hdatamanager hrole
    rw [Coordinated.announcePid_error h] at hafter
    exact .inl (hafter.isFatal hrole (by decide))
  · cases h

theorem isFatal_or_mild (h : (fresh config pid env).handshake.1 = .error e) :
    e.isFatal = true ∨ Mild (fresh config pid env) e := by
  obtain ⟨t, hsteps⟩ := handshakeSteps_of_error unstarted_fresh h
  rw [handshakeSteps_eq] at hsteps
  rcases Coordinated.bind_eq_error.1 hsteps with h | ⟨id, t₁, hintroduction, h⟩
  · exact isFatal_or_mild_of_introduction h
  rcases Coordinated.bind_eq_error.1 h with h | ⟨reply, t₂, hrequest, h⟩
  · exact .inl (isFatal_of_requestSegment hintroduction h)
  · exact isFatal_or_mild_of_conclusion hintroduction hrequest h

/-- **A handshake that fails ends the worker, and it fails in three ways only that do not count as
fatal.** -/
theorem handshake_error_mild_iff (config : ModuleConfig) (pid : UInt32) (env : Environment)
    (e : CoordinatorError) :
    ((fresh config pid env).handshake.1 = .error e →
      (fresh config pid env).handshake.2.worker.stage = .terminated) ∧
    ((fresh config pid env).handshake.1 = .error e ∧ e.isFatal = false ↔
      Mild (fresh config pid env) e) := by
  refine ⟨fun h => ?_, fun ⟨h, hmild⟩ => ?_, fun h => ⟨h.handshake unstarted_fresh, h.not_isFatal⟩⟩
  · obtain ⟨t, hsteps⟩ := handshakeSteps_of_error unstarted_fresh h
    rw [handshake_of_error hsteps unstarted_fresh]
  · refine (isFatal_or_mild h).resolve_left fun hfatal => ?_
    rw [hfatal] at hmild
    cases hmild

end Session

/-- A controller that names port zero. -/
def Listener.misassigning : Listener :=
  { Listener.assigning with script := [(0, .data [0, 0, 0, 12, 0, 0, 0, 4, 0, 0, 0, 0])] }

/-- Nobody else is there. -/
def Environment.misassigned : Environment where
  net := { listeners := [.misassigning] }

namespace Session

/-- The controller assigns port zero, and the worker ends. -/
theorem handshake_error_mild_iff_misassigned :
    let s := fresh (.ofController "127.0.0.1" 4000) 7 .misassigned
    let e := CoordinatorError.codec (.outOfRange .datamanagerPort 0)
    s.handshake.1 = .error e ∧ s.handshake.2.worker.stage = .terminated ∧ Mild s e := by
  intro s e
  have herror : s.handshake.1 = .error e := by decide +kernel
  obtain ⟨hends, hmild⟩ := handshake_error_mild_iff (.ofController "127.0.0.1" 4000) 7
    .misassigned e
  exact ⟨herror, hends herror, hmild.1 ⟨herror, rfl⟩⟩

/-- There the host is well-formed, the worker has ended, and its error does not count as fatal. -/
theorem ended_by_mild_error :
    let s := fresh (.ofController "127.0.0.1" 4000) 7 .misassigned
    ∃ e, s.handshake.1 = .error e ∧ (∀ text, e ≠ .net (.invalidAddress text)) ∧
      s.handshake.2.worker.stage = .terminated ∧ e.isFatal = false := by
  intro s
  have herror : s.handshake.1 = .error (.codec (.outOfRange .datamanagerPort 0)) := by
    decide +kernel
  exact ⟨_, herror, (fun text h => nomatch h), by decide +kernel, rfl⟩

end Session

end PipelineWorker
