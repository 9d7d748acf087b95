/-
Whom the handshake dials.

The text of the controller's host denotes an address or none: four decimal fields between dots are
read as they stand, any other text that is not of digits and dots is looked up.  A connect shows in
that it matters who listens at its destination.

* `Denotes` — what a text denotes; it is one address at most;
* `Dials` — it makes a difference to the handshake who listens at that place;
* `ofQuad?_eq_some_iff`, `firstV4_eq_some_iff` — how texts and answers of lookups are read;
* `denotes_of_resolve`, `resolve_of_denotes` — a host is found where its text denotes an address;
* `heeds_handshake` — the handshake looks at the places of the controller and of the datamanager;
* `dials_of_refused` — a dial is not overlooked;
* `dials_only_denoted` — **the handshake dials the host it was told to, and nobody else**.
-/
import PipelineWorker.Proofs.Handshake
import PipelineWorker.Proofs.Heeding

namespace PipelineWorker

/-! ### Four fields between dots -/

/-- Digits and dots, and nothing else. -/
def IsNumeric (host : String) : Prop := ∀ c ∈ host.toList, isDigit c = true ∨ c = '.'

theorem isNumeric_iff {host : String} :
    IsNumeric host ↔ (host.toList.all fun c => isDigit c || c = '.') = true := by
  simp [IsNumeric]

/-- Four decimal fields between dots, of which each has the value of its octet. -/
def IsQuad (host : String) (addr : Ipv4) : Prop :=
  ∃ a b c d, host.toList = a ++ '.' :: (b ++ '.' :: (c ++ '.' :: d)) ∧
    decimal? a = some addr.a.toNat ∧ decimal? b = some addr.b.toNat ∧
    decimal? c = some addr.c.toNat ∧ decimal? d = some addr.d.toNat

theorem not_mem_of_decimal? {field : List Char} {n : Nat} (h : decimal? field = some n) :
    '.' ∉ field := by
  obtain ⟨-, hdigits, -⟩ := decimal?_eq_some_iff.1 h
  intro hmem
  exact absurd (hdigits '.' hmem) (by decide)

namespace Ipv4

theorem octet?_eq_some_iff {field : List Char} {x : UInt8} :
    octet? field = some x ↔ decimal? field = some x.toNat := by
  have hx := x.toNat_lt
  rw [octet?]
  cases decimal? field with
  | none => simp
  | some n =>
    by_cases hn : n ≤ 255
    · simp only [if_pos hn, Option.some.injEq, ← UInt8.toNat_inj, UInt8.toNat_ofNat']
      omega
    · simp only [if_neg hn, reduceCtorEq, Option.some.injEq, false_iff]
      omega

theorem ofFields?_eq_some_iff {octet : List Char → Option UInt8} {fields : List (List Char)}
    {addr : Ipv4} :
    ofFields? octet fields = some addr ↔ ∃ a b c d, fields = [a, b, c, d] ∧
      octet a = some addr.a ∧ octet b = some addr.b ∧ octet c = some addr.c ∧
      octet d = some addr.d := by
  unfold ofFields?
  split
  · rename_i a b c d
    constructor
    · intro h
      obtain ⟨xa, ha, h⟩ := Option.bind_eq_some_iff.1 h
      obtain ⟨xb, hb, h⟩ := Option.bind_eq_some_iff.1 h
      obtain ⟨xc, hc, h⟩ := Option.bind_eq_some_iff.1 h
      obtain ⟨xd, hd, h⟩ := Option.bind_eq_some_iff.1 h
      obtain rfl := Option.some.inj h
      exact ⟨a, b, c, d, rfl, ha, hb, hc, hd⟩
    · rintro ⟨a', b', c', d', hfields, ha, hb, hc, hd⟩
      cases hfields
      rw [ha, hb, hc, hd]
      rfl
  · rename_i hne
    refine ⟨(fun h => nomatch h), ?_⟩
    rintro ⟨a, b, c, d, hfields, -⟩
    exact absurd hfields (hne a b c d)

/-- **A dotted quad is four decimal fields between dots.** -/
theorem ofQuad?_eq_some_iff {text : String} {addr : Ipv4} :
    ofQuad? text = some addr ↔ IsQuad text addr := by
  simp only [ofQuad?, ofFields?_eq_some_iff, octet?_eq_some_iff]
  constructor
  · rintro ⟨a, b, c, d, hfields, h⟩
    refine ⟨a, b, c, d, ?_, h⟩
    rw [← Separated.join_split '.' text.toList, hfields]
    rfl
  · rintro ⟨a, b, c, d, htext, ha, hb, hc, hd⟩
    refine ⟨a, b, c, d, ?_, ha, hb, hc, hd⟩
    rw [htext, Separated.split_append_cons, Separated.split_append_cons,
      Separated.split_append_cons, Separated.split_of_not_mem (not_mem_of_decimal? ha),
      Separated.split_of_not_mem (not_mem_of_decimal? hb),
      Separated.split_of_not_mem (not_mem_of_decimal? hc),
      Separated.split_of_not_mem (not_mem_of_decimal? hd)]
    rfl

end Ipv4

theorem IsQuad.isNumeric {host : String} {addr : Ipv4} (h : IsQuad host addr) :
    IsNumeric host := by
  obtain ⟨a, b, c, d, htext, ha, hb, hc, hd⟩ := h
  have hdigits {field : List Char} {n : Nat} (hf : decimal? field = some n) {x : Char}
      (hx : x ∈ field) : isDigit x = true ∨ x = '.' :=
    .inl ((decimal?_eq_some_iff.1 hf).2.1 x hx)
  intro x hx
  rw [htext] at hx
  simp only [List.mem_append, List.mem_cons] at hx
  rcases hx with hx | hx | hx | hx | hx | hx | hx
  · exact hdigits ha hx
  · exact .inr hx
  · exact hdigits hb hx
  · exact .inr hx
  · exact hdigits hc hx
  · exact .inr hx
  · exact hdigits hd hx

/-! ### Answers of lookups -/

namespace NameTable

theorem firstV4_eq_some_iff {found : List FoundAddress} {addr : Ipv4} :
    firstV4 found = some addr ↔ ∃ before after, found = before ++ .v4 addr :: after ∧
      ∀ x ∈ before, x = .v6 := by
  induction found with
  | nil =>
    refine ⟨(fun h => nomatch h), ?_⟩
    rintro ⟨before, after, h, -⟩
    exact absurd h.symm (List.append_ne_nil_of_right_ne_nil _ (List.cons_ne_nil _ _))
  | cons x found ih =>
    cases x with
    | v4 addr' =>
      constructor
      · intro h
        obtain rfl := Option.some.inj h
        exact ⟨[], found, rfl, fun x hx => absurd hx List.not_mem_nil⟩
      · rintro ⟨before, after, h, hfirst⟩
        cases before with
        | nil =>
          cases h
          rfl
        | cons y before =>
          obtain rfl := (List.cons.inj h).1
          exact absurd (hfirst _ List.mem_cons_self) (by simp)
    | v6 =>
      refine ih.trans ⟨?_, ?_⟩
      · rintro ⟨before, after, rfl, hfirst⟩
        exact ⟨.v6 :: before, after, rfl, fun x hx =>
          (List.mem_cons.1 hx).elim id (hfirst x)⟩
      · rintro ⟨before, after, h, hfirst⟩
        cases before with
        | nil => cases h
        | cons y before =>
          exact ⟨before, after, (List.cons.inj h).2, fun x hx =>
            hfirst x (List.mem_cons_of_mem _ hx)⟩

theorem firstV4_eq_none {found : List FoundAddress} (h : ∀ addr, .v4 addr ∉ found) :
    firstV4 found = none := by
  cases hf : firstV4 found with
  | none => rfl
  | some addr =>
    obtain ⟨before, after, rfl, -⟩ := firstV4_eq_some_iff.1 hf
    exact absurd (List.mem_append_right _ List.mem_cons_self) (h addr)

end NameTable

/-- The address that the text of a host denotes: the values of its fields if it is of digits and
dots, and otherwise the first IPv4 address that a lookup answers with. -/
inductive Denotes (names : NameTable) (host : String) (addr : Ipv4) : Prop
  | quad (fields : IsQuad host addr)
  | named (name : ¬ IsNumeric host) (before after : List FoundAddress)
      (answer : names.addresses host = before ++ .v4 addr :: after)
      (first : ∀ x ∈ before, x = .v6)

/-- A text denotes one address at most. -/
theorem Denotes.unique {names : NameTable} {host : String} {addr addr' : Ipv4}
    (h : Denotes names host addr) (h' : Denotes names host addr') : addr = addr' := by
  cases h with
  | quad fields =>
    cases h' with
    | quad fields' =>
      exact Option.some.inj ((Ipv4.ofQuad?_eq_some_iff.2 fields).symm.trans
        (Ipv4.ofQuad?_eq_some_iff.2 fields'))
    | named name => exact absurd fields.isNumeric name
  | named name before after answer first =>
    cases h' with
    | quad fields => exact absurd fields.isNumeric name
    | named name' before' after' answer' first' =>
      have hfirst := NameTable.firstV4_eq_some_iff.2 ⟨before, after, answer, first⟩
      have hfirst' := NameTable.firstV4_eq_some_iff.2 ⟨before', after', answer', first'⟩
      exact Option.some.inj (hfirst.symm.trans hfirst')

/-- Texts that cannot be mistaken for what a failed lookup yields, and that are not too long for a
dotted quad if they are of digits and dots. -/
structure Dialable (host : String) : Prop where
  name : host ≠ Endpoint.unresolvableName
  short : IsNumeric host → host.utf8ByteSize ≤ Endpoint.maxQuadBytes

namespace Endpoint

variable {names : NameTable} {host : String}

theorem ofQuad?_of_isQuad {addr : Ipv4} (h : IsQuad host addr)
    (hshort : host.utf8ByteSize ≤ maxQuadBytes) : ofQuad? host = some ⟨addr, host⟩ := by
  rw [ofQuad?, if_pos hshort, Ipv4.ofQuad?_eq_some_iff.2 h]
  rfl

theorem isQuad_of_ofQuad? {endpoint : Endpoint} (h : ofQuad? host = some endpoint) :
    IsQuad host endpoint.addr := by
  rw [ofQuad?] at h
  split at h
  · obtain ⟨addr, haddr, rfl⟩ := Option.map_eq_some_iff.1 h
    exact Ipv4.ofQuad?_eq_some_iff.1 haddr
  · cases h

theorem ofQuad?_eq_none_iff :
    ofQuad? host = none ↔ maxQuadBytes < host.utf8ByteSize ∨ ∀ addr, ¬ IsQuad host addr := by
  constructor
  · intro hnone
    by_contra hread
    obtain ⟨hshort, haddr⟩ := not_or.1 hread
    obtain ⟨addr, haddr⟩ := not_forall_not.1 haddr
    rw [ofQuad?_of_isQuad haddr (Nat.not_lt.1 hshort)] at hnone
    cases hnone
  · rintro (hlong | hnone)
    · rw [ofQuad?, if_neg (Nat.not_le.2 hlong)]
    · exact Option.eq_none_iff_forall_ne_some.2 fun endpoint hquad =>
        hnone endpoint.addr (isQuad_of_ofQuad? hquad)

theorem resolve_of_isNumeric (h : IsNumeric host) :
    resolve names host = (resolveNumeric host, []) := by
  rw [resolve, if_pos (isNumeric_iff.1 h)]

theorem resolve_of_not_isNumeric (h : ¬ IsNumeric host) :
    resolve names host = (.ok (resolveSymbolic names host).1, [(resolveSymbolic names host).2]) := by
  rw [resolve, if_neg (mt isNumeric_iff.2 h)]

/-- What is found is what the text denotes. -/
theorem denotes_of_resolve {endpoint : Endpoint} (h : (resolve names host).1 = .ok endpoint)
    (hknown : endpoint.isResolved = true) : Denotes names host endpoint.addr := by
  by_cases hnumeric : IsNumeric host
  · rw [resolve_of_isNumeric hnumeric] at h
    dsimp only at h
    rw [resolveNumeric] at h
    split at h
    · rename_i found hquad
      obtain rfl : found = endpoint := Except.ok.inj h
      exact .quad (isQuad_of_ofQuad? hquad)
    · cases h
  · rw [resolve_of_not_isNumeric hnumeric] at h
    obtain rfl := Except.ok.inj h
    rw [resolveSymbolic] at hknown ⊢
    split at hknown
    · rename_i addr hfirst
      obtain ⟨before, after, hanswer, hbefore⟩ := NameTable.firstV4_eq_some_iff.1 hfirst
      exact .named hnumeric before after hanswer hbefore
    · exact absurd (show unresolvable.isResolved = true from hknown) (by decide)

/-- What the text denotes is found. -/
theorem resolve_of_denotes {addr : Ipv4} (h : Denotes names host addr) (hd : Dialable host) :
    (resolve names host).1 = .ok ⟨addr, host⟩ ∧ (⟨addr, host⟩ : Endpoint).isResolved = true := by
  refine ⟨?_, bne_iff_ne.2 hd.name⟩
  cases h with
  | quad fields =>
    have hnumeric := fields.isNumeric
    rw [resolve_of_isNumeric hnumeric, resolveNumeric,
      ofQuad?_of_isQuad fields (hd.short hnumeric)]
  | named name before after answer first =>
    have hfirst := NameTable.firstV4_eq_some_iff.2 ⟨before, after, answer, first⟩
    rw [resolve_of_not_isNumeric name, resolveSymbolic, hfirst]

/-- Digits and dots that are no dotted quad are refused. -/
theorem resolve_of_malformed (h : IsNumeric host)
    (hbad : maxQuadBytes < host.utf8ByteSize ∨ ∀ addr, ¬ IsQuad host addr) :
    (resolve names host).1 = .error (.invalidAddress host) := by
  rw [resolve_of_isNumeric h, resolveNumeric, ofQuad?_eq_none_iff.2 hbad]

/-- A name without an IPv4 address is not found. -/
theorem resolve_of_unknown (h : ¬ IsNumeric host) (hnone : ∀ addr, .v4 addr ∉ names.addresses host) :
    (resolve names host).1 = .ok unresolvable := by
  rw [resolve_of_not_isNumeric h, resolveSymbolic, NameTable.firstV4_eq_none hnone]

end Endpoint

/-! ### The steps of the handshake -/

namespace Session

theorem controllerEndpoint_takeAnnouncement (m : Message) (s : Session) :
    (s.takeAnnouncement m).2.worker.controllerEndpoint = s.worker.controllerEndpoint := by
  rw [worker_takeAnnouncement]

theorem Use.controllerEndpoint {id : ConnectionId} {s t : Session} (h : Use id s t) :
    t.worker.controllerEndpoint = s.worker.controllerEndpoint := by
  cases h with
  | report event => rfl
  | send m => rfl
  | receive deadline => cases deadline <;> rfl
  | takeAnnouncement m => exact controllerEndpoint_takeAnnouncement m s
  | defer m => rfl
  | drop => rfl
  | terminate =>
    rw [worker_terminate]

theorem Steps.controllerEndpoint {s t : Session} (h : Steps s t) :
    t.worker.controllerEndpoint = s.worker.controllerEndpoint := by
  refine h.keeps (P := fun s t => t.worker.controllerEndpoint = s.worker.controllerEndpoint)
    (fun _ => rfl) (fun hst htu => htu.trans hst) fun step => ?_
  cases step with
  | use use => exact use.controllerEndpoint
  | poll deadline => rfl
  | takeAnnouncement m => exact controllerEndpoint_takeAnnouncement m _
  | pop => rfl

end Session

namespace Coordinated

open Session

variable {P : Ipv4 → Port → Prop} {s : Session}

theorem resolve_of_error {host : String} {e : NetError}
    (h : (Endpoint.resolve s.env.names host).1 = .error e) :
    resolve host s = (.error (.net e), s.reportAll (Endpoint.resolve s.env.names host).2) := by
  rw [resolve, run_bind, run_get]
  dsimp only
  rw [run_bind, run_modify, h]
  rfl

theorem resolve_of_unresolved {host : String} {endpoint : Endpoint}
    (h : (Endpoint.resolve s.env.names host).1 = .ok endpoint)
    (hunknown : endpoint.isResolved = false) :
    resolve host s =
      (.error (.net (.hostNotFound host)), s.reportAll (Endpoint.resolve s.env.names host).2) := by
  rw [resolve, run_bind, run_get]
  dsimp only
  rw [run_bind, run_modify, h]
  dsimp only
  rw [hunknown, if_neg Bool.false_ne_true, run_throw]

/-- Connects to the controller, once its host is found. -/
def dialController (port : Port) (endpoint : Endpoint) : Coordinated Unit := do
  report (.contactingController endpoint port)
  let id ← connect .controller endpoint port
  modify fun s => { s with
    worker := { s.worker with controller := some id, controllerEndpoint := some endpoint } }
  enter .awaitingAssignment

theorem run_contactController (s : Session) :
    contactController s =
      (resolve s.worker.config.controllerHost >>= dialController s.worker.config.controllerPort)
        { s with worker := { s.worker with stage := .contactingController } } := rfl

theorem heeds_dialController {port : Port} {endpoint : Endpoint} (h : P endpoint.addr port) :
    Heeds P (dialController port endpoint) s := by
  refine heeds_bind ((blind_report _).heeds P _) fun _ t _ => ?_
  refine heeds_bind (heeds_connect _ h _) fun id t _ => ?_
  exact (blind_bind (blind_modify fun _ _ => rfl) fun _ => blind_enter _).heeds P t

theorem heeds_contactController
    (h : ∀ endpoint, (Endpoint.resolve s.env.names s.worker.config.controllerHost).1 = .ok endpoint →
      endpoint.isResolved = true → P endpoint.addr s.worker.config.controllerPort) :
    Heeds P contactController s := by
  refine heeds_bind ((blind_enter _).heeds P s) fun _ t ht => ?_
  cases ht
  refine heeds_get (fun ls => rfl) ?_
  refine heeds_bind ((blind_resolve _).heeds P _) fun endpoint t ht => ?_
  obtain ⟨hresolved, hknown, -⟩ := resolve_eq_ok.1 ht
  exact heeds_dialController (h endpoint hresolved hknown)

theorem blind_assigned (m : Message) : Blind (assigned m) := by
  have hrest : Blind (do
      let a ← decoded (DatamanagerAssignment.decode m.payload.toList)
      report (.datamanagerAssigned a.port)
      return a.port : Coordinated Port) :=
    blind_bind (blind_decoded _) fun a => blind_bind (blind_report _) fun _ => blind_pure _
  rw [assigned]
  dsimp only
  split
  · exact blind_bind (blind_violation _ _) fun _ => hrest
  · exact hrest

theorem blind_awaitAssignment : Blind awaitAssignment :=
  blind_bind blind_wait blind_assigned

theorem heeds_contactDatamanager (port : Port)
    (h : ∀ endpoint, s.worker.controllerEndpoint = some endpoint → P endpoint.addr port) :
    Heeds P (contactDatamanager port) s := by
  refine heeds_bind ((blind_enter _).heeds P s) fun _ t ht => ?_
  cases ht
  refine heeds_get (fun ls => rfl) ?_
  split
  · exact (blind_throw _).heeds P _
  · rename_i endpoint he
    refine heeds_bind ((blind_report _).heeds P _) fun _ t ht => ?_
    cases ht
    refine heeds_bind (heeds_connect _ (h endpoint he) _) fun id t _ => ?_
    exact (blind_bind (blind_modify fun _ _ => rfl) fun _ => blind_pure _).heeds P t

theorem blind_assignedSegment (reply : Message) : Blind (assignedSegment reply) := by
  have hrest : Blind (do
      let a ← decoded (SegmentAnnouncement.decode reply.payload.toList)
      attachWorking a
      report (.workingSegmentAttached a.key a.size)
      enter .attached : Coordinated Unit) :=
    blind_bind (blind_decoded _) fun a => blind_bind (blind_attachWorking a) fun _ =>
      blind_bind (blind_report _) fun _ => blind_enter _
  rw [assignedSegment]
  dsimp only
  split
  · exact blind_bind (blind_violation _ _) fun _ => hrest
  · exact hrest

theorem blind_obtainSegment (datamanager : ConnectionId) : Blind (obtainSegment datamanager) := by
  rw [obtainSegment_eq]
  exact blind_bind (blind_bind (blind_enter _) fun _ => blind_exchange _ _ _) blind_assignedSegment

theorem blind_announcePid : Blind announcePid :=
  blind_get (fun _ _ => rfl) fun _ =>
    blind_bind (blind_sendToDatamanager _) fun _ => blind_enter _

/-- Where the controller was reached stays known. -/
theorem controllerEndpoint_of_awaitAssignment {s t : Session} {port : Port}
    (h : awaitAssignment s = (.ok port, t)) :
    t.worker.controllerEndpoint = s.worker.controllerEndpoint := by
  obtain ⟨m, u, hwait, hreferred⟩ := bind_eq_ok.1 h
  obtain ⟨-, -, rfl⟩ := assigned_eq_ok.1 hreferred
  have hsteps := s.steps_wait
  rw [show s.wait = (.ok m, u) from hwait] at hsteps
  exact hsteps.controllerEndpoint

end Coordinated

namespace Session

variable {s : Session}

/-- The controller is reached, and refers the worker to this port. -/
def Referred (s : Session) (port : Port) : Prop :=
  ∃ t, (do Coordinated.contactController; Coordinated.awaitAssignment : Coordinated Port) s =
    (.ok port, t)

/-- The controller is looked for here. -/
def Sought (s : Session) (addr : Ipv4) : Prop :=
  ∃ endpoint, (Endpoint.resolve s.env.names s.worker.config.controllerHost).1 = .ok endpoint ∧
    endpoint.isResolved = true ∧ endpoint.addr = addr

theorem heeds_handshake {P : Ipv4 → Port → Prop}
    (hc : ∀ addr, Sought s addr → P addr s.worker.config.controllerPort)
    (hd : ∀ addr port, Sought s addr → Referred s port → P addr port) : Heeds P handshake s := by
  have hsteps : Heeds P Coordinated.handshakeSteps s := by
    refine Coordinated.heeds_bind (Coordinated.heeds_contactController
      fun endpoint hresolved hknown => hc _ ⟨endpoint, hresolved, hknown, rfl⟩) fun _ t ht => ?_
    obtain ⟨endpoint, id, u, hresolved, hknown, -, rfl⟩ := Coordinated.contactController_eq_ok.1 ht
    refine Coordinated.heeds_bind (Coordinated.blind_awaitAssignment.heeds P _) fun port v hv => ?_
    have hreferred : Referred s port := ⟨v, Coordinated.bind_eq_ok.2 ⟨_, _, ht, hv⟩⟩
    have hendpoint := Coordinated.controllerEndpoint_of_awaitAssignment hv
    refine Coordinated.heeds_bind (Coordinated.heeds_contactDatamanager port fun e he => ?_)
      fun datamanager w _ => Blind.heeds ?_ P w
    · obtain rfl : endpoint = e := Option.some.inj (hendpoint.symm.trans he)
      exact hd _ port ⟨endpoint, hresolved, hknown, rfl⟩ hreferred
    · refine Coordinated.blind_bind (Coordinated.blind_obtainSegment datamanager) fun _ => ?_
      refine Coordinated.blind_bind Coordinated.blind_announcePid fun _ => ?_
      exact Coordinated.blind_get (fun _ _ => rfl) fun _ => Coordinated.blind_report _
  intro ls hsame
  have hrun := hsteps ls hsame
  have hstage : (s.relisten ls).worker.stage = s.worker.stage := rfl
  rw [handshake, handshake, hstage, hrun]
  split
  · rfl
  · rcases Coordinated.handshakeSteps s with ⟨e | _, t⟩ <;> rfl

/-- It makes a difference to the handshake who listens at that place. -/
def Dials (s : Session) (addr : Ipv4) (port : Port) : Prop :=
  ¬ Heeds (fun addr' port' => ¬ (addr' = addr ∧ port' = port)) handshake s

/-- The places where the worker looks for the controller and for the datamanager. -/
theorem sought_of_dials {addr : Ipv4} {port : Port} (h : Dials s addr port) :
    Sought s addr ∧ (port = s.worker.config.controllerPort ∨ Referred s port) := by
  by_contra hnone
  refine h (heeds_handshake (fun addr' hsought hplace => hnone ?_)
    fun addr' port' hsought hreferred hplace => hnone ?_)
  · obtain ⟨rfl, rfl⟩ := hplace
    exact ⟨hsought, .inl rfl⟩
  · obtain ⟨rfl, rfl⟩ := hplace
    exact ⟨hsought, .inr hreferred⟩

/-! ### Dials are not overlooked -/

section Refusing

variable {addr : Ipv4} {port : Port} {e : Errno} {ls : List Listener}

/-- The listeners, and in front of them one that refuses at that place. -/
def refusing (addr : Ipv4) (port : Port) (e : Errno) (ls : List Listener) : List Listener :=
  { addr, port, welcome := .refused e } :: ls

theorem listenerAt_refusing :
    listenerAt addr port (refusing addr port e ls) = some { addr, port, welcome := .refused e } :=
  List.find?_cons_of_pos (by simp)

theorem sameAt_refusing :
    SameAt (fun addr' port' => ¬ (addr' = addr ∧ port' = port)) (refusing addr port e ls) ls := by
  intro addr' port' hplace
  refine List.find?_cons_of_neg fun h => hplace ?_
  rw [Bool.and_eq_true, decide_eq_true_eq, decide_eq_true_eq] at h
  exact ⟨h.1.symm, h.2.symm⟩

theorem connect_of_refused (role : Role) {endpoint : Endpoint} {s : Session}
    (h : s.env.net.listeners = refusing endpoint.addr port e ls) :
    ∃ t, Coordinated.connect role endpoint port s =
      (.error (.net (.connect endpoint.display port (.number e))), t) := by
  have hdial (timeout : Option Nat) : s.env.net.dial endpoint.addr port timeout =
      (.error (.number e), s.env.net) := by
    have hfind : s.env.net.listeners.find? (fun l => l.addr = endpoint.addr && l.port = port) =
        some { addr := endpoint.addr, port, welcome := .refused e } := by
      rw [h]
      exact listenerAt_refusing
    rw [Network.dial, hfind]
  rw [Coordinated.run_connect, addConnection, Registry.add, Connection.dial, hdial]
  exact ⟨_, rfl⟩

theorem contactController_of_refused {endpoint : Endpoint} {s : Session}
    (hresolved : (Endpoint.resolve s.env.names s.worker.config.controllerHost).1 = .ok endpoint)
    (hknown : endpoint.isResolved = true)
    (h : s.env.net.listeners = refusing endpoint.addr s.worker.config.controllerPort e ls) :
    ∃ t, Coordinated.contactController s = (.error (.net
      (.connect endpoint.display s.worker.config.controllerPort (.number e))), t) := by
  obtain ⟨t, hconnect⟩ :=
    connect_of_refused .controller (s := Coordinated.beforeController endpoint s) h
  refine ⟨t, ?_⟩
  have hfound := (Coordinated.resolve_eq_ok
    (s := { s with worker := { s.worker with stage := .contactingController } })).2
    ⟨hresolved, hknown, rfl⟩
  rw [Coordinated.run_contactController, Coordinated.run_bind_of_ok hfound]
  exact (Coordinated.run_bind_of_ok rfl).trans (Coordinated.run_bind_of_error hconnect)

theorem contactDatamanager_of_refused {endpoint : Endpoint} {s : Session}
    (he : s.worker.controllerEndpoint = some endpoint)
    (h : s.env.net.listeners = refusing endpoint.addr port e ls) :
    ∃ t, Coordinated.contactDatamanager port s =
      (.error (.net (.connect endpoint.display port (.number e))), t) := by
  obtain ⟨t, hconnect⟩ :=
    connect_of_refused .datamanager (s := Coordinated.beforeDatamanager endpoint port s) h
  refine ⟨t, ?_⟩
  rw [Coordinated.run_contactDatamanager, he]
  exact (Coordinated.run_bind_of_ok rfl).trans (Coordinated.run_bind_of_error hconnect)

end Refusing

theorem handshake_of_error {s t : Session} {e : CoordinatorError}
    (h : Coordinated.handshakeSteps s = (.error e, t)) (hs : s.worker.stage = .unstarted) :
    s.handshake = (.error e, { t.report (.handshakeFailed t.worker.stage
      t.worker.config.moduleName e) with worker := { t.worker with stage := .terminated } }) := by
  rw [handshake, if_neg (fun hne => hne hs), h]
  rfl

/-- **A dial is not overlooked**: whoever refuses it is heard. -/
theorem dials_of_refused {addr : Ipv4} {port : Port} (text : String)
    (h : ∀ e, (s.relisten (refusing addr port e s.env.net.listeners)).handshake.1 =
      .error (.net (.connect text port (.number e)))) : Dials s addr port := by
  intro hheeds
  have hfirst := congrArg Prod.fst (hheeds _ (sameAt_refusing (e := .connRefused)))
  have hsecond := congrArg Prod.fst (hheeds _ (sameAt_refusing (e := .timedOut)))
  have hsame := (h .connRefused).symm.trans (hfirst.trans (hsecond.symm.trans (h .timedOut)))
  cases hsame

theorem dials_controller {addr : Ipv4} (hs : s.worker.stage = .unstarted) (h : Sought s addr) :
    Dials s addr s.worker.config.controllerPort := by
  obtain ⟨endpoint, hresolved, hknown, rfl⟩ := h
  refine dials_of_refused endpoint.display fun e => ?_
  obtain ⟨t, ht⟩ := contactController_of_refused (s := s.relisten
    (refusing endpoint.addr s.worker.config.controllerPort e s.env.net.listeners))
    hresolved hknown rfl
  rw [handshake_of_error (Coordinated.run_bind_of_error ht) hs]
  rfl

theorem dials_datamanager {addr : Ipv4} {port : Port} (hs : s.worker.stage = .unstarted)
    (h : Sought s addr) (hreferred : Referred s port) : Dials s addr port := by
  by_cases hport : port = s.worker.config.controllerPort
  · rw [hport]
    exact dials_controller hs h
  · obtain ⟨endpoint, hresolved, hknown, rfl⟩ := h
    obtain ⟨v, hv⟩ := hreferred
    obtain ⟨_, t, ht, hport'⟩ := Coordinated.bind_eq_ok.1 hv
    refine dials_of_refused endpoint.display fun e => ?_
    -- up to here nobody has looked at that place
    have hheeds : Heeds (fun addr' port' => ¬ (addr' = endpoint.addr ∧ port' = port))
        Coordinated.contactController s :=
      Coordinated.heeds_contactController fun _ _ _ hplace => hport hplace.2.symm
    have hcontact := hheeds _ (sameAt_refusing (e := e))
    rw [ht] at hcontact
    have hawait := Coordinated.blind_awaitAssignment.run hport'
      (refusing endpoint.addr port e s.env.net.listeners)
    have hendpoint : v.worker.controllerEndpoint = some endpoint := by
      rw [Coordinated.controllerEndpoint_of_awaitAssignment hport']
      obtain ⟨endpoint', id, u, hresolved', -, -, rfl⟩ := Coordinated.contactController_eq_ok.1 ht
      exact congrArg some (Except.ok.inj (hresolved'.symm.trans hresolved))
    obtain ⟨w, hw⟩ := contactDatamanager_of_refused (s := v.relisten
      (refusing endpoint.addr port e s.env.net.listeners)) hendpoint rfl
    have hsteps : Coordinated.handshakeSteps
        (s.relisten (refusing endpoint.addr port e s.env.net.listeners)) = (.error _, w) :=
      (Coordinated.run_bind_of_ok hcontact).trans ((Coordinated.run_bind_of_ok hawait).trans
        (Coordinated.run_bind_of_error hw))
    rw [handshake_of_error hsteps hs]

/-! ### Hosts that are not found -/

/-- The handshake attempts no connect: nobody who listens makes a difference, no number is used up
for a connection, and the network stays as it is. -/
structure Undialled (s : Session) : Prop where
  nobody : ∀ addr port, ¬ Dials s addr port
  connections : s.handshake.2.worker.connections = s.worker.connections
  net : s.handshake.2.env.net = s.env.net

/-- Where its controller is not found, the handshake fails and has dialled nobody. -/
theorem undialled_of_unfound {e : CoordinatorError} (hs : s.worker.stage = .unstarted)
    (hnone : ∀ addr, ¬ Sought s addr)
    (h : ∀ t : Session, t.env.names = s.env.names →
      Coordinated.resolve s.worker.config.controllerHost t = (.error e,
        t.reportAll (Endpoint.resolve s.env.names s.worker.config.controllerHost).2)) :
    s.handshake.1 = .error e ∧ Undialled s := by
  have hcontact := (Coordinated.run_contactController s).trans
    (Coordinated.run_bind_of_error (h _ rfl))
  have hhandshake := handshake_of_error (Coordinated.run_bind_of_error hcontact) hs
  refine ⟨?_, fun addr port hdials => hnone addr (sought_of_dials hdials).1, ?_, ?_⟩
  · rw [hhandshake]
  · rw [hhandshake]
    rfl
  · rw [hhandshake]
    rfl

/-- **The handshake dials the host that it was told to.**  All connects go to the one address that
the text of the controller's host denotes, to the controller and then to the datamanager.  Where the
text is malformed or nothing is found under the name, nobody is dialled at all. -/
theorem dials_only_denoted (s : Session) :
    (∀ addr port, Dials s addr port →
      Denotes s.env.names s.worker.config.controllerHost addr ∧
        (port = s.worker.config.controllerPort ∨ Referred s port)) ∧
    (∀ addr addr' port port', Dials s addr port → Dials s addr' port' → addr = addr') ∧
    (s.worker.stage = .unstarted →
      (∀ addr port, Denotes s.env.names s.worker.config.controllerHost addr →
        Dialable s.worker.config.controllerHost →
        port = s.worker.config.controllerPort ∨ Referred s port → Dials s addr port) ∧
      (IsNumeric s.worker.config.controllerHost →
        Endpoint.maxQuadBytes < s.worker.config.controllerHost.utf8ByteSize ∨
          (∀ addr, ¬ IsQuad s.worker.config.controllerHost addr) →
        s.handshake.1 = .error (.net (.invalidAddress s.worker.config.controllerHost)) ∧
          Undialled s) ∧
      (¬ IsNumeric s.worker.config.controllerHost →
        (∀ addr, .v4 addr ∉ s.env.names.addresses s.worker.config.controllerHost) →
        s.handshake.1 = .error (.net (.hostNotFound s.worker.config.controllerHost)) ∧
          Undialled s)) := by
  have hdenoted {addr : Ipv4} {port : Port} (h : Dials s addr port) :
      Denotes s.env.names s.worker.config.controllerHost addr := by
    obtain ⟨⟨endpoint, hresolved, hknown, rfl⟩, -⟩ := sought_of_dials h
    exact Endpoint.denotes_of_resolve hresolved hknown
  refine ⟨fun addr port hdials => ⟨hdenoted hdials, (sought_of_dials hdials).2⟩,
    fun addr addr' port port' hdials hdials' => (hdenoted hdials).unique (hdenoted hdials'),
    fun hs => ⟨fun addr port hdenotes hdialable hport => ?_, fun hnumeric hbad => ?_,
      fun hname hnone => ?_⟩⟩
  · obtain ⟨hresolved, hknown⟩ := Endpoint.resolve_of_denotes hdenotes hdialable
    have hsought : Sought s addr :=
      ⟨⟨addr, s.worker.config.controllerHost⟩, hresolved, hknown, rfl⟩
    rcases hport with rfl | hreferred
    · exact dials_controller hs hsought
    · exact dials_datamanager hs hsought hreferred
  · have hrefused : (Endpoint.resolve s.env.names s.worker.config.controllerHost).1 = _ :=
      Endpoint.resolve_of_malformed hnumeric hbad
    refine undialled_of_unfound hs (fun addr hsought => ?_) fun t ht => ?_
    · obtain ⟨endpoint, hresolved, -⟩ := hsought
      rw [hrefused] at hresolved
      cases hresolved
    · rw [← ht] at hrefused ⊢
      exact Coordinated.resolve_of_error hrefused
  · have hunknown := Endpoint.resolve_of_unknown hname hnone
    refine undialled_of_unfound hs (fun addr hsought => ?_) fun t ht => ?_
    · obtain ⟨endpoint, hresolved, hknown, -⟩ := hsought
      obtain rfl := Except.ok.inj (hunknown.symm.trans hresolved)
      exact absurd hknown (by decide)
    · rw [← ht] at hunknown ⊢
      exact Coordinated.resolve_of_unresolved hunknown rfl

end Session

/-- Somebody who listens on every address of this host. -/
def Environment.wildcard : Environment where
  net := { listeners := [{ addr := .unspecified, port := 4000 }] }

namespace Session

/-- Both are dialled on the host that was named, and nobody is dialled elsewhere.  Under a name that
is not known, and under three fields, nobody is dialled, not even on this host. -/
theorem dials_only_denoted_cooperative :
    let known := fresh (.ofController "127.0.0.1" 4000) 7 .cooperative
    let unknown := fresh (.ofController "no-such-host.invalid" 4000) 7 .wildcard
    let malformed := fresh (.ofController "127.0.1" 4000) 7 .wildcard
    Dials known .loopback 4000 ∧ Dials known .loopback 5000 ∧
      (∀ port, ¬ Dials known .unspecified port) ∧
      (unknown.handshake.1 = .error (.net (.hostNotFound "no-such-host.invalid")) ∧
        Undialled unknown) ∧
      malformed.handshake.1 = .error (.net (.invalidAddress "127.0.1")) ∧ Undialled malformed := by
  intro known unknown malformed
  have hquad : IsQuad "127.0.0.1" .loopback :=
    ⟨['1', '2', '7'], ['0'], ['0'], ['1'], by decide, by decide, by decide, by decide, by decide⟩
  have hdenotes : Denotes known.env.names "127.0.0.1" .loopback := .quad hquad
  have hdialable : Dialable "127.0.0.1" := ⟨by decide, fun _ => by decide⟩
  have hreferred : Referred known 5000 := ⟨_, Prod.ext (by decide +kernel) rfl⟩
  obtain ⟨honly, -, hunstarted⟩ := dials_only_denoted known
  obtain ⟨hdials, -⟩ := hunstarted rfl
  refine ⟨hdials .loopback 4000 hdenotes hdialable (.inl rfl),
    hdials .loopback 5000 hdenotes hdialable (.inr hreferred), fun port hport => ?_, ?_, ?_⟩
  · exact absurd ((honly .unspecified port hport).1.unique hdenotes) (by decide)
  · have hname : ¬ IsNumeric "no-such-host.invalid" := fun h =>
      absurd (h 'n' (by decide)) (by decide)
    have hnone : unknown.env.names.addresses "no-such-host.invalid" = [] := by decide +kernel
    obtain ⟨-, -, hunfound⟩ := dials_only_denoted unknown
    refine (hunfound rfl).2.2 hname fun addr => ?_
    rw [show unknown.worker.config.controllerHost = "no-such-host.invalid" from rfl, hnone]
    exact List.not_mem_nil
  · have hnumeric : IsNumeric "127.0.1" := by
      rw [isNumeric_iff]
      decide +kernel
    obtain ⟨-, -, hunfound⟩ := dials_only_denoted malformed
    refine (hunfound rfl).2.1 hnumeric (.inr fun addr hquad => ?_)
    have hread : Ipv4.ofQuad? "127.0.1" = none := by decide +kernel
    cases hread.symm.trans (Ipv4.ofQuad?_eq_some_iff.2 hquad)

end Session

end PipelineWorker
