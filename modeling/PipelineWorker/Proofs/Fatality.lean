/-
Which fatal errors end a worker.

A worker that was started keeps a controller and a datamanager for as long as it runs
(`Standing.Serves`), whatever it is asked to do and whatever becomes of its peers.  A fatal error is
to end it.  Three kinds of fatal errors do not (`Task.Survives`): an announced segment that cannot be
attached, a poll that fails, and bytes of a peer that cannot be read.

* `standing_of_handshake` — where a worker stands once it was started;
* `Serving.serves` — it goes on to have whom it depends on, for as long as it runs;
* `missing_of_waitUntil` — a wait without a deadline ends without a message only where nobody is left
  to wait for;
* `Serving.terminated_iff_of_fatal` — **a fatal error ends the worker, unless it is of the three
  kinds**.
-/
import PipelineWorker.Proofs.Handshake
import PipelineWorker.Proofs.Ledger
import PipelineWorker.Proofs.Staffing

namespace PipelineWorker

namespace Standing

/-! ### Whom a worker depends on -/

/-- The worker runs, or has ended.  Its controller and its datamanager are registered as what they
are, and for as long as it runs it has both. -/
structure Serves (p : Standing) : Prop where
  stage : p.stage = .running ∨ p.stage = .terminated
  controller : ∀ id, p.controller = some id → p.role? id = some .controller
  datamanager : ∀ id, p.datamanager = some id → p.role? id = some .datamanager
  staffed : p.stage = .running → p.controller.isSome ∧ p.datamanager.isSome

section Serves

variable {p q : Standing} {id : ConnectionId} {role : Role}

theorem Serves.stage_ended (h : p.Serves) : (p.without id).ended.stage = .terminated := by
  have hstage : ∀ stage, stage = .running ∨ stage = .terminated →
      (ended { p.without id with stage }).stage = .terminated := by
    rintro stage (rfl | rfl) <;> rfl
  exact hstage p.stage h.stage

/-- Only the loss of a peer leaves the worker as it was. -/
theorem Serves.stage_lose (h : p.Serves) (hrole : p.role? id = some role) :
    (p.lose id).stage = .terminated ↔ p.stage = .terminated ∨ role ≠ .peer := by
  rw [Standing.lose, hrole, Option.getD_some]
  -- whoever serves runs or has ended, so that its end is always declared
  cases role with
  | peer => exact ⟨.inl, fun hs => hs.resolve_right fun hne => hne rfl⟩
  | controller => exact ⟨fun _ => .inr (by decide), fun _ => h.stage_ended⟩
  | datamanager => exact ⟨fun _ => .inr (by decide), fun _ => h.stage_ended⟩

theorem Serves.toStaffed (h : p.Serves) : p.Staffed := ⟨h.controller, h.datamanager, h.staffed⟩

/-- Whatever declines runs on or has ended. -/
theorem Serves.declines (h : p.Serves) (hd : Declines p q) (hq : q.Staffed) : q.Serves := by
  refine ⟨?_, hq.controller, hq.datamanager, hq.complete⟩
  rcases hd.stage with hstage | hstage
  · rw [hstage]
    exact h.stage
  · exact .inr hstage

theorem Serves.joined (h : p.Serves) (role : Role) : (p.joined role).Serves :=
  have hjoined := h.toStaffed.joined role
  ⟨h.stage, hjoined.controller, hjoined.datamanager, hjoined.complete⟩

/-! ### Errors -/

/-- The use of a connection fails fatally and spares the worker only where the connection leads to a
peer and what arrives cannot be read. -/
theorem Serves.terminated_iff_of_fails {e : CoordinatorError} (h : p.Serves)
    (hf : p.Fails id e q) (hfatal : e.isFatal = true) :
    q.stage = .terminated ↔
      p.stage = .terminated ∨ ¬ (p.role? id = some .peer ∧ ∃ f, e = .net (.codec f)) := by
  cases hf with
  | unknown missing => cases hfatal
  | @lost role found =>
    have hne := CoordinatorError.isFatal_peerDisconnected_iff.1 hfatal
    rw [h.stage_lose found]
    refine or_congr Iff.rfl ⟨fun _ => ?_, fun _ => hne⟩
    rintro ⟨-, f, hf⟩
    cases hf
  | @garbled role found f =>
    rw [h.stage_lose found, found]
    refine or_congr Iff.rfl ⟨fun hne => ?_, fun hall hpeer => hall ⟨congrArg some hpeer, f, rfl⟩⟩
    rintro ⟨hpeer, -⟩
    exact hne (Option.some.inj hpeer)
  | unsent datamanager =>
    refine ⟨fun _ => .inr ?_, fun _ => h.stage_ended⟩
    rintro ⟨-, f, hf⟩
    cases hf

end Serves

end Standing

namespace Session

/-! ### A worker that was started -/

theorem standing_of_addConnection {role : Role} {endpoint : Endpoint} {port : Port}
    {timeout : Option Nat} {s t : Session} {id : ConnectionId}
    (h : s.addConnection role endpoint port timeout = (.ok id, t)) :
    id = ⟨s.standing.nextId⟩ ∧ t.standing = s.standing.joined role := by
  obtain ⟨hid, l, -, hadds⟩ := addConnection_ok h
  refine ⟨hid, ?_⟩
  rw [standing, hadds.worker, Registry.roster, List.map_append]
  rfl

theorem standing_of_wait {s t : Session} {m : Message}
    (hs : s.worker.connections.Sound s.env.net) (h : s.wait = (.ok m, t)) :
    t.standing = s.standing := by
  have hwaited := waitUntil_after none hs
  rw [wait_eq] at h
  generalize s.waitUntil none = r at h hwaited
  rcases r with ⟨e | _ | m', u⟩
  · cases h
  · cases h
  · obtain rfl : u = t := congrArg Prod.snd h
    exact hwaited.eq_of_ok

/-- **Whatever keeps a staffed worker from waiting is fatal.** -/
theorem isFatal_of_wait {s : Session} (hs : s.worker.connections.Sound s.env.net)
    (h : s.standing.Staffed) {e : CoordinatorError} (he : s.wait.1 = .error e) :
    e.isFatal = true := by
  have hwaited := waitUntil_after none hs
  rw [wait_eq] at he
  generalize s.waitUntil none = r at he hwaited
  rcases r with ⟨e' | _ | m, t⟩
  · obtain rfl : e' = e := Except.error.inj he
    exact hwaited.isFatal h
  · -- nobody is left to wait for
    obtain rfl := Except.error.inj he
    rfl
  · cases he

theorem standing_of_sendToDatamanager {s t : Session} {m : Message}
    (h : s.sendToDatamanager m = (.ok (), t)) : t.standing = s.standing := by
  rw [sendToDatamanager] at h
  split at h
  · cases h
  · rename_i id hd
    have hsend := s.standing_send id m
    generalize s.send id m = r at h hsend
    rcases r with ⟨e | _, u⟩
    · cases h
    · obtain rfl : u = t := congrArg Prod.snd h
      exact hsend

theorem standing_of_contactController {s t : Session}
    (h : Coordinated.contactController s = (.ok (), t)) :
    t.standing = { s.standing.joined .controller with
      stage := .awaitingAssignment
      controller := some ⟨s.standing.nextId⟩ } := by
  obtain ⟨endpoint, id, u, -, -, hadd, rfl⟩ := Coordinated.contactController_eq_ok.1 h
  obtain ⟨rfl, hu⟩ := standing_of_addConnection hadd
  have hjoined : (Coordinated.afterController endpoint ⟨s.standing.nextId⟩ u).standing
      = { u.standing with
        stage := .awaitingAssignment
        controller := some ⟨s.standing.nextId⟩ } := rfl
  refine hjoined.trans ?_
  rw [hu]
  rfl

theorem standing_of_contactDatamanager {port : Port} {s t : Session} {id : ConnectionId}
    (h : Coordinated.contactDatamanager port s = (.ok id, t)) :
    id = ⟨s.standing.nextId⟩ ∧ t.standing = { s.standing.joined .datamanager with
      stage := .contactingDatamanager
      datamanager := some ⟨s.standing.nextId⟩ } := by
  cases he : s.worker.controllerEndpoint with
  | none =>
    rw [Coordinated.run_contactDatamanager, he] at h
    cases h
  | some endpoint =>
    obtain ⟨u, hadd, rfl⟩ := (Coordinated.contactDatamanager_eq_ok he).1 h
    obtain ⟨rfl, hu⟩ := standing_of_addConnection hadd
    refine ⟨rfl, ?_⟩
    have hjoined : ({ u with worker := { u.worker with
        datamanager := some ⟨s.standing.nextId⟩ } } : Session).standing
        = { u.standing with datamanager := some ⟨s.standing.nextId⟩ } := rfl
    refine hjoined.trans ?_
    rw [hu]
    rfl

theorem standing_of_requestSegment {s t : Session} {id : ConnectionId} {reply : Message}
    (hs : s.worker.connections.Sound s.env.net)
    (h : Coordinated.requestSegment id s = (.ok reply, t)) :
    t.standing = { s.standing with stage := .awaitingKey } := by
  obtain ⟨_, u, henter, hexchange⟩ := Coordinated.bind_eq_ok.1 h
  cases henter
  have hafter := exchange_after (s := s.askingForKey) id (.empty .getShmKey) [.getShmKey] hs
  rw [show s.askingForKey.exchange id _ _ = (.ok reply, t) from hexchange] at hafter
  exact hafter.eq_of_ok

theorem standing_of_assignedSegment {s t : Session} {reply : Message}
    (h : Coordinated.assignedSegment reply s = (.ok (), t)) :
    t.standing = { s.standing with stage := .attached } := by
  obtain ⟨a, handle, -, hattach, rfl⟩ := Coordinated.assignedSegment_eq_ok.1 h
  obtain ⟨hworker, -, -⟩ := Coordinated.afterSegment_of_ok hattach
  rw [standing, hworker]
  rfl

theorem standing_of_announcePid {s t : Session}
    (h : Coordinated.announcePid s = (.ok (), t)) :
    t.standing = { s.standing with stage := .running } := by
  obtain ⟨u, hsent, rfl⟩ := Coordinated.announcePid_eq_ok.1 h
  rw [← standing_of_sendToDatamanager hsent]
  rfl

/-- Where a new worker stands once it has reached its controller. -/
theorem standing_of_contactController_fresh {config : ModuleConfig} {pid : UInt32}
    {env : Environment} {t : Session}
    (h : Coordinated.contactController (fresh config pid env) = (.ok (), t)) :
    t.worker.connections.Sound t.env.net ∧ t.standing = {
      stage := .awaitingAssignment
      roster := [(⟨0⟩, .controller)]
      nextId := 1
      controller := some ⟨0⟩
      datamanager := none } := by
  have hmoves := lasting_moves.contactController (fresh config pid env)
  rw [h] at hmoves
  exact ⟨hmoves.sound (Registry.sound_empty env.net), standing_of_contactController h⟩

/-- Where it stands once it has reached its datamanager too. -/
theorem standing_of_introduction {config : ModuleConfig} {pid : UInt32} {env : Environment}
    {t : Session} {id : ConnectionId} (h : introduction (fresh config pid env) = (.ok id, t)) :
    t.worker.connections.Sound t.env.net ∧ id = ⟨1⟩ ∧ t.standing = {
      stage := .contactingDatamanager
      roster := [(⟨0⟩, .controller), (⟨1⟩, .datamanager)]
      nextId := 2
      controller := some ⟨0⟩
      datamanager := some ⟨1⟩ } := by
  obtain ⟨_, t₁, hcontact, h⟩ := Coordinated.bind_eq_ok.1 h
  obtain ⟨m, t₂, hwait, h⟩ := Coordinated.bind_eq_ok.1 h
  obtain ⟨port, t₃, hassigned, hdial⟩ := Coordinated.bind_eq_ok.1 h
  -- All the way the connections stay in step, so that what is received leaves the standing alone.
  obtain ⟨hsound₁, h₁⟩ := standing_of_contactController_fresh hcontact
  have hsound₂ : t₂.worker.connections.Sound t₂.env.net := by
    have hmoves := t₁.steps_wait.moves
    rw [show t₁.wait = (.ok m, t₂) from hwait] at hmoves
    exact hmoves.sound hsound₁
  obtain ⟨-, -, rfl⟩ := Coordinated.assigned_eq_ok.1 hassigned
  have hmoves := lasting_moves.contactDatamanager port (t₂.report (.datamanagerAssigned port))
  rw [hdial] at hmoves
  obtain ⟨rfl, h₄⟩ := standing_of_contactDatamanager hdial
  rw [standing_report, standing_of_wait hsound₁ hwait, h₁] at h₄
  refine ⟨hmoves.sound hsound₂, ?_, h₄⟩
  rw [standing_report, standing_of_wait hsound₁ hwait, h₁]

/-- **A worker that was started runs, and has its controller and its datamanager.** -/
theorem standing_of_handshake {config : ModuleConfig} {pid : UInt32} {env : Environment}
    {u : Session} (h : (fresh config pid env).handshake = (.ok (), u)) :
    u.standing = {
      stage := .running
      roster := [(⟨0⟩, .controller), (⟨1⟩, .datamanager)]
      nextId := 2
      controller := some ⟨0⟩
      datamanager := some ⟨1⟩ } := by
  obtain ⟨m, port, id, reply, t₁, t₂, t₃, t₄, t₅, t₆, t₇, hs⟩ := (handshake_eq_ok rfl).1 h
  have hintroduction : introduction (fresh config pid env) = (.ok id, t₄) :=
    Coordinated.bind_eq_ok.2 ⟨(), t₁, hs.contactController, Coordinated.bind_eq_ok.2
      ⟨m, t₂, hs.wait, Coordinated.bind_eq_ok.2 ⟨port, t₃, hs.assigned, hs.contactDatamanager⟩⟩⟩
  obtain ⟨hsound₄, rfl, h₄⟩ := standing_of_introduction hintroduction
  have h₅ := standing_of_requestSegment hsound₄ hs.requestSegment
  have h₆ := standing_of_assignedSegment hs.assignedSegment
  have h₇ := standing_of_announcePid hs.announcePid
  rw [hs.finish, standing_report, h₇, h₆, h₅, h₄]

/-! ### Nobody to wait for -/

theorem readFrom_none_ne (id : ConnectionId) (s : Session) :
    (s.readFrom none id).1 ≠ .ok none := by
  rw [readFrom, receiveBy]
  generalize s.receive id = r
  rcases r with ⟨e | m, t⟩
  · intro h
    cases h
  · intro h
    cases h

/-- Without a deadline a poll finds nobody only where nobody is registered. -/
theorem missing_of_pollWatched {s : Session} (h : (s.pollWatched none).1 = .ok none)
    {id : ConnectionId} (hmem : id ∈ s.standing.watched) : s.standing.role? id = none := by
  have hpoll : (s.worker.connections.pollReadable s.worker.watched none s.env).1 = .ok none := h
  rw [Registry.pollReadable, Registry.pollReadableFor] at hpoll
  split at hpoll
  · rename_i hnil
    rw [role?_standing, List.filterMap_eq_nil_iff.1 hnil id hmem, Option.map_none]
  · rename_i hne
    exact absurd hpoll (Registry.pollWatched_ne_none hne s.env.net)

theorem missing_of_nextMessage {s : Session} (h : (s.nextMessage none).1 = .ok none)
    {id : ConnectionId} (hmem : id ∈ s.standing.watched) : s.standing.role? id = none := by
  have hnext := s.next_nextMessage none
  generalize s.nextMessage none = r at h hnext
  cases hnext with
  | deferred m => cases h
  | nobody none_watched =>
    have hnone : id ∈ ([] : List ConnectionId) := none_watched ▸ hmem
    exact absurd hnone List.not_mem_nil
  | unpolled f => cases h
  | late poll => exact missing_of_pollWatched (s := s.popDeferred.2) poll hmem
  | ready watched found => exact absurd h (readFrom_none_ne _ _)

/-- **A wait without a deadline ends without a message only where nobody is left to wait for.** -/
theorem missing_of_waitUntil {s : Session} (hs : s.worker.connections.Sound s.env.net)
    (h : (s.waitUntil none).1 = .ok none) {id : ConnectionId} (hmem : id ∈ s.standing.watched) :
    s.standing.role? id = none := by
  generalize hd : (none : Option Nat) = deadline at h
  fun_induction waitUntil deadline s with
  | case1 => cases h
  | case2 s t hn =>
    subst hd
    exact missing_of_nextMessage (congrArg Prod.fst hn) hmem
  | case3 => cases h
  | case4 s m t hn hk u ht ih =>
    -- an announcement; the wait goes on with the same connections
    subst hd
    have hsound := sound_of_takeAnnouncement (sound_of_nextMessage hs hn) ht
    have hstanding := t.standing_takeAnnouncement m
    rw [ht] at hstanding
    rw [← standing_of_nextMessage hs hn, ← hstanding] at hmem ⊢
    exact ih hsound hmem h
  | case5 => cases h

/-! ### What a worker can be asked to do -/

/-- An operation of a worker that serves. -/
inductive Task
  | exchange (id : ConnectionId) (request : Message) (expected : List Kind)
  | exchangeWithDatamanager (request : Message) (expected : List Kind)
  | sendToDatamanager (m : Message)
  | receiveFromDatamanager
  | wait
  | check (timeout : Nat)

/-- Carries the operation out; the answer is the message that it hands out, if it does. -/
def Task.run (task : Task) (s : Session) : Except CoordinatorError (Option Message) × Session :=
  match task with
  | .exchange id request expected =>
    ((s.exchange id request expected).1.map some, (s.exchange id request expected).2)
  | .exchangeWithDatamanager request expected =>
    ((s.exchangeWithDatamanager request expected).1.map some,
      (s.exchangeWithDatamanager request expected).2)
  | .sendToDatamanager m => ((s.sendToDatamanager m).1.map fun _ => none, (s.sendToDatamanager m).2)
  | .receiveFromDatamanager =>
    (s.receiveFromDatamanager.1.map some, s.receiveFromDatamanager.2)
  | .wait => (s.wait.1.map some, s.wait.2)
  | .check timeout => s.check timeout

/-- The connection that an exchange is asked for on. -/
def Task.connection? : Task → Option ConnectionId
  | .exchange id _ _ => some id
  | _ => none

/-- The fatal errors that do not end the worker. -/
inductive Task.Survives (s : Session) (task : Task) : CoordinatorError → Prop
  /-- An announced segment cannot be attached. -/
  | segment (e : SegmentError) : Survives s task (.segment e)
  /-- A poll fails. -/
  | poll (f : OsFailure) : Survives s task (.net (.socket f))
  /-- What a peer sends cannot be read. -/
  | garbled {id : ConnectionId} (asked : task.connection? = some id)
      (peer : s.standing.role? id = some .peer) (e : CodecError) :
      Survives s task (.net (.codec e))

theorem steps_task (task : Task) (s : Session) : Steps s (task.run s).2 := by
  cases task with
  | exchange id request expected => exact (s.uses_exchange id request expected).steps
  | exchangeWithDatamanager request expected =>
    exact s.steps_exchangeWithDatamanager request expected
  | sendToDatamanager m => exact s.steps_sendToDatamanager m
  | receiveFromDatamanager => exact s.steps_receiveFromDatamanager
  | wait => exact s.steps_wait
  | check timeout => exact s.steps_waitUntil _

/-- **Whatever a worker is asked to do, it stays staffed.** -/
theorem staffed_task {s : Session} (task : Task) (hs : s.worker.connections.Sound s.env.net)
    (h : s.standing.Staffed) : (task.run s).2.standing.Staffed := by
  cases task with
  | exchange id request expected => exact (exchange_after id request expected hs).staffed h
  | exchangeWithDatamanager request expected =>
    rw [Task.run, Session.exchangeWithDatamanager]
    cases hd : s.worker.datamanager with
    | none => exact h
    | some id => exact (exchange_after id request expected hs).staffed h
  | sendToDatamanager m =>
    cases hd : s.worker.datamanager with
    | none =>
      rw [Task.run, Session.sendToDatamanager, hd]
      exact h
    | some id => exact (sendToDatamanager_after m hd (h.datamanager id hd)).staffed h
  | receiveFromDatamanager =>
    cases hd : s.worker.datamanager with
    | none =>
      rw [Task.run, Session.receiveFromDatamanager, hd]
      exact h
    | some id => exact (receiveFromDatamanager_after hs hd (h.datamanager id hd)).staffed h
  | wait =>
    have hwaited := (waitUntil_after none hs).staffed h
    rw [← snd_wait] at hwaited
    exact hwaited
  | check timeout => exact (waitUntil_after _ hs).staffed h

/-- All that an operation can come to. -/
inductive Task.Outcome (s : Session) (task : Task) :
    Except CoordinatorError (Option Message) → Standing → Prop
  /-- It used the connection that it was asked for on. -/
  | asked {id : ConnectionId} {x : Except CoordinatorError (Option Message)} {q : Standing}
      (asked : task.connection? = some id) (after : s.standing.After id x q) : Outcome s task x q
  /-- It used the connection of the datamanager. -/
  | datamanager {id : ConnectionId} {x : Except CoordinatorError (Option Message)} {q : Standing}
      (unasked : task.connection? = none) (found : s.standing.datamanager = some id)
      (after : s.standing.After id x q) : Outcome s task x q
  | waited {x : Except CoordinatorError (Option Message)} {q : Standing}
      (unasked : task.connection? = none) (waited : s.standing.Waited x q) : Outcome s task x q
  /-- Nobody was left that it could have used. -/
  | alone {e : CoordinatorError} (ended : s.standing.stage = .terminated) :
      Outcome s task (.error e) s.standing

section Serving

variable {s : Session}

theorem terminated_of_datamanager (h : s.standing.Serves) (hd : s.worker.datamanager = none) :
    s.standing.stage = .terminated := by
  refine h.stage.resolve_left fun hrunning => ?_
  have hsome : s.worker.datamanager.isSome := (h.staffed hrunning).2
  rw [hd] at hsome
  exact Bool.false_ne_true hsome

theorem terminated_of_waitUntil (hs : s.worker.connections.Sound s.env.net) (h : s.standing.Serves)
    (hw : (s.waitUntil none).1 = .ok none) : s.standing.stage = .terminated := by
  refine h.stage.resolve_left fun hrunning => ?_
  obtain ⟨id, hid⟩ := Option.isSome_iff_exists.1 (h.staffed hrunning).1
  have hmem : id ∈ s.standing.watched :=
    List.mem_append_left _ (Option.mem_toList.2 hid)
  have hmissing := missing_of_waitUntil hs hw hmem
  rw [h.controller id hid] at hmissing
  cases hmissing

theorem Task.outcome (task : Task) (hs : s.worker.connections.Sound s.env.net)
    (h : s.standing.Serves) :
    Task.Outcome s task (task.run s).1 (task.run s).2.standing := by
  cases task with
  | exchange id request expected =>
    exact .asked rfl ((exchange_after id request expected hs).map some)
  | exchangeWithDatamanager request expected =>
    rw [Task.run, Session.exchangeWithDatamanager]
    cases hd : s.worker.datamanager with
    | none => exact .alone (terminated_of_datamanager h hd)
    | some id => exact .datamanager rfl hd ((exchange_after id request expected hs).map some)
  | sendToDatamanager m =>
    cases hd : s.worker.datamanager with
    | none =>
      rw [Task.run, Session.sendToDatamanager, hd]
      exact .alone (terminated_of_datamanager h hd)
    | some id =>
      exact .datamanager rfl hd
        ((sendToDatamanager_after m hd (h.datamanager id hd)).map fun _ => none)
  | receiveFromDatamanager =>
    cases hd : s.worker.datamanager with
    | none =>
      rw [Task.run, Session.receiveFromDatamanager, hd]
      exact .alone (terminated_of_datamanager h hd)
    | some id =>
      exact .datamanager rfl hd
        ((receiveFromDatamanager_after hs hd (h.datamanager id hd)).map some)
  | wait =>
    have hwaited := waitUntil_after none hs
    rw [Task.run, wait_eq]
    cases hw : s.waitUntil none with
    | mk x t =>
      rw [hw] at hwaited
      rcases x with e | _ | m
      · exact .waited rfl hwaited
      · -- a wait without a deadline that comes back empty has nobody to wait for
        rw [hwaited.eq_of_ok]
        exact .alone (terminated_of_waitUntil hs h (congrArg Prod.fst hw))
      · exact .waited rfl hwaited
  | check timeout => exact .waited rfl (waitUntil_after _ hs)

/-- Of the failures of a connection, the worker survives what a peer sends that cannot be read. -/
theorem Task.survives_iff_of_fails {task : Task} {e : CoordinatorError} {p q : Standing}
    {id : ConnectionId} (hf : p.Fails id e q) :
    task.Survives s e ↔
      (∃ i, task.connection? = some i ∧ s.standing.role? i = some .peer) ∧
        ∃ f, e = .net (.codec f) := by
  constructor
  · intro h
    cases h with
    | segment e => cases hf
    | poll f => cases hf
    | garbled asked peer f => exact ⟨⟨_, asked, peer⟩, f, rfl⟩
  · rintro ⟨⟨i, asked, peer⟩, f, rfl⟩
    exact .garbled asked peer f

/-- A fatal error ends the worker, unless it is one of those that it survives. -/
theorem Task.Outcome.terminated_iff {task : Task} {e : CoordinatorError} {q : Standing}
    (ho : Task.Outcome s task (.error e) q) (h : s.standing.Serves) (hfatal : e.isFatal = true) :
    q.stage = .terminated ↔ s.standing.stage = .terminated ∨ ¬ task.Survives s e := by
  cases ho with
  | @asked id _ _ asked after =>
    cases after with
    | failed fails =>
      rw [h.terminated_iff_of_fails fails hfatal, Task.survives_iff_of_fails fails, asked]
      simp only [Option.some.injEq, exists_eq_left']
    | unattachable key size reason =>
      exact ⟨.inl, fun hs => hs.resolve_right fun hnot => hnot (.segment _)⟩
  | @datamanager id _ _ unasked found after =>
    cases after with
    | failed fails =>
      -- the datamanager is no peer
      rw [h.terminated_iff_of_fails fails hfatal, Task.survives_iff_of_fails fails, unasked,
        h.datamanager id found]
      simp
    | unattachable key size reason =>
      exact ⟨.inl, fun hs => hs.resolve_right fun hnot => hnot (.segment _)⟩
  | waited unasked waited =>
    cases waited with
    | unpolled f => exact ⟨.inl, fun hs => hs.resolve_right fun hnot => hnot (.poll f)⟩
    | @failed id role _ _ watched found fails =>
      -- nor is any connection that is watched
      have hne := h.toStaffed.ne_peer_of_watched watched found
      rw [h.terminated_iff_of_fails fails hfatal, Task.survives_iff_of_fails fails, unasked, found]
      simp [hne]
    | unattachable key size reason =>
      exact ⟨.inl, fun hs => hs.resolve_right fun hnot => hnot (.segment _)⟩
  | alone ended => exact ⟨.inl, fun _ => ended⟩

end Serving

/-- The sessions of a worker that was started. -/
inductive Serving : Session → Prop
  | started {config : ModuleConfig} {pid : UInt32} {env : Environment} {s : Session}
      (h : start config pid env = (.ok (), s)) : Serving s
  | task {s : Session} (h : Serving s) (task : Task) : Serving (task.run s).2
  | popDeferred {s : Session} (h : Serving s) : Serving s.popDeferred.2
  | addConnection {s : Session} (h : Serving s) (role : Role) (endpoint : Endpoint) (port : Port)
      (timeout : Option Nat) : Serving (s.addConnection role endpoint port timeout).2
  /-- The surroundings change. -/
  | meanwhile {s : Session} (h : Serving s) {env : Environment}
      (passes : s.env.net.Passes env.net) : Serving { s with env }

theorem handshake_of_start {config : ModuleConfig} {pid : UInt32} {env : Environment}
    {s : Session} (h : start config pid env = (.ok (), s)) :
    (fresh config pid env).handshake = (.ok (), s) := by
  rw [start, ← fresh] at h
  cases hhandshake : (fresh config pid env).handshake with
  | mk x u =>
    rw [hhandshake] at h
    cases x with
    | ok _ => exact h
    | error e => cases h

theorem serves_addConnection {s : Session} (h : s.standing.Serves) (role : Role)
    (endpoint : Endpoint) (port : Port) (timeout : Option Nat) :
    (s.addConnection role endpoint port timeout).2.standing.Serves := by
  cases hadd : s.addConnection role endpoint port timeout with
  | mk x t =>
    cases x with
    | ok id =>
      rw [(standing_of_addConnection hadd).2]
      exact h.joined role
    | error e =>
      -- only the number of the next connection has changed
      rw [standing, addConnection_error hadd]
      exact ⟨h.stage, h.controller, h.datamanager, h.staffed⟩

/-- **For as long as a worker runs that was started, it has its controller and its datamanager.** -/
theorem Serving.serves {s : Session} (h : Serving s) :
    s.standing.Serves ∧ s.worker.connections.Sound s.env.net := by
  -- The induction follows the life of the worker, from its handshake on.
  induction h with
  | @started config pid env s h =>
    have hstarted := handshake_of_start h
    have hmoves := (fresh config pid env).moves_handshake
    rw [hstarted] at hmoves
    refine ⟨?_, hmoves.sound (Registry.sound_empty env.net)⟩
    rw [standing_of_handshake hstarted]
    refine ⟨.inl rfl, fun id hid => ?_, fun id hid => ?_, fun _ => ⟨rfl, rfl⟩⟩
    · rw [← Option.some.inj hid]
      rfl
    · rw [← Option.some.inj hid]
      rfl
  | @task s h task ih =>
    obtain ⟨hserves, hsound⟩ := ih
    have hstaffed := staffed_task task hsound hserves.toStaffed
    exact ⟨hserves.declines (steps_task task s).declines hstaffed,
      (steps_task task s).moves.sound hsound⟩
  | popDeferred h ih => exact ih
  | addConnection h role endpoint port timeout ih =>
    obtain ⟨hserves, hsound⟩ := ih
    exact ⟨serves_addConnection hserves role endpoint port timeout,
      (lasting_moves.addConnection role endpoint port timeout _).sound hsound⟩
  | meanwhile h passes ih => exact ⟨ih.1, ih.2.passes passes⟩

/-- **A fatal error ends a worker that was started, unless it is one of those that it survives**: an
announced segment that cannot be attached, a poll that fails, or what a peer sends that cannot be
read. -/
theorem Serving.terminated_iff_of_fatal {s : Session} {task : Task} {e : CoordinatorError}
    (h : Serving s) (he : (task.run s).1 = .error e) (hfatal : e.isFatal = true) :
    (task.run s).2.worker.stage = .terminated ↔
      s.worker.stage = .terminated ∨ ¬ task.Survives s e := by
  obtain ⟨hserves, hsound⟩ := h.serves
  have ho := task.outcome hsound hserves
  rw [he] at ho
  exact ho.terminated_iff hserves hfatal

/-- The datamanager goes away inside of a frame. -/
theorem terminated_of_lost_datamanager :
    let s := (start (.ofController "127.0.0.1" 4000) 7 .cooperative).2.popDeferred.2
    Serving s ∧ (Task.wait.run s).1 = .error (.peerDisconnected .datamanager) ∧
      (Task.wait.run s).2.worker.stage = .terminated := by
  intro s
  have hok : (start (.ofController "127.0.0.1" 4000) 7 .cooperative).1 = .ok () := by
    decide +kernel
  have hserving : Serving s := .popDeferred (.started (Prod.ext hok rfl))
  have herror : (Task.wait.run s).1 = .error (.peerDisconnected .datamanager) := by
    decide +kernel
  refine ⟨hserving, herror, (hserving.terminated_iff_of_fatal herror rfl).2 (.inr ?_)⟩
  intro hsurvives
  cases hsurvives

end Session

/-- A controller that announces a segment behind its assignment. -/
def Listener.announcing : Listener :=
  { Listener.assigning with
    script := Listener.assigning.script ++
      [(0, .data [0, 0, 0, 14, 0, 0, 0, 8, 0, 0, 0, 90, 0, 0, 32, 0])] }

/-- In the place of that segment stands a file that is too short. -/
def Environment.obstructed : Environment where
  net := { listeners := [.announcing, .supplying] }
  files := ({ files := [FileContent.empty.resize 10] } : FileSystem).link
    ⟨2, "basalt-seg-0000005a"⟩ (.file 0)

/-- There the wait fails fatally, and the worker runs on. -/
theorem Session.fatal_while_running :
    let s := (start (.ofController "127.0.0.1" 4000) 7 .obstructed).2.popDeferred.2
    Serving s ∧ (∃ e, (Task.wait.run s).1 = .error e ∧ e.isFatal = true) ∧
      (Task.wait.run s).2.worker.stage = .running := by
  intro s
  have hok : (start (.ofController "127.0.0.1" 4000) 7 .obstructed).1 = .ok () := by
    decide +kernel
  have herror : (Task.wait.run s).1 = .error (.segment (.unavailable ⟨90⟩ 8192
      "/dev/shm/basalt-seg-0000005a: existing file is 10 bytes, 8192 requested")) := by
    decide +kernel
  exact ⟨.popDeferred (.started (Prod.ext hok rfl)), ⟨_, herror, rfl⟩, by decide +kernel⟩

end PipelineWorker
