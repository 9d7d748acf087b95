/-
What holds of a worker between two operations.

A worker is started, given tasks and peers, and shut down, in any order and with any outcome.  An
operation may fail anywhere inside; when it has answered, the worker is `Orderly`: its controller and
its datamanager are registered as that, no connection is kept that has failed, and while it runs it
lacks nothing.

* `InOrder` — the invariant, for a worker that has tried to connect `n` times;
* `InOrder.handshake`, `InOrder.task`, `InOrder.addConnection`, `InOrder.shutdown` — the operations
  keep it, whether they succeed or fail;
* `index_le_run` — no operation leads back to an earlier stage;
* `orderly_of_operates` — **so a worker is orderly whatever was done to it, for as long as the numbers
  of its connections last**.
-/
import PipelineWorker.Proofs.Living
import PipelineWorker.Proofs.Segments
import PipelineWorker.Proofs.Shutdown

namespace PipelineWorker

namespace Stage

theorem index_le_terminated (stage : Stage) : stage.index ≤ terminated.index := by
  cases stage <;> decide

theorem eq_terminated_of_index_le {stage : Stage} (h : terminated.index ≤ stage.index) :
    stage = terminated := by
  cases stage <;> first | rfl | exact absurd h (by decide)

end Stage

namespace Session

/-- A worker that has tried to connect `n` times has everything that it takes itself to have. -/
structure InOrder (n : Nat) (s : Session) : Prop where
  sound : s.worker.connections.Sound s.env.net
  living : s.Living
  numbered : s.standing.Numbered n
  /-- A number that is given out a second time leads to the older connection. -/
  staffed : n < UInt32.size → s.standing.Staffed
  equipped : s.worker.stage = .running → s.worker.workingSegment?.isSome

/-- In order, after at most `k` attempts more than `n`. -/
def Attempted (n k : Nat) (s : Session) : Prop := ∃ i ≤ k, InOrder (n + i) s

section

variable {n : Nat} {s t : Session} {id : ConnectionId} {role : Role}

/-! ### Small steps -/

theorem InOrder.attempted (h : InOrder n s) (k : Nat) : Attempted n k s := ⟨0, k.zero_le, h⟩

theorem Attempted.mono {k l : Nat} (h : Attempted n k s) (hkl : k ≤ l) : Attempted n l s := by
  obtain ⟨i, hi, h⟩ := h
  exact ⟨i, Nat.le_trans hi hkl, h⟩

theorem Attempted.trans {k l : Nat} (h : Attempted (n + k) l s) : Attempted n (k + l) s := by
  obtain ⟨i, hi, h⟩ := h
  rw [Nat.add_assoc] at h
  exact ⟨k + i, Nat.add_le_add_left hi k, h⟩

/-- Any stage but the one in which a worker runs makes no demands. -/
theorem InOrder.enter (h : InOrder n s) (stage : Stage) (hstage : stage ≠ .running) :
    InOrder n { s with worker := { s.worker with stage } } := by
  refine ⟨h.sound, h.living, h.numbered.of_eq rfl rfl, fun hn => ?_,
    fun hs => absurd hs hstage⟩
  exact ⟨(h.staffed hn).controller, (h.staffed hn).datamanager, fun hs => absurd hs hstage⟩

theorem InOrder.meanwhile (h : InOrder n s) {env : Environment}
    (passes : s.env.net.Passes env.net) : InOrder n { s with env } :=
  ⟨h.sound.passes passes, h.living, h.numbered, h.staffed, h.equipped⟩

theorem InOrder.report (h : InOrder n s) (event : Event) : InOrder n (s.report event) :=
  ⟨h.sound, h.living, h.numbered, h.staffed, h.equipped⟩

theorem InOrder.reportAll (h : InOrder n s) (events : List Event) :
    InOrder n (s.reportAll events) :=
  ⟨h.sound, h.living, h.numbered, h.staffed, h.equipped⟩

theorem InOrder.popDeferred (h : InOrder n s) : InOrder n s.popDeferred.2 :=
  ⟨h.sound, h.living, h.numbered, h.staffed, h.equipped⟩

/-- **A new connection takes a number, whether it can be made or not.** -/
theorem InOrder.addConnection (h : InOrder n s) (role : Role) (endpoint : Endpoint) (port : Port)
    (timeout : Option Nat) : InOrder (n + 1) (s.addConnection role endpoint port timeout).2 := by
  have hsound := (lasting_moves.addConnection role endpoint port timeout s).sound h.sound
  cases hadd : s.addConnection role endpoint port timeout with
  | mk x t =>
    rw [hadd] at hsound
    cases x with
    | ok id =>
      obtain ⟨hid, l, -, hadds⟩ := addConnection_ok hadd
      have hstanding := (standing_of_addConnection hadd).2
      refine ⟨hsound, ?_, ?_, fun hn => ?_, ?_⟩
      · intro c hc
        rw [hadds.worker] at hc
        rcases List.mem_append.1 hc with hc | hc
        · exact h.living c hc
        · rw [List.mem_singleton.1 hc]
          rfl
      · rw [hstanding]
        exact h.numbered.joined role
      · rw [hstanding]
        exact (h.staffed (Nat.lt_of_succ_lt hn)).joined role
      · rw [hadds.worker]
        exact h.equipped
    | error e =>
      have hworker := addConnection_error hadd
      have hstanding : t.standing = { s.standing with nextId := s.standing.nextId + 1 } := by
        rw [standing, hworker]
        rfl
      refine ⟨hsound, ?_, ?_, fun hn => ?_, ?_⟩
      · rw [Living, hworker]
        exact h.living
      · rw [hstanding]
        exact h.numbered.skipped
      · have hstaffed := h.staffed (Nat.lt_of_succ_lt hn)
        rw [hstanding]
        exact ⟨hstaffed.controller, hstaffed.datamanager, hstaffed.complete⟩
      · rw [hworker]
        exact h.equipped

theorem InOrder.role?_of_addConnection (h : InOrder n s) {endpoint : Endpoint} {port : Port}
    {timeout : Option Nat} (hadd : s.addConnection role endpoint port timeout = (.ok id, t))
    (hn : n + 1 < UInt32.size) : t.standing.role? id = some role := by
  obtain ⟨rfl, hstanding⟩ := standing_of_addConnection hadd
  rw [hstanding]
  exact h.numbered.role?_joined (Nat.lt_of_succ_lt hn) role

/-- The handshake takes a connection for the controller that is registered as that. -/
theorem InOrder.appointController (h : InOrder n s) (hstage : s.worker.stage ≠ .running)
    (hrole : n < UInt32.size → s.standing.role? id = some .controller)
    {controllerEndpoint : Option Endpoint} :
    InOrder n { s with worker := { s.worker with controller := some id, controllerEndpoint } } := by
  refine ⟨h.sound, h.living, h.numbered.of_eq rfl rfl, fun hn => ?_, h.equipped⟩
  refine ⟨fun i hi => ?_, (h.staffed hn).datamanager, fun hs => absurd hs hstage⟩
  rw [← Option.some.inj hi]
  exact hrole hn

theorem InOrder.appointDatamanager (h : InOrder n s) (hstage : s.worker.stage ≠ .running)
    (hrole : n < UInt32.size → s.standing.role? id = some .datamanager) :
    InOrder n { s with worker := { s.worker with datamanager := some id } } := by
  refine ⟨h.sound, h.living, h.numbered.of_eq rfl rfl, fun hn => ?_, h.equipped⟩
  refine ⟨(h.staffed hn).controller, fun i hi => ?_, fun hs => absurd hs hstage⟩
  rw [← Option.some.inj hi]
  exact hrole hn

/-! ### Tasks -/

theorem living_task (task : Task) (h : s.Living) : (task.run s).2.Living := by
  cases task with
  | exchange id request expected => exact living_exchange id request expected h
  | exchangeWithDatamanager request expected =>
    exact living_exchangeWithDatamanager request expected h
  | sendToDatamanager m => exact living_sendToDatamanager m h
  | receiveFromDatamanager => exact living_receiveFromDatamanager h
  | wait => exact living_wait h
  | check timeout => exact living_waitUntil _ h

/-- **A task keeps a worker in order, however it ends.** -/
theorem InOrder.task (h : InOrder n s) (task : Task) : InOrder n (task.run s).2 := by
  have hsteps := steps_task task s
  refine ⟨hsteps.moves.sound h.sound, living_task task h.living,
    h.numbered.declines hsteps.declines, fun hn => staffed_task task h.sound (h.staffed hn),
    fun hs => ?_⟩
  -- what runs now ran before, and had its segment then
  rcases hsteps.declines.stage with hstage | hstage
  · obtain ⟨handle, hhandle⟩ := Option.isSome_iff_exists.1 (h.equipped (hstage.symm.trans hs))
    rw [hsteps.workingSegment? hhandle]
    rfl
  · exact absurd (hstage.symm.trans hs) (by decide)

/-! ### The handshake, step by step -/

section Handshake

open Coordinated

theorem InOrder.connect (h : InOrder n s) (role : Role) (endpoint : Endpoint) (port : Port) :
    Ensures (connect role endpoint port) s
      (fun id t => InOrder (n + 1) t ∧ (n + 1 < UInt32.size → t.standing.role? id = some role) ∧
        t.worker.stage = s.worker.stage) (InOrder (n + 1)) := by
  have hadded := h.addConnection role endpoint port s.worker.config.connectTimeout
  refine ensures_connect (fun id t hadd => ?_) fun e t hadd => ?_
  · rw [hadd] at hadded
    have hstanding := (standing_of_addConnection hadd).2
    exact ⟨hadded, h.role?_of_addConnection hadd, congrArg Standing.stage hstanding⟩
  · rw [hadd] at hadded
    exact hadded

theorem InOrder.contactController (h : InOrder n s) :
    Ensures contactController s (fun _ => InOrder (n + 1)) (Attempted n 1) := by
  have hentered := h.enter .contactingController (by decide)
  refine .bind (ensures_modify (.bind (ensures_get ?_)))
  refine .bind (ensures_resolve (fun endpoint events => ?_) fun events => ?_)
  · refine .bind (ensures_modify ?_)
    refine .bind ((((hentered.reportAll events).report _).connect _ _ _).mono
      (fun id t => ?_) fun t ht => ⟨1, Nat.le_refl 1, ht⟩)
    rintro ⟨ht, hrole, hstage⟩
    refine .bind (ensures_modify (ensures_modify ?_))
    exact (ht.appointController (by rw [hstage]; exact Stage.noConfusion) hrole).enter _ (by decide)
  · exact (hentered.reportAll events).attempted 1

theorem InOrder.awaitAssignment (h : InOrder n s) :
    Ensures awaitAssignment s (fun _ => InOrder n) (InOrder n) := by
  rw [awaitAssignment_eq]
  refine .bind (ensures_of (fun m _ => ?_) fun e _ => h.task .wait)
  have hwaited : InOrder n s.wait.2 := h.task .wait
  rw [Coordinated.assigned]
  dsimp only
  split
  · exact .bind hwaited
  · exact .bind (ensures_decoded (fun a _ => hwaited.report _) hwaited)

theorem InOrder.contactDatamanager (h : InOrder n s) (port : Port) :
    Ensures (contactDatamanager port) s (fun _ => InOrder (n + 1)) (Attempted n 1) := by
  have hentered := h.enter .contactingDatamanager (by decide)
  refine .bind (ensures_modify (.bind (ensures_get ?_)))
  split
  · exact hentered.attempted 1
  · refine .bind (ensures_modify ?_)
    refine .bind (((hentered.report _).connect _ _ _).mono (fun id t => ?_)
      fun t ht => ⟨1, Nat.le_refl 1, ht⟩)
    rintro ⟨ht, hrole, hstage⟩
    exact ht.appointDatamanager (by rw [hstage]; exact Stage.noConfusion) hrole

theorem InOrder.requestSegment (h : InOrder n s) (id : ConnectionId) :
    Ensures (requestSegment id) s (fun _ => InOrder n) (InOrder n) := by
  have hentered := h.enter .awaitingKey (by decide)
  have hasked := hentered.task (.exchange id (.empty .getShmKey) [.getShmKey])
  exact .bind (ensures_modify (ensures_of (fun _ _ => hasked) fun _ _ => hasked))

/-- Before it runs, a worker may exchange its segments for others. -/
theorem InOrder.attachWorking (h : InOrder n s) (hstage : s.worker.stage ≠ .running)
    (a : SegmentAnnouncement) : InOrder n (Coordinated.attachWorking a s).2 := by
  rw [Coordinated.run_attachWorking]
  generalize SegmentAccess.attach a.key a.size.toNat _ s.env.files = r
  rcases r with ⟨e | handle, access, files, events⟩
  · exact ⟨h.sound, h.living, h.numbered, h.staffed, h.equipped⟩
  · exact ⟨h.sound, h.living, h.numbered, h.staffed, fun hs => absurd hs hstage⟩

theorem InOrder.assignedSegment (h : InOrder n s) (hstage : s.worker.stage ≠ .running)
    (reply : Message) :
    Ensures (assignedSegment reply) s (fun _ => InOrder n) (InOrder n) := by
  rw [Coordinated.assignedSegment]
  dsimp only
  split
  · exact .bind h
  · refine .bind (ensures_decoded (fun a _ => ?_) h)
    have hattached := h.attachWorking hstage a
    refine .bind (ensures_of (fun _ _ => ?_) fun _ _ => hattached)
    exact (hattached.report _).enter _ (by decide)

/-- A worker runs once it has all that it needs. -/
theorem InOrder.run (h : InOrder n s) (hcontroller : s.worker.controller.isSome)
    (hdatamanager : s.worker.datamanager.isSome)
    (hsegment : s.worker.workingSegment?.isSome) :
    InOrder n { s with worker := { s.worker with stage := .running } } := by
  refine ⟨h.sound, h.living, h.numbered.of_eq rfl rfl, fun hn => ?_,
    fun _ => hsegment⟩
  exact ⟨(h.staffed hn).controller, (h.staffed hn).datamanager,
    fun _ => ⟨hcontroller, hdatamanager⟩⟩

theorem InOrder.announcePid (h : InOrder n s) (hcontroller : s.worker.controller.isSome)
    (hdatamanager : s.worker.datamanager.isSome)
    (hsegment : s.worker.workingSegment?.isSome) :
    Ensures announcePid s (fun _ => InOrder n) (InOrder n) := by
  refine .bind (ensures_get ?_)
  generalize ProcessIdAnnouncement.toMessage ⟨s.worker.pid⟩ = m
  have hsent : InOrder n (s.sendToDatamanager m).2 := h.task (.sendToDatamanager m)
  refine .bind (ensures_of (fun _ hok => ensures_modify ?_) fun _ _ => hsent)
  have hstanding := standing_of_sendToDatamanager (Prod.ext hok rfl)
  refine hsent.run ?_ ?_ ?_
  · rw [← hcontroller]
    exact congrArg (·.controller.isSome) hstanding
  · rw [← hdatamanager]
    exact congrArg (·.datamanager.isSome) hstanding
  · obtain ⟨handle, hhandle⟩ := Option.isSome_iff_exists.1 hsegment
    rw [(s.steps_sendToDatamanager m).workingSegment? hhandle]
    rfl

theorem standing_of_awaitAssignment (hs : s.worker.connections.Sound s.env.net) {port : Port}
    (h : Coordinated.awaitAssignment s = (.ok port, t)) : t.standing = s.standing := by
  rw [Coordinated.awaitAssignment_eq] at h
  obtain ⟨m, u, hwait, hassigned⟩ := Coordinated.bind_eq_ok.1 h
  obtain ⟨-, -, rfl⟩ := Coordinated.assigned_eq_ok.1 hassigned
  rw [standing_report]
  exact standing_of_wait hs hwait

theorem InOrder.obtainSegment (h : InOrder n s) (id : ConnectionId) :
    Ensures (obtainSegment id) s (fun _ t => InOrder n t ∧
      t.standing = { s.standing with stage := .attached } ∧ t.worker.workingSegment?.isSome)
      (InOrder n) := by
  rw [obtainSegment_eq]
  refine .bind ((h.requestSegment id).run.mono (fun reply t => ?_) fun _ ht => ht)
  rintro ⟨hrequest, ht⟩
  have hstanding := standing_of_requestSegment h.sound hrequest
  have hstage : t.worker.stage = .awaitingKey := congrArg Standing.stage hstanding
  refine (ht.assignedSegment (by rw [hstage]; decide) reply).run.mono (fun _ u => ?_) fun _ hu => hu
  rintro ⟨hassigned, hu⟩
  obtain ⟨a, -, hattached⟩ := assigned_of_assignedSegment hassigned
  obtain ⟨handle, hworking, -⟩ := hattached.working
  refine ⟨hu, ?_, by rw [hworking]; rfl⟩
  rw [standing_of_assignedSegment hassigned, hstanding]

/-- **The handshake tries to connect twice at most.** -/
theorem InOrder.handshakeSteps (h : InOrder n s) :
    Ensures handshakeSteps s (fun _ => Attempted n 2) (Attempted n 2) := by
  refine .bind (h.contactController.run.mono (fun _ t₁ => ?_) fun _ ht => ht.mono (by decide))
  rintro ⟨hcontroller, h₁⟩
  have hstanding₁ := standing_of_contactController hcontroller
  refine .bind (h₁.awaitAssignment.run.mono (fun port t₂ => ?_) fun _ ht => ⟨1, by decide, ht⟩)
  rintro ⟨hassigned, h₂⟩
  have hstanding₂ := standing_of_awaitAssignment h₁.sound hassigned
  refine .bind ((h₂.contactDatamanager port).run.mono (fun id t₃ => ?_) fun _ ht => ht.trans)
  rintro ⟨hdatamanager, h₃⟩
  obtain ⟨rfl, hstanding₃⟩ := standing_of_contactDatamanager hdatamanager
  refine .bind ((h₃.obtainSegment _).mono (fun _ t₄ => ?_) fun _ ht => ⟨2, Nat.le_refl 2, ht⟩)
  rintro ⟨h₄, hstanding₄, hsegment⟩
  -- nobody was lost on the way, so that all are there once it runs
  have hpointers : t₄.worker.controller.isSome ∧ t₄.worker.datamanager.isSome := by
    rw [hstanding₃, hstanding₂, hstanding₁] at hstanding₄
    have hc : t₄.worker.controller = some _ := congrArg Standing.controller hstanding₄
    have hd : t₄.worker.datamanager = some _ := congrArg Standing.datamanager hstanding₄
    rw [hc, hd]
    exact ⟨rfl, rfl⟩
  refine .bind ((h₄.announcePid hpointers.1 hpointers.2 hsegment).mono (fun _ t₅ h₅ => ?_)
    fun _ ht => ⟨2, Nat.le_refl 2, ht⟩)
  exact .bind (ensures_get (ensures_modify ⟨2, Nat.le_refl 2, h₅.report _⟩))

theorem InOrder.handshake (h : InOrder n s) : Attempted n 2 s.handshake.2 := by
  rw [Session.handshake]
  split
  · exact h.attempted 2
  · have hsteps := h.handshakeSteps
    rw [Coordinated.Ensures] at hsteps
    generalize Coordinated.handshakeSteps s = r at hsteps ⊢
    rcases r with ⟨e | _, t⟩
    · obtain ⟨k, hk, ht⟩ := hsteps
      exact ⟨k, hk, (ht.report _).enter _ (by decide)⟩
    · exact hsteps

end Handshake

/-! ### The end -/

theorem nextId_removeAll (ids : List ConnectionId) (s : Session) :
    (s.removeAll ids).worker.connections.nextId = s.worker.connections.nextId := by
  induction ids generalizing s with
  | nil => rfl
  | cons id ids ih =>
    exact (ih (s.remove id).2).trans (s.worker.connections.nextId_remove id s.env)

theorem nextId_shutdown (s : Session) :
    s.shutdown.worker.connections.nextId = s.worker.connections.nextId := by
  rw [Session.shutdown]
  split
  · rfl
  · exact nextId_removeAll _ (s.report (.shuttingDown s.worker.config.moduleName)).releaseSegments

theorem InOrder.shutdown (h : InOrder n s) : InOrder n s.shutdown := by
  by_cases hidle : s.worker.stage = .terminated ∧ s.worker.connections.isEmpty
  · rw [shutdown_of_idle hidle.1 hidle.2]
    exact h
  · have hreleased := released_of_busy hidle
    have hempty : s.shutdown.worker.connections.connections = [] :=
      List.isEmpty_iff.1 hreleased.connections
    have hroster : s.shutdown.standing.roster = [] := congrArg (List.map _) hempty
    have hstage := hreleased.stage
    refine ⟨s.moves_shutdown.sound h.sound, ?_, ⟨?_, ?_, ?_⟩, fun _ => ⟨?_, ?_, ?_⟩, ?_⟩
    · intro c hc
      rw [hempty] at hc
      exact absurd hc List.not_mem_nil
    · exact s.nextId_shutdown.trans h.numbered.nextId
    · intro x hx
      rw [hroster] at hx
      exact absurd hx List.not_mem_nil
    · intro _
      rw [hroster]
      exact List.nodup_nil
    · intro id hid
      cases hreleased.controller.symm.trans hid
    · intro id hid
      cases hreleased.datamanager.symm.trans hid
    · intro hs
      cases hstage.symm.trans hs
    · intro hs
      cases hstage.symm.trans hs

/-! ### Operations -/

/-- What a worker can be asked to do from outside. -/
inductive Operation
  | handshake
  | task (task : Task)
  | popDeferred
  | addPeer (endpoint : Endpoint) (port : Port) (timeout : Option Nat)
  | shutdown

/-- The session after the operation, whether it succeeded or failed. -/
def Operation.run (op : Operation) (s : Session) : Session :=
  match op with
  | .handshake => s.handshake.2
  | .task t => (t.run s).2
  | .popDeferred => s.popDeferred.2
  | .addPeer endpoint port timeout => (s.addConnection .peer endpoint port timeout).2
  | .shutdown => s.shutdown

/-- **Every operation keeps a worker in order.** -/
theorem InOrder.operation (h : InOrder n s) (op : Operation) : Attempted n 2 (op.run s) := by
  cases op with
  | handshake => exact h.handshake
  | task task => exact (h.task task).attempted 2
  | popDeferred => exact h.popDeferred.attempted 2
  | addPeer endpoint port timeout =>
    exact ⟨1, by decide, h.addConnection .peer endpoint port timeout⟩
  | shutdown => exact h.shutdown.attempted 2

/-- How often the worker tried to connect from `s` to `t`: every attempt takes a number. -/
def attemptsBetween (s t : Session) : Nat :=
  (t.worker.connections.nextId - s.worker.connections.nextId).toNat

theorem attemptsBetween_eq {k : Nat} (h : InOrder n s) (h' : InOrder (n + k) t) (hk : k < UInt32.size) :
    attemptsBetween s t = k := by
  have hs : s.worker.connections.nextId = UInt32.ofNat n := h.numbered.nextId
  have ht : t.worker.connections.nextId = UInt32.ofNat (n + k) := h'.numbered.nextId
  rw [attemptsBetween, hs, ht, Nat.add_comm, UInt32.ofNat_add, UInt32.add_sub_cancel,
    UInt32.toNat_ofNat', Nat.mod_eq_of_lt hk]

/-- From `s` to `t` the worker was operated, and tried to connect `n` times. -/
inductive Operates : Nat → Session → Session → Prop
  | refl (s : Session) : Operates 0 s s
  | operate {n : Nat} {s t : Session} (h : Operates n s t) (op : Operation) :
      Operates (n + attemptsBetween t (op.run t)) s (op.run t)
  /-- The surroundings change. -/
  | meanwhile {n : Nat} {s t : Session} (h : Operates n s t) {env : Environment}
      (passes : t.env.net.Passes env.net) : Operates n s { t with env }

theorem Operates.inOrder {m : Nat} (h : Operates m s t) (hs : InOrder n s) : InOrder (n + m) t := by
  induction h with
  | refl s => exact hs
  | operate h op ih =>
    obtain ⟨k, hk, hrun⟩ := (ih hs).operation op
    have hsmall : k < UInt32.size := Nat.lt_of_le_of_lt hk (by decide)
    rw [attemptsBetween_eq (ih hs) hrun hsmall, ← Nat.add_assoc]
    exact hrun
  | meanwhile h passes ih => exact (ih hs).meanwhile passes

theorem inOrder_fresh (config : ModuleConfig) (pid : UInt32) (env : Environment) :
    InOrder 0 (fresh config pid env) := by
  refine ⟨Registry.sound_empty env.net, fun c hc => absurd hc List.not_mem_nil, ⟨rfl, ?_, ?_⟩,
    fun _ => ⟨?_, ?_, ?_⟩, ?_⟩
  · exact fun x hx => absurd hx List.not_mem_nil
  · exact fun _ => List.nodup_nil
  · exact fun id hid => nomatch hid
  · exact fun id hid => nomatch hid
  · exact fun hs => nomatch hs
  · exact fun hs => nomatch hs

end

/-! ### Stages -/

/-- **No operation leads back to an earlier stage.** -/
theorem index_le_run (op : Operation) (s : Session) :
    s.worker.stage.index ≤ (op.run s).worker.stage.index := by
  cases op with
  | handshake =>
    -- it runs at the very beginning only
    by_cases hs : s.worker.stage = .unstarted
    · rw [hs]
      exact Nat.zero_le _
    · have hsame : s.handshake.2 = s := congrArg Prod.snd (handshake_of_stage_ne hs)
      exact Nat.le_of_eq (congrArg (·.worker.stage.index) hsame.symm)
  | task task =>
    have hstage : (task.run s).2.worker.stage = s.worker.stage ∨
        (task.run s).2.worker.stage = .terminated := (steps_task task s).declines.stage
    rw [Operation.run]
    rcases hstage with hstage | hstage
    · exact Nat.le_of_eq (congrArg Stage.index hstage.symm)
    · rw [hstage]
      exact s.worker.stage.index_le_terminated
  | popDeferred => exact Nat.le_refl _
  | addPeer endpoint port timeout => exact Nat.le_refl _
  | shutdown =>
    rw [Operation.run, s.ended_shutdown.1]
    exact s.worker.stage.index_le_terminated

theorem Operates.index_le {m : Nat} {s t : Session} (h : Operates m s t) :
    s.worker.stage.index ≤ t.worker.stage.index := by
  induction h with
  | refl s => exact Nat.le_refl _
  | operate h op ih => exact Nat.le_trans ih (index_le_run op _)
  | meanwhile h passes ih => exact ih

/-! ### Orderly workers -/

/-- Whom the worker takes for its controller and its datamanager is registered as that and alive, no
connection is kept that has failed, and while the worker runs it lacks nothing. -/
structure Orderly (s : Session) : Prop where
  controller : ∀ id, s.worker.controller = some id →
    ∃ c, s.worker.connections.get? id = some c ∧ c.alive = true ∧ c.role = .controller
  datamanager : ∀ id, s.worker.datamanager = some id →
    ∃ c, s.worker.connections.get? id = some c ∧ c.alive = true ∧ c.role = .datamanager
  alive : ∀ c ∈ s.worker.connections.connections, c.alive = true
  running : s.worker.stage = .running → s.worker.controller.isSome ∧
    s.worker.datamanager.isSome ∧ s.worker.workingSegment?.isSome

theorem Living.exists_of_role? {s : Session} (h : s.Living) {id : ConnectionId} {role : Role}
    (hrole : s.standing.role? id = some role) :
    ∃ c, s.worker.connections.get? id = some c ∧ c.alive = true ∧ c.role = role := by
  rw [role?_standing] at hrole
  obtain ⟨c, hc, hrole⟩ := Option.map_eq_some_iff.1 hrole
  exact ⟨c, hc, h c (List.mem_of_find?_eq_some hc), hrole⟩

theorem InOrder.orderly {n : Nat} {s : Session} (h : InOrder n s) (hn : n < UInt32.size) :
    s.Orderly := by
  have hstaffed := h.staffed hn
  refine ⟨fun id hid => ?_, fun id hid => ?_, h.living, fun hs => ?_⟩
  · exact h.living.exists_of_role? (hstaffed.controller id hid)
  · exact h.living.exists_of_role? (hstaffed.datamanager id hid)
  · obtain ⟨hcontroller, hdatamanager⟩ := hstaffed.complete hs
    exact ⟨hcontroller, hdatamanager, h.equipped hs⟩

/-- **A worker is orderly whatever was done to it, goes on to later stages only and ends for good,
for as long as the numbers of its connections last; once it was started it is not started again.** -/
theorem orderly_of_operates {config : ModuleConfig} {pid : UInt32} {env : Environment} {n : Nat}
    {s : Session} (h : Operates n (fresh config pid env) s) (hn : n < UInt32.size) :
    s.Orderly ∧
    (∀ m t, Operates m s t → s.worker.stage.index ≤ t.worker.stage.index ∧
      (s.worker.stage = .terminated → t.worker.stage = .terminated)) ∧
    (s.worker.stage ≠ .unstarted →
      s.handshake = (.error (.invalidState "handshake" s.worker.stage), s)) := by
  have horder := h.inOrder (inOrder_fresh config pid env)
  rw [Nat.zero_add] at horder
  refine ⟨horder.orderly hn, fun m t ht => ⟨ht.index_le, fun hs => ?_⟩, handshake_of_stage_ne⟩
  have hle := ht.index_le
  rw [hs] at hle
  exact Stage.eq_terminated_of_index_le hle

/-- A worker that was started is orderly while it runs, and after the loss of its datamanager. -/
theorem orderly_before_and_after_loss :
    let f := fresh (.ofController "127.0.0.1" 4000) 7 .cooperative
    let s := f.handshake.2.popDeferred.2
    let t := (Task.wait.run s).2
    Operates 2 f s ∧ s.worker.stage = .running ∧ s.Orderly ∧
      Operates 2 f t ∧ t.worker.stage = .terminated ∧ t.Orderly := by
  intro f s t
  have hs : Operates 2 f s := by
    have hattempts : 0 + attemptsBetween f f.handshake.2 + attemptsBetween f.handshake.2 s = 2 := by
      decide +kernel
    rw [← hattempts]
    exact ((Operates.refl f).operate .handshake).operate .popDeferred
  have ht : Operates 2 f t := by
    have hattempts : 2 + attemptsBetween s t = 2 := by decide +kernel
    have hoperates := hs.operate (.task .wait)
    rw [show (Operation.task .wait).run s = t from rfl, hattempts] at hoperates
    exact hoperates
  have hrunning : s.worker.stage = .running := by decide +kernel
  have hterminated : t.worker.stage = .terminated := by decide +kernel
  exact ⟨hs, hrunning, (orderly_of_operates hs (by decide)).1, ht, hterminated,
    (orderly_of_operates ht (by decide)).1⟩

end Session

end PipelineWorker
