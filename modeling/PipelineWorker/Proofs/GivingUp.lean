/-
Which connection a failed call costs.

A call that succeeds, or fails without any connection being at fault, leaves the connections of the
worker as they are.  One that fails because a message could not be sent or received on a connection,
or because the other end took leave during an exchange, costs the worker that connection and no
other.

* `KeepsAll`, `GivesUp` — no connection is given up, or just the one;
* `Intact` — what holds of a call for as long as nothing has failed;
* `ending_awaitReply`, `ending_exchange`, `ending_waitUntil` — the loops and what is made of them;
* `Engaged` — where calls are made: between operations, and inside of a handshake;
* `ending_of_engaged` — **every call ends in one of the listed ways**.
-/
import PipelineWorker.Proofs.Operating

namespace PipelineWorker

namespace Standing

variable {p : Standing} {id : ConnectionId} {role : Role}

theorem roster_lose (id : ConnectionId) (p : Standing) :
    (p.lose id).roster = p.roster.eraseP (·.1 = id) := by
  unfold lose ended
  split
  · rfl
  · split <;> rfl

theorem controller_lose (id : ConnectionId) (p : Standing) :
    (p.lose id).controller = if p.controller = some id then none else p.controller := by
  unfold lose ended
  split
  · rfl
  · split <;> rfl

theorem datamanager_lose (id : ConnectionId) (p : Standing) :
    (p.lose id).datamanager = if p.datamanager = some id then none else p.datamanager := by
  unfold lose ended
  split
  · rfl
  · split <;> rfl

theorem stage_ended (p : Standing) :
    p.ended.stage = if p.stage.isHandshaking then p.stage else .terminated := by
  unfold ended
  split <;> rfl

/-- The worker ends with whom it depends on, but never inside of its handshake. -/
theorem stage_lose (h : p.role? id = some role) :
    (p.lose id).stage =
      if role = .peer ∨ p.stage.isHandshaking then p.stage else .terminated := by
  have hended : (p.without id).ended.stage =
      if p.stage.isHandshaking then p.stage else .terminated := stage_ended (p.without id)
  rw [lose, h, Option.getD_some]
  cases role with
  | peer => rfl
  | controller => simpa using hended
  | datamanager => simpa using hended

end Standing

namespace Session

/-! ### Keeping and giving up -/

/-- The connections with their roles, oldest first, and whether they can be used. -/
def registered (s : Session) : List (ConnectionId × Role × Bool) :=
  s.worker.connections.connections.map fun c => (c.id, c.role, c.alive)

/-- From `s` to `t` no connection was given up. -/
structure KeepsAll (s t : Session) : Prop where
  registered : t.registered = s.registered
  controller : t.worker.controller = s.worker.controller
  datamanager : t.worker.datamanager = s.worker.datamanager
  stage : t.worker.stage = s.worker.stage

/-- From `s` to `t` the connection `id` was given up, and no other. -/
structure GivesUp (id : ConnectionId) (s t : Session) : Prop where
  registered : t.registered = s.registered.filter (·.1 ≠ id)
  controller : t.worker.controller =
    if s.worker.controller = some id then none else s.worker.controller
  datamanager : t.worker.datamanager =
    if s.worker.datamanager = some id then none else s.worker.datamanager
  stage : ∃ role alive, (id, role, alive) ∈ s.registered ∧ t.worker.stage =
    if role = .peer ∨ s.worker.stage.isHandshaking then s.worker.stage else .terminated

/-- How a call that is made in `s` can end: with what answer, and in which session. -/
inductive Ending {α : Type} (s : Session) : Except CoordinatorError α → Session → Prop
  | done {t : Session} (a : α) (keeps : KeepsAll s t) : Ending s (.ok a) t
  /-- A segment that is announced on the way cannot be attached. -/
  | unattachable {u t : Session} {m : Message} {e : CoordinatorError} (before : Steps s u)
      (failed : u.takeAnnouncement m = (.error e, t)) (keeps : KeepsAll s t) :
      Ending s (.error e) t
  | unpolled {u t : Session} {deadline : Option Nat} {e : NetError} (before : Steps s u)
      (failed : u.pollWatched deadline = (.error e, t)) (keeps : KeepsAll s t) :
      Ending s (.error (.net e)) t
  /-- There is no such connection. -/
  | unknown {id : ConnectionId} (missing : ∀ x ∈ s.registered, x.1 ≠ id) :
      Ending s (.error (.net (.unknownConnection id))) s
  /-- There is no datamanager. -/
  | unmanaged (missing : s.worker.datamanager = none) : Ending s (.error .datamanagerUnreachable) s
  /-- There is nobody to wait for. -/
  | alone {t : Session} (controller : s.worker.controller = none)
      (datamanager : s.worker.datamanager = none) (keeps : KeepsAll s t) :
      Ending s (.error (.missingConnection .controller)) t
  | unsent {id : ConnectionId} {m : Message} {e : NetError} {u t : Session} {event : Event}
      {err : CoordinatorError} (failed : s.send id m = (.error e, u))
      (answered : (u.report event).sendFailed id = (err, t)) (gives_up : GivesUp id s t) :
      Ending s (.error err) t
  | unreceived {id : ConnectionId} {deadline : Option Nat} {e : NetError} {u v t : Session}
      {err : CoordinatorError} (before : Steps s u)
      (failed : u.receiveBy deadline id = (.error e, v))
      (answered : v.receiveFailed id e = (err, t)) (gives_up : GivesUp id s t) :
      Ending s (.error err) t
  /-- The other end takes leave where a reply was expected. -/
  | farewell {id : ConnectionId} {m : Message} {u v t : Session} {err : CoordinatorError}
      (before : Steps s u) (received : u.receive id = (.ok m, v)) (leave : m.kind = .socketClosed)
      (answered : v.connectionLost id = (err, t)) (gives_up : GivesUp id s t) :
      Ending s (.error err) t

/-- A session in which a call can be made. -/
structure Tidy (s : Session) : Prop where
  sound : s.worker.connections.Sound s.env.net
  living : s.Living
  staffed : s.standing.Staffed
  distinct : (s.standing.roster.map (·.1)).Nodup

theorem InOrder.tidy {n : Nat} {s : Session} (h : InOrder n s) (hn : n < UInt32.size) : s.Tidy :=
  ⟨h.sound, h.living, h.staffed hn, h.numbered.distinct (Nat.le_of_lt hn)⟩

section

variable {o s t u : Session} {id : ConnectionId} {role : Role}

theorem Ending.map {α β : Type} {x : Except CoordinatorError α} (h : Ending s x t) (f : α → β) :
    Ending s (x.map f) t := by
  cases h with
  | done a keeps => exact .done (f a) keeps
  | unattachable before failed keeps => exact .unattachable before failed keeps
  | unpolled before failed keeps => exact .unpolled before failed keeps
  | unknown missing => exact .unknown missing
  | unmanaged missing => exact .unmanaged missing
  | alone controller datamanager keeps => exact .alone controller datamanager keeps
  | unsent failed answered gives_up => exact .unsent failed answered gives_up
  | unreceived before failed answered gives_up => exact .unreceived before failed answered gives_up
  | farewell before received leave answered gives_up =>
    exact .farewell before received leave answered gives_up

/-! ### What the standing tells -/

/-- Where all are alive, the standing tells of all connections. -/
theorem Living.registered_eq (h : s.Living) :
    s.registered = s.standing.roster.map fun x => (x.1, x.2, true) := by
  rw [registered, standing, Registry.roster, List.map_map]
  refine List.map_congr_left fun c hc => ?_
  rw [h c hc]
  rfl

theorem keepsAll_of_standing (hs : s.Living) (ht : t.Living) (h : t.standing = s.standing) :
    KeepsAll s t := by
  refine ⟨?_, congrArg Standing.controller h, congrArg Standing.datamanager h,
    congrArg Standing.stage h⟩
  rw [ht.registered_eq, hs.registered_eq, h]

theorem missing_of_role? (h : s.standing.role? id = none) : ∀ x ∈ s.registered, x.1 ≠ id := by
  rw [role?_standing, Option.map_eq_none_iff] at h
  intro x hx
  obtain ⟨c, hc, rfl⟩ := List.mem_map.1 hx
  exact of_decide_eq_false (Bool.eq_false_iff.2 (List.find?_eq_none.1 h c hc))

/-- **The loss of a connection in the standing is the loss of that connection and no other.** -/
theorem Tidy.givesUp (hs : s.Tidy) (ht : t.Living) (hrole : s.standing.role? id = some role)
    (h : t.standing = s.standing.lose id) : GivesUp id s t := by
  refine ⟨?_, ?_, ?_, role, true, ?_, ?_⟩
  · rw [ht.registered_eq, hs.living.registered_eq, h, Standing.roster_lose,
      Registry.eraseP_eq_filter hs.distinct, List.filter_map]
    rfl
  · exact (congrArg Standing.controller h).trans (Standing.controller_lose id s.standing)
  · exact (congrArg Standing.datamanager h).trans (Standing.datamanager_lose id s.standing)
  · obtain ⟨x, hx, rfl⟩ := Option.map_eq_some_iff.1 hrole
    have hid : x.1 = id := by simpa using List.find?_some hx
    rw [hs.living.registered_eq, ← hid]
    exact List.mem_map_of_mem (List.mem_of_find?_eq_some hx)
  · exact (congrArg Standing.stage h).trans (Standing.stage_lose hrole)

/-- A worker that cannot send to a connection loses it, the datamanager's like any other. -/
theorem standing_sendFailed (h : s.standing.Staffed) :
    (s.sendFailed id).2.standing = s.standing.lose id := by
  rw [sendFailed]
  split
  · rename_i hd
    have hrole : s.standing.role? id = some .datamanager := h.datamanager id hd
    rw [standing_terminate, standing_report, standing_drop, Standing.lose, hrole]
    rfl
  · exact s.standing_connectionLost id

/-! ### As long as nothing fails -/

/-- From `o` to `s` a call has gone on without a failure. -/
structure Intact (o s : Session) : Prop where
  steps : Steps o s
  standing : s.standing = o.standing
  living : s.Living

theorem Tidy.intact (h : o.Tidy) : Intact o o := ⟨.refl o, rfl, h.living⟩

theorem Intact.keepsAll (h : Intact o s) (ho : o.Tidy) : KeepsAll o s :=
  keepsAll_of_standing ho.living h.living h.standing

theorem Intact.step (h : Intact o s) (hstep : Step s t) (hstanding : t.standing = s.standing)
    (hliving : t.Living) : Intact o t :=
  ⟨h.steps.trans (Relation.ReflTransGen.single hstep), hstanding.trans h.standing, hliving⟩

theorem Intact.takeAnnouncement {m : Message} {x : Except CoordinatorError Unit} (h : Intact o s)
    (ht : s.takeAnnouncement m = (x, t)) : Intact o t := by
  have hliving := h.living.takeAnnouncement ht
  obtain rfl : (s.takeAnnouncement m).2 = t := congrArg Prod.snd ht
  exact h.step (.takeAnnouncement m s) (s.standing_takeAnnouncement m) hliving

theorem Intact.receiveBy {deadline : Option Nat} {x : Option Message} (h : Intact o s)
    (hr : s.receiveBy deadline id = (.ok x, t)) : Intact o t := by
  have hliving := h.living.receiveBy_ok hr
  obtain rfl : (s.receiveBy deadline id).2 = t := congrArg Prod.snd hr
  exact h.step (.use (.receive deadline s)) (s.standing_receiveBy deadline id) hliving

theorem receiveBy_of_receive {x : Except NetError Message} (h : s.receive id = (x, t)) :
    s.receiveBy none id = (x.map some, t) := by
  rw [receiveBy, h]

theorem Intact.receive {m : Message} (h : Intact o s) (hr : s.receive id = (.ok m, t)) :
    Intact o t :=
  h.receiveBy (receiveBy_of_receive hr)

theorem Intact.report (h : Intact o s) (event : Event) (silent : event.message? = none) :
    Intact o (s.report event) :=
  -- the event may be about any connection
  h.step (.use (.report event s silent : Use ⟨0⟩ s (s.report event))) rfl h.living

theorem Intact.defer (h : Intact o s) (m : Message) : Intact o (s.defer m) :=
  h.step (.use (.defer m s : Use ⟨0⟩ s (s.defer m))) rfl h.living

theorem Intact.send {m : Message} (h : Intact o s) (hs : s.send id m = (.ok (), t)) :
    Intact o t := by
  have hliving := h.living.send_ok hs
  obtain rfl : (s.send id m).2 = t := congrArg Prod.snd hs
  exact h.step (.use (.send m s)) (s.standing_send id m) hliving

theorem Intact.popDeferred (h : Intact o s) : Intact o s.popDeferred.2 :=
  h.step (.pop s) rfl h.living

theorem Intact.polled (h : Intact o s) (deadline : Option Nat) : Intact o (s.polled deadline) :=
  h.popDeferred.step (.poll deadline s.popDeferred.2) rfl h.living

/-! ### Where it fails -/

theorem Intact.unattachable {α : Type} {m : Message} {e : CoordinatorError} (h : Intact o s)
    (ho : o.Tidy) (ht : s.takeAnnouncement m = (.error e, t)) : Ending (α := α) o (.error e) t :=
  .unattachable h.steps ht ((h.takeAnnouncement ht).keepsAll ho)

theorem Intact.unreceived {α : Type} {deadline : Option Nat} {e : NetError}
    {err : CoordinatorError} (h : Intact o s) (ho : o.Tidy)
    (hrole : o.standing.role? id = some role) (hr : s.receiveBy deadline id = (.error e, t))
    (hf : t.receiveFailed id e = (err, u)) : Ending (α := α) o (.error err) u := by
  refine .unreceived h.steps hr hf (ho.givesUp ?_ hrole ?_)
  · have hliving := living_receiveFailed (h.living.receiveBy_error hr) e
    rw [hf] at hliving
    exact hliving
  · have hstanding := s.standing_receiveBy deadline id
    have hlost := t.standing_receiveFailed id e
    rw [hr] at hstanding
    rw [hf] at hlost
    rw [hlost, hstanding, h.standing]

theorem Intact.farewell {α : Type} {m : Message} {err : CoordinatorError} (h : Intact o s)
    (ho : o.Tidy) (hrole : o.standing.role? id = some role) (hr : s.receive id = (.ok m, t))
    (hk : m.kind = .socketClosed) (hl : t.connectionLost id = (err, u)) :
    Ending (α := α) o (.error err) u := by
  have ht := h.receive hr
  refine .farewell h.steps hr hk hl (ho.givesUp ?_ hrole ?_)
  · have hbut : t.LivingBut id := Registry.Living.but ht.living id
    have hliving := hbut.connectionLost
    rw [hl] at hliving
    exact hliving
  · have hlost := t.standing_connectionLost id
    rw [hl] at hlost
    rw [hlost, ht.standing]

theorem Tidy.unsent {α : Type} {m : Message} {e : NetError} {err : CoordinatorError}
    (ho : o.Tidy) (hrole : o.standing.role? id = some role) (hs : o.send id m = (.error e, t))
    (event : Event) (hf : (t.report event).sendFailed id = (err, u)) :
    Ending (α := α) o (.error err) u := by
  have hstanding : (t.report event).standing = o.standing := by
    have hsend := o.standing_send id m
    rw [hs] at hsend
    exact hsend
  refine .unsent hs hf (ho.givesUp ?_ hrole ?_)
  · have hbut : t.LivingBut id := ho.living.send_error hs
    have hliving := living_sendFailed (s := t.report event) hbut
    rw [hf] at hliving
    exact hliving
  · have hlost : ((t.report event).sendFailed id).2.standing = (t.report event).standing.lose id :=
      standing_sendFailed (hstanding.symm ▸ ho.staffed)
    rw [hf] at hlost
    rw [hlost, hstanding]

/-! ### Requests and replies -/

theorem ending_awaitReply (ho : o.Tidy) (hrole : o.standing.role? id = some role) (role' : Role)
    (expected : List Kind) (h : Intact o s) :
    Ending o (s.awaitReply id role' expected).1 (s.awaitReply id role' expected).2 := by
  -- The induction follows the receives; for as long as they succeed nothing is lost.
  fun_induction awaitReply id role' expected s with
  | case1 s e t hr err u hf => exact h.unreceived ho hrole (receiveBy_of_receive hr) hf
  | case2 s m t hr hk e u ht => exact (h.receive hr).unattachable ho ht
  | case3 s m t hr hk u ht ih => exact ih ((h.receive hr).takeAnnouncement ht)
  | case4 s m t hr => exact .done m ((h.receive hr).keepsAll ho)
  | case5 s m t hr hk hw hclosed err u hl => exact h.farewell ho hrole hr hclosed hl
  | case6 s m t hr hk hw hclosed ih => exact ih (((h.receive hr).report _ rfl).defer m)

/-- **An exchange costs the connection that it failed on, if any.** -/
theorem ending_exchange (ho : o.Tidy) (id : ConnectionId) (request : Message)
    (expected : List Kind) :
    Ending o (o.exchange id request expected).1 (o.exchange id request expected).2 := by
  have hrole := o.role?_standing id
  rw [exchange]
  cases hc : o.worker.connections.get? id with
  | none =>
    rw [hc] at hrole
    exact .unknown (missing_of_role? hrole)
  | some c =>
    rw [hc] at hrole
    dsimp only
    cases hs : o.send id request with
    | mk x t =>
      cases x with
      | error e => exact ho.unsent hrole hs (.exchangeSendFailed c.role e) rfl
      | ok _ => exact ending_awaitReply ho hrole c.role expected (ho.intact.send hs)

theorem ending_exchangeWithDatamanager (ho : o.Tidy) (request : Message) (expected : List Kind) :
    Ending o (o.exchangeWithDatamanager request expected).1
      (o.exchangeWithDatamanager request expected).2 := by
  rw [exchangeWithDatamanager]
  cases hd : o.worker.datamanager with
  | none => exact .unmanaged hd
  | some id => exact ending_exchange ho id request expected

theorem ending_sendToDatamanager (ho : o.Tidy) (m : Message) :
    Ending o (o.sendToDatamanager m).1 (o.sendToDatamanager m).2 := by
  rw [sendToDatamanager]
  cases hd : o.worker.datamanager with
  | none => exact .unmanaged hd
  | some id =>
    have hrole : o.standing.role? id = some .datamanager := ho.staffed.datamanager id hd
    dsimp only
    cases hs : o.send id m with
    | mk x t =>
      cases x with
      | error e => exact ho.unsent hrole hs (.datamanagerSendFailed e m.kind) rfl
      | ok _ => exact .done () ((ho.intact.send hs).keepsAll ho)

theorem ending_receiveFromDatamanager (ho : o.Tidy) :
    Ending o o.receiveFromDatamanager.1 o.receiveFromDatamanager.2 := by
  rw [receiveFromDatamanager]
  cases hd : o.worker.datamanager with
  | none => exact .unmanaged hd
  | some id =>
    have hrole : o.standing.role? id = some .datamanager := ho.staffed.datamanager id hd
    dsimp only
    cases hr : o.receive id with
    | mk x t =>
      cases x with
      | error e => exact ho.intact.unreceived ho hrole (receiveBy_of_receive hr) rfl
      | ok m => exact .done m ((ho.intact.receive hr).keepsAll ho)

/-! ### Waiting -/

theorem Tidy.role?_of_watched (ho : o.Tidy) (hid : id ∈ o.standing.watched) :
    ∃ role, o.standing.role? id = some role := by
  rcases List.mem_append.1 hid with hid | hid
  · exact ⟨_, ho.staffed.controller id (Option.mem_toList.1 hid)⟩
  · exact ⟨_, ho.staffed.datamanager id (Option.mem_toList.1 hid)⟩

/-- A read from a connection goes on without a failure, or costs that connection. -/
theorem ending_readFrom (ho : o.Tidy) (deadline : Option Nat) (h : Intact o s)
    (hrole : o.standing.role? id = some role) :
    Ending o (s.readFrom deadline id).1 (s.readFrom deadline id).2 ∧
      ((∃ x, (s.readFrom deadline id).1 = .ok x) → Intact o (s.readFrom deadline id).2) := by
  rw [readFrom]
  cases hr : s.receiveBy deadline id with
  | mk x t =>
    rcases x with e | _ | m
    · refine ⟨h.unreceived ho hrole hr rfl, ?_⟩
      rintro ⟨x, hx⟩
      cases hx
    · have ht := (h.receiveBy hr).report (.deadlineInsideFrame id) rfl
      exact ⟨.done none (ht.keepsAll ho), fun _ => ht⟩
    · have ht := (h.receiveBy hr).report (.controlReceived m.kind id) rfl
      exact ⟨.done (some m) (ht.keepsAll ho), fun _ => ht⟩

theorem ending_nextMessage (ho : o.Tidy) (deadline : Option Nat) (h : Intact o s) :
    Ending o (s.nextMessage deadline).1 (s.nextMessage deadline).2 ∧
      ((∃ x, (s.nextMessage deadline).1 = .ok x) → Intact o (s.nextMessage deadline).2) := by
  have hnext := s.next_nextMessage deadline
  generalize s.nextMessage deadline = r at hnext ⊢
  cases hnext with
  | deferred m => exact ⟨.done (some m) (h.popDeferred.keepsAll ho), fun _ => h.popDeferred⟩
  | nobody none_watched => exact ⟨.done none (h.popDeferred.keepsAll ho), fun _ => h.popDeferred⟩
  | unpolled f poll =>
    refine ⟨.unpolled h.popDeferred.steps (Prod.ext poll rfl) ((h.polled deadline).keepsAll ho), ?_⟩
    rintro ⟨x, hx⟩
    cases hx
  | late poll =>
    exact ⟨.done none ((h.polled deadline).keepsAll ho), fun _ => h.polled deadline⟩
  | @ready id c watched found =>
    have hwatched : id ∈ o.standing.watched := h.standing ▸ watched
    obtain ⟨role, hrole⟩ := ho.role?_of_watched hwatched
    exact ending_readFrom ho deadline (h.polled deadline) hrole

/-- **A wait costs the connection that it failed on, if any.** -/
theorem ending_waitUntil (ho : o.Tidy) (deadline : Option Nat) (h : Intact o s) :
    Ending o (s.waitUntil deadline).1 (s.waitUntil deadline).2 := by
  -- The induction follows the messages; an announcement that is taken up costs nothing.
  fun_induction waitUntil deadline s with
  | case1 s e t hn =>
    have hnext := (ending_nextMessage ho deadline h).1
    rw [hn] at hnext
    exact hnext
  | case2 s t hn =>
    have hnext := (ending_nextMessage ho deadline h).1
    rw [hn] at hnext
    exact hnext
  | case3 s m t hn hk e u ht =>
    -- an announcement that cannot be attached costs nothing but the wait
    have hnext := (ending_nextMessage ho deadline h).2 ⟨_, congrArg Prod.fst hn⟩
    rw [hn] at hnext
    exact hnext.unattachable ho ht
  | case4 s m t hn hk u ht ih =>
    -- an announcement that is taken up
    have hnext := (ending_nextMessage ho deadline h).2 ⟨_, congrArg Prod.fst hn⟩
    rw [hn] at hnext
    exact ih (hnext.takeAnnouncement ht)
  | case5 s m t hn =>
    have hnext := (ending_nextMessage ho deadline h).1
    rw [hn] at hnext
    exact hnext

/-- Without a deadline, a wait that ends without a message had nobody to wait for. -/
theorem Tidy.alone_of_waitUntil (ho : o.Tidy) (h : (o.waitUntil none).1 = .ok none) :
    o.worker.controller = none ∧ o.worker.datamanager = none := by
  have hnobody : o.standing.watched = [] := by
    refine List.eq_nil_iff_forall_not_mem.2 fun id hid => ?_
    obtain ⟨role, hrole⟩ := ho.role?_of_watched hid
    rw [missing_of_waitUntil ho.sound h hid] at hrole
    cases hrole
  obtain ⟨hc, hd⟩ := List.append_eq_nil_iff.1 hnobody
  exact ⟨Option.toList_eq_nil_iff.1 hc, Option.toList_eq_nil_iff.1 hd⟩

theorem ending_wait (ho : o.Tidy) : Ending o (o.wait.1.map some) o.wait.2 := by
  have hending := ending_waitUntil ho none ho.intact
  rw [wait_eq]
  cases hw : o.waitUntil none with
  | mk x t =>
    rw [hw] at hending
    rcases x with e | _ | m
    · exact hending
    · cases hending with
      | done a keeps =>
        obtain ⟨hcontroller, hdatamanager⟩ := ho.alone_of_waitUntil (congrArg Prod.fst hw)
        exact .alone hcontroller hdatamanager keeps
    · exact hending

end

end Session

/-! ### Calls -/

namespace Coordinated

/-- The first steps of the handshake, up to where the worker knows the datamanager. -/
def contactBoth : Coordinated ConnectionId := do
  contactController
  let port ← awaitAssignment
  contactDatamanager port

theorem ensures_contactBoth {n : Nat} {s : Session} (h : s.InOrder n) :
    Ensures contactBoth s (fun _ => Session.InOrder (n + 2)) (Session.Attempted n 2) := by
  refine .bind (h.contactController.mono (fun _ t₁ h₁ => ?_) fun _ ht => ht.mono (by decide))
  refine .bind (h₁.awaitAssignment.mono (fun port t₂ h₂ => ?_) fun _ ht => ⟨1, by decide, ht⟩)
  exact (h₂.contactDatamanager port).mono (fun _ _ h₃ => h₃) fun _ ht => ht.trans

theorem Ensures.of_ok {α : Type} {x : Coordinated α} {s t : Session} {Q : α → Session → Prop}
    {F : Session → Prop} {a : α} (hx : Ensures x s Q F) (h : x s = (.ok a, t)) : Q a t := by
  rw [Ensures, h] at hx
  exact hx

end Coordinated

namespace Session

variable {f s : Session} {n : Nat}

/-- Where a worker makes calls that was new in `f` and has tried to connect `n` times since:
between two operations, and at three places of its handshake. -/
inductive Engaged (f : Session) : Nat → Session → Prop
  | between {n : Nat} {s : Session} (h : Operates n f s) : Engaged f n s
  /-- The controller is to name the datamanager's port. -/
  | assignment {n : Nat} {s t : Session} (h : Operates n f s)
      (unstarted : s.worker.stage = .unstarted)
      (contacted : Coordinated.contactController s = (.ok (), t)) : Engaged f (n + 1) t
  /-- The datamanager is asked for the working segment. -/
  | request {n : Nat} {s t : Session} {id : ConnectionId} (h : Operates n f s)
      (unstarted : s.worker.stage = .unstarted)
      (contacted : Coordinated.contactBoth s = (.ok id, t)) :
      Engaged f (n + 2) { t with worker := { t.worker with stage := .awaitingKey } }
  /-- The process id is sent to the datamanager. -/
  | announcement {n : Nat} {s t u : Session} {id : ConnectionId} (h : Operates n f s)
      (unstarted : s.worker.stage = .unstarted)
      (contacted : Coordinated.contactBoth s = (.ok id, t))
      (obtained : Coordinated.obtainSegment id t = (.ok (), u)) : Engaged f (n + 2) u

theorem Engaged.inOrder {config : ModuleConfig} {pid : UInt32} {env : Environment}
    (h : Engaged (fresh config pid env) n s) : InOrder n s := by
  have operated {m : Nat} {t : Session} (h : Operates m (fresh config pid env) t) :
      InOrder m t := by
    have horder := h.inOrder (inOrder_fresh config pid env)
    rw [Nat.zero_add] at horder
    exact horder
  cases h with
  | between h => exact operated h
  | assignment h unstarted contacted => exact (operated h).contactController.of_ok contacted
  | request h unstarted contacted =>
    have hcontacted := (Coordinated.ensures_contactBoth (operated h)).of_ok contacted
    exact hcontacted.enter .awaitingKey (by decide)
  | announcement h unstarted contacted obtained =>
    have hcontacted := (Coordinated.ensures_contactBoth (operated h)).of_ok contacted
    exact ((hcontacted.obtainSegment _).of_ok obtained).1

/-- **A call keeps all connections, or costs the one that it failed on and whatever that was to the
worker, for as long as the numbers of the connections last.** -/
theorem ending_of_engaged {config : ModuleConfig} {pid : UInt32} {env : Environment}
    (h : Engaged (fresh config pid env) n s) (hn : n < UInt32.size) (task : Task) :
    Ending s (task.run s).1 (task.run s).2 := by
  have hs : s.Tidy := h.inOrder.tidy hn
  cases task with
  | exchange id request expected => exact (ending_exchange hs id request expected).map some
  | exchangeWithDatamanager request expected =>
    exact (ending_exchangeWithDatamanager hs request expected).map some
  | sendToDatamanager m => exact (ending_sendToDatamanager hs m).map fun _ => none
  | receiveFromDatamanager => exact (ending_receiveFromDatamanager hs).map some
  | wait => exact ending_wait hs
  | check timeout => exact ending_waitUntil hs _ hs.intact

/-- A worker that was started waits, and loses its datamanager. -/
theorem ending_of_engaged_cooperative :
    let f := fresh (.ofController "127.0.0.1" 4000) 7 .cooperative
    let s := f.handshake.2.popDeferred.2
    Engaged f 2 s ∧ (Task.wait.run s).1 = .error (.peerDisconnected .datamanager) ∧
      Ending s (Task.wait.run s).1 (Task.wait.run s).2 := by
  intro f s
  have hs : Engaged f 2 s := by
    have hattempts : 0 + attemptsBetween f f.handshake.2 + attemptsBetween f.handshake.2 s = 2 := by
      decide +kernel
    have hoperates := ((Operates.refl f).operate .handshake).operate .popDeferred
    rw [← hattempts]
    exact .between hoperates
  have herror : (Task.wait.run s).1 = .error (.peerDisconnected .datamanager) := by
    decide +kernel
  exact ⟨hs, herror, ending_of_engaged hs (by decide) .wait⟩

end Session

end PipelineWorker
