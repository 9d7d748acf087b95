/-
What the coordinator does, one thing at a time.

`Use` lists all that the coordinator ever does with one connection, and `Step` what it does while it
waits for a message.  Every operation is a sequence of these; what each of them keeps, the operations
keep.

* `uses_exchange`, `uses_sendToDatamanager`, `uses_receiveFromDatamanager` — operations on one
  connection use that connection only;
* `next_nextMessage` — all that a wait for the next message can come to;
* `steps_waitUntil` — a wait polls, and uses the connections that it finds ready;
* `Uses.get?_of_ne` — the use of a connection leaves all others alone;
* `Steps.keeps_segments`, `Steps.isSome_segments` — what announcements keep of the segments is kept
  whatever is done, and segments are never given back.
-/
import Mathlib.Logic.Relation
import PipelineWorker.Coordinator.Exchange
import PipelineWorker.Proofs.Registry

namespace PipelineWorker

namespace Session

/-- One thing that the coordinator does with connection `id`. -/
inductive Use (id : ConnectionId) : Session → Session → Prop
  | report (event : Event) (s : Session) (silent : event.message? = none) :
      Use id s (s.report event)
  | send (m : Message) (s : Session) : Use id s (s.send id m).2
  | receive (deadline : Option Nat) (s : Session) : Use id s (s.receiveBy deadline id).2
  | takeAnnouncement (m : Message) (s : Session) : Use id s (s.takeAnnouncement m).2
  | defer (m : Message) (s : Session) : Use id s (s.defer m)
  | drop (s : Session) : Use id s (s.drop id).2
  | terminate (s : Session) : Use id s s.terminate

/-- From `s` to `t` the coordinator used connection `id` and did nothing else. -/
def Uses (id : ConnectionId) (s t : Session) : Prop := Relation.ReflTransGen (Use id) s t

/-- One thing that the coordinator does while it waits. -/
inductive Step : Session → Session → Prop
  | use {id : ConnectionId} {s t : Session} (h : Use id s t) : Step s t
  | poll (deadline : Option Nat) (s : Session) : Step s (s.pollWatched deadline).2
  | takeAnnouncement (m : Message) (s : Session) : Step s (s.takeAnnouncement m).2
  | pop (s : Session) : Step s s.popDeferred.2

/-- From `s` to `t` the coordinator waited, and used what it found. -/
def Steps (s t : Session) : Prop := Relation.ReflTransGen Step s t

section

variable {id : ConnectionId} {s t u : Session} {P : Session → Session → Prop}

theorem Uses.refl (id : ConnectionId) (s : Session) : Uses id s s := Relation.ReflTransGen.refl

theorem Uses.trans (h : Uses id s t) (h' : Uses id t u) : Uses id s u :=
  Relation.ReflTransGen.trans h h'

theorem Use.uses (h : Use id s t) : Uses id s t := Relation.ReflTransGen.single h

/-- What every use does to the session, any number of them do. -/
theorem Uses.keeps (h : Uses id s t) (refl : ∀ s, P s s)
    (trans : ∀ {s t u}, P s t → P t u → P s u) (use : ∀ {s t}, Use id s t → P s t) : P s t := by
  induction h with
  | refl => exact refl s
  | tail _ hlast ih => exact trans ih (use hlast)

theorem Steps.refl (s : Session) : Steps s s := Relation.ReflTransGen.refl

theorem Steps.trans (h : Steps s t) (h' : Steps t u) : Steps s u :=
  Relation.ReflTransGen.trans h h'

theorem Uses.steps (h : Uses id s t) : Steps s t :=
  h.keeps Steps.refl Steps.trans fun use => Relation.ReflTransGen.single (.use use)

theorem Steps.keeps (h : Steps s t) (refl : ∀ s, P s s)
    (trans : ∀ {s t u}, P s t → P t u → P s u) (step : ∀ {s t}, Step s t → P s t) : P s t := by
  induction h with
  | refl => exact refl s
  | tail _ hlast ih => exact trans ih (step hlast)

end

/-! ### One connection -/

theorem uses_connectionLost (id : ConnectionId) (s : Session) :
    Uses id s (s.connectionLost id).2 := by
  have hdrop : Uses id s (s.drop id).2 := (Use.drop s).uses
  rw [connectionLost]
  dsimp only
  split
  · exact hdrop.trans (Use.report _ _ rfl).uses
  · exact (hdrop.trans (Use.report _ _ rfl).uses).trans (Use.terminate _).uses

theorem uses_receiveFailed (id : ConnectionId) (e : NetError) (s : Session) :
    Uses id s (s.receiveFailed id e).2 := by
  unfold receiveFailed
  split
  · exact s.uses_connectionLost id
  · exact (Use.report _ s rfl).uses.trans (uses_connectionLost id _)

theorem uses_sendFailed (id : ConnectionId) (s : Session) : Uses id s (s.sendFailed id).2 := by
  rw [sendFailed]
  split
  · exact ((Use.drop s).uses.trans (Use.report _ _ rfl).uses).trans (Use.terminate _).uses
  · exact s.uses_connectionLost id

theorem uses_send {id : ConnectionId} {m : Message} {s t : Session} {x : Except NetError Unit}
    (h : s.send id m = (x, t)) : Uses id s t := by
  obtain rfl : (s.send id m).2 = t := congrArg Prod.snd h
  exact (Use.send m s).uses

theorem uses_receive {id : ConnectionId} {s t : Session} {x : Except NetError Message}
    (h : s.receive id = (x, t)) : Uses id s t := by
  obtain rfl : (s.receive id).2 = t := congrArg Prod.snd h
  exact (Use.receive none s).uses

theorem uses_takeAnnouncement (id : ConnectionId) {m : Message} {s t : Session}
    {x : Except CoordinatorError Unit} (h : s.takeAnnouncement m = (x, t)) : Uses id s t := by
  obtain rfl : (s.takeAnnouncement m).2 = t := congrArg Prod.snd h
  exact (Use.takeAnnouncement m s).uses

theorem uses_awaitReply (id : ConnectionId) (role : Role) (expected : List Kind) (s : Session) :
    Uses id s (s.awaitReply id role expected).2 := by
  -- The induction follows the receives, all of them on this connection.
  fun_induction awaitReply id role expected s with
  | case1 s e t hr e' u hf =>
    have hfailed := t.uses_receiveFailed id e
    rw [hf] at hfailed
    exact (uses_receive hr).trans hfailed
  | case2 s m t hr _ e u ht => exact (uses_receive hr).trans (uses_takeAnnouncement id ht)
  | case3 s m t hr _ u ht ih =>
    exact ((uses_receive hr).trans (uses_takeAnnouncement id ht)).trans ih
  | case4 s m t hr => exact uses_receive hr
  | case5 s m t hr _ _ _ e u hl =>
    have hlost := t.uses_connectionLost id
    rw [hl] at hlost
    exact (uses_receive hr).trans hlost
  | case6 s m t hr _ _ _ ih =>
    have hreport : Uses id t (t.report (.deferring m.kind role)) := (Use.report _ t rfl).uses
    exact (((uses_receive hr).trans hreport).trans (Use.defer m _).uses).trans ih

/-- **An exchange uses the connection that it is asked for on.** -/
theorem uses_exchange (id : ConnectionId) (request : Message) (expected : List Kind)
    (s : Session) : Uses id s (s.exchange id request expected).2 := by
  rw [exchange]
  split
  · exact .refl id s
  · rename_i c hc
    cases hsend : s.send id request with
    | mk x t =>
      cases x with
      | error e =>
        have hreport : Uses id t (t.report (.exchangeSendFailed c.role e)) :=
          (Use.report _ t rfl).uses
        exact ((uses_send hsend).trans hreport).trans (uses_sendFailed id _)
      | ok _ => exact (uses_send hsend).trans (t.uses_awaitReply id c.role expected)

/-! ### The datamanager -/

theorem uses_sendToDatamanager {id : ConnectionId} {s : Session}
    (hd : s.worker.datamanager = some id) (m : Message) :
    Uses id s (s.sendToDatamanager m).2 := by
  rw [sendToDatamanager, hd]
  dsimp only
  cases hsend : s.send id m with
  | mk x t =>
    cases x with
    | error e =>
      have hreport : Uses id t (t.report (.datamanagerSendFailed e m.kind)) :=
        (Use.report _ t rfl).uses
      exact ((uses_send hsend).trans hreport).trans (uses_sendFailed id _)
    | ok _ => exact uses_send hsend

theorem uses_receiveFromDatamanager {id : ConnectionId} {s : Session}
    (hd : s.worker.datamanager = some id) : Uses id s s.receiveFromDatamanager.2 := by
  rw [receiveFromDatamanager, hd]
  dsimp only
  cases hr : s.receive id with
  | mk x t =>
    cases x with
    | error e => exact (uses_receive hr).trans (t.uses_receiveFailed id e)
    | ok m => exact uses_receive hr

theorem steps_sendToDatamanager (m : Message) (s : Session) :
    Steps s (s.sendToDatamanager m).2 := by
  cases hd : s.worker.datamanager with
  | none =>
    rw [sendToDatamanager, hd]
    exact .refl s
  | some id => exact (uses_sendToDatamanager hd m).steps

theorem steps_receiveFromDatamanager (s : Session) : Steps s s.receiveFromDatamanager.2 := by
  cases hd : s.worker.datamanager with
  | none =>
    rw [receiveFromDatamanager, hd]
    exact .refl s
  | some id => exact (uses_receiveFromDatamanager hd).steps

theorem steps_exchangeWithDatamanager (request : Message) (expected : List Kind) (s : Session) :
    Steps s (s.exchangeWithDatamanager request expected).2 := by
  rw [exchangeWithDatamanager]
  split
  · exact .refl s
  · exact (s.uses_exchange _ request expected).steps

/-! ### Waiting -/

theorem uses_readFrom (deadline : Option Nat) (id : ConnectionId) (s : Session) :
    Uses id s (s.readFrom deadline id).2 := by
  have hreceive : Uses id s (s.receiveBy deadline id).2 := (Use.receive deadline s).uses
  rw [readFrom]
  generalize s.receiveBy deadline id = r at hreceive ⊢
  rcases r with ⟨e | _ | m, t⟩
  · exact hreceive.trans (t.uses_receiveFailed id e)
  · exact hreceive.trans (Use.report _ t rfl).uses
  · exact hreceive.trans (Use.report _ t rfl).uses

/-- The session once the worker has polled for the next message. -/
def polled (deadline : Option Nat) (s : Session) : Session :=
  (s.popDeferred.2.pollWatched deadline).2

/-- All that a wait for the next message can come to. -/
inductive Next (deadline : Option Nat) (s : Session) :
    Except CoordinatorError (Option Message) × Session → Prop
  | deferred (m : Message) : Next deadline s (.ok (some m), s.popDeferred.2)
  | nobody (none_watched : s.worker.watched = []) : Next deadline s (.ok none, s.popDeferred.2)
  | unpolled (f : OsFailure) (poll : (s.popDeferred.2.pollWatched deadline).1 = .error (.socket f)) :
      Next deadline s (.error (.net (.socket f)), s.polled deadline)
  | late (poll : (s.popDeferred.2.pollWatched deadline).1 = .ok none) :
      Next deadline s (.ok none, s.polled deadline)
  /-- A watched connection is ready, and is read. -/
  | ready {id : ConnectionId} {c : Connection} (watched : id ∈ s.worker.watched)
      (found : s.worker.connections.get? id = some c) :
      Next deadline s ((s.polled deadline).readFrom deadline id)

/-- A poll finds connections that are watched and registered. -/
theorem exists_of_pollWatched {deadline : Option Nat} {s : Session} {id : ConnectionId}
    (h : (s.pollWatched deadline).1 = .ok (some id)) :
    id ∈ s.worker.watched ∧ ∃ c, s.worker.connections.get? id = some c := by
  have hpoll : (s.worker.connections.pollReadable s.worker.watched
      (deadline.map (· - s.now)) s.env).1 = .ok (some id) := h
  refine ⟨?_, Option.isSome_iff_exists.1 (Registry.isSome_get?_of_pollReadable hpoll)⟩
  rw [Registry.pollReadable, Registry.pollReadableFor] at hpoll
  split at hpoll
  · cases hpoll
  · obtain ⟨c, hc, rfl⟩ := Registry.mem_of_pollWatched hpoll
    obtain ⟨i, hi, hget⟩ := List.mem_filterMap.1 hc
    rw [Registry.id_of_get? hget]
    exact hi

theorem next_nextMessage (deadline : Option Nat) (s : Session) :
    Next deadline s (s.nextMessage deadline) := by
  rw [nextMessage]
  cases hp : s.popDeferred with
  | mk x t =>
    obtain rfl : s.popDeferred.2 = t := congrArg Prod.snd hp
    cases x with
    | some m => exact .deferred m
    | none =>
      dsimp only
      split
      · rename_i hnobody
        exact .nobody hnobody
      · -- nothing is deferred, so that the network is waited for
        rw [readNext]
        cases hw : s.popDeferred.2.pollWatched deadline with
        | mk y u =>
          obtain rfl : s.polled deadline = u := congrArg Prod.snd hw
          rcases y with e | _ | id
          · obtain ⟨f, rfl⟩ := Registry.pollReadable_error (congrArg Prod.fst hw)
            exact .unpolled f (congrArg Prod.fst hw)
          · exact .late (congrArg Prod.fst hw)
          · obtain ⟨hwatched, c, hc⟩ := exists_of_pollWatched (congrArg Prod.fst hw)
            exact .ready hwatched hc

/-- Where nothing is deferred, the next message is read off the connection that a poll finds. -/
theorem nextMessage_of_polled {deadline : Option Nat} {s t : Session} {id : ConnectionId}
    (hq : s.worker.queue.items = [])
    (hpoll : s.popDeferred.2.pollWatched deadline = (.ok (some id), t)) :
    s.nextMessage deadline = t.readFrom deadline id := by
  have hpop : s.popDeferred = (none, s.popDeferred.2) :=
    Prod.ext (MessageQueue.pop_of_items_nil hq).1 rfl
  have hwatched := (exists_of_pollWatched (congrArg Prod.fst hpoll)).1
  rw [nextMessage, hpop]
  dsimp only
  rw [if_neg (List.ne_nil_of_mem hwatched), readNext, hpoll]

/-- It is one that is watched. -/
theorem readFrom_of_nextMessage {deadline : Option Nat} {s t : Session} {m : Message}
    (hq : s.worker.queue.items = []) (h : s.nextMessage deadline = (.ok (some m), t)) :
    ∃ id ∈ s.worker.watched, (s.polled deadline).readFrom deadline id = (.ok (some m), t) := by
  have hpop : s.popDeferred = (none, s.popDeferred.2) :=
    Prod.ext (MessageQueue.pop_of_items_nil hq).1 rfl
  rw [nextMessage, hpop] at h
  dsimp only at h
  split at h
  · cases h
  · rw [readNext] at h
    cases hpoll : s.popDeferred.2.pollWatched deadline with
    | mk x u =>
      rw [hpoll] at h
      rcases x with e | _ | id
      · cases h
      · cases h
      · obtain rfl : s.polled deadline = u := congrArg Prod.snd hpoll
        exact ⟨id, (exists_of_pollWatched (congrArg Prod.fst hpoll)).1, h⟩

theorem steps_polled (deadline : Option Nat) (s : Session) : Steps s (s.polled deadline) :=
  Steps.trans (Relation.ReflTransGen.single (.pop s))
    (Relation.ReflTransGen.single (.poll deadline s.popDeferred.2))

theorem steps_nextMessage (deadline : Option Nat) (s : Session) :
    Steps s (s.nextMessage deadline).2 := by
  have hnext := s.next_nextMessage deadline
  generalize s.nextMessage deadline = r at hnext ⊢
  cases hnext with
  | deferred m => exact Relation.ReflTransGen.single (.pop s)
  | nobody none_watched => exact Relation.ReflTransGen.single (.pop s)
  | unpolled f => exact s.steps_polled deadline
  | late poll => exact s.steps_polled deadline
  | ready watched found =>
    exact (s.steps_polled deadline).trans (uses_readFrom deadline _ _).steps

/-- **A wait polls, and uses the connections that it finds ready.** -/
theorem steps_waitUntil (deadline : Option Nat) (s : Session) :
    Steps s (s.waitUntil deadline).2 := by
  have next {s t : Session} {x : Except CoordinatorError (Option Message)}
      (h : s.nextMessage deadline = (x, t)) : Steps s t := by
    obtain rfl : (s.nextMessage deadline).2 = t := congrArg Prod.snd h
    exact s.steps_nextMessage deadline
  have taken {s t : Session} {m : Message} {x : Except CoordinatorError Unit}
      (h : s.takeAnnouncement m = (x, t)) : Steps s t := by
    obtain rfl : (s.takeAnnouncement m).2 = t := congrArg Prod.snd h
    exact Relation.ReflTransGen.single (.takeAnnouncement m s)
  fun_induction waitUntil deadline s with
  | case1 s e t hn => exact next hn
  | case2 s t hn => exact next hn
  | case3 s m t hn _ e u ht => exact (next hn).trans (taken ht)
  | case4 s m t hn _ u ht ih => exact ((next hn).trans (taken ht)).trans ih
  | case5 s m t hn => exact next hn

theorem snd_wait (s : Session) : s.wait.2 = (s.waitUntil none).2 := by
  rw [wait]
  generalize s.waitUntil none = r
  rcases r with ⟨e | _ | m, t⟩ <;> rfl

theorem steps_wait (s : Session) : Steps s s.wait.2 := by
  rw [snd_wait]
  exact s.steps_waitUntil none

/-! ### What is kept -/

/-- **The use of a connection leaves all others alone.** -/
theorem Uses.get?_of_ne {id j : ConnectionId} {s t : Session} (h : Uses id s t) (hj : j ≠ id) :
    t.worker.connections.get? j = s.worker.connections.get? j := by
  refine h.keeps (P := fun s t => t.worker.connections.get? j = s.worker.connections.get? j)
    (fun _ => rfl) (fun h h' => h'.trans h) fun use => ?_
  -- uses that do not concern the connections at all, and those that concern this one
  cases use with
  | report event => rfl
  | send m => exact Registry.get?_withConnection_ne hj (Connection.id_send m) _ _
  | receive deadline =>
    cases deadline with
    | some d => exact Registry.get?_withConnection_ne hj (Connection.id_receiveWith (some d)) _ _
    | none => exact Registry.get?_withConnection_ne hj Connection.id_receive _ _
  | takeAnnouncement m => rw [connections_takeAnnouncement]
  | defer m => rfl
  | drop => exact Registry.get?_remove_ne hj _ _
  | terminate => rw [connections_terminate]

/-- An announcement gives no segment back. -/
theorem isSome_segments_takeAnnouncement (m : Message) {s : Session}
    (hs : s.worker.segments.isSome = true) :
    (s.takeAnnouncement m).2.worker.segments.isSome = true := by
  rw [takeAnnouncement]
  split
  · exact hs
  · rw [attachAnnounced]
    dsimp only
    split <;> rfl

section

variable {P : Option SegmentAccess → Prop}

/-- What announcements keep of the segments, the use of a connection keeps. -/
theorem Use.keeps_segments {id : ConnectionId} {s t : Session} (h : Use id s t)
    (takes : ∀ (m : Message) (s : Session), P s.worker.segments →
      P (s.takeAnnouncement m).2.worker.segments)
    (hs : P s.worker.segments) : P t.worker.segments := by
  cases h with
  | report event => exact hs
  | send m => exact hs
  | receive deadline =>
    cases deadline with
    | some d => exact hs
    | none => exact hs
  | takeAnnouncement m => exact takes m s hs
  | defer m => exact hs
  | drop => exact hs
  | terminate =>
    rw [worker_terminate]
    exact hs

/-- **What announcements keep of the segments is kept whatever is done.** -/
theorem Steps.keeps_segments {s t : Session} (h : Steps s t)
    (takes : ∀ (m : Message) (s : Session), P s.worker.segments →
      P (s.takeAnnouncement m).2.worker.segments)
    (hs : P s.worker.segments) : P t.worker.segments := by
  refine h.keeps (P := fun s t => P s.worker.segments → P t.worker.segments)
    (fun _ h => h) (fun h h' hs => h' (h hs)) (fun step hs => ?_) hs
  cases step with
  | use use => exact use.keeps_segments takes hs
  | poll deadline s => exact hs
  | takeAnnouncement m => exact takes m _ hs
  | pop s => exact hs

end

/-- **What is done never gives segments back.** -/
theorem Steps.isSome_segments {s t : Session} (h : Steps s t)
    (hs : s.worker.segments.isSome = true) : t.worker.segments.isSome = true :=
  -- even an announcement that fails leaves the access that it was to use
  h.keeps_segments (P := fun segments => segments.isSome = true)
    (fun m _ => isSome_segments_takeAnnouncement m) hs

end Session

end PipelineWorker
