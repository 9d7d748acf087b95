/-
Announcements of segments do not show.

An announcement may arrive on any connection and at any time.  It is taken up where it is read and
never handed out; a malformed one is passed over.

* `kind_of_task` — **who waits for a message is never given an announcement**;
* `waitUntil_of_malformed`, `awaitReply_of_malformed` — a malformed one changes nothing and ends
  nothing;
* `attachCount_handshake` — the handshake leaves the assigned segment attached, and no other;
* `Tally.transparent` — **over any run, a segment is attached once if it was assigned, and once more
  for each time that it was announced since**.
-/
import PipelineWorker.Proofs.Operating
import PipelineWorker.Proofs.Uptake

namespace PipelineWorker

namespace Session

section

variable {s t : Session} {m : Message} {e : CodecError} {key : SegmentKey}

/-! ### Who waits does not see them -/

theorem eq_ok_of_map_some {x : Except CoordinatorError Message}
    (h : x.map some = .ok (some m)) : x = .ok m := by
  cases x with
  | error e => cases h
  | ok m' =>
    cases h
    rfl

theorem kind_of_waitUntil {deadline : Option Nat}
    (h : (s.waitUntil deadline).1 = .ok (some m)) : m.kind ≠ .newSharedSegment := by
  fun_induction waitUntil deadline s with
  | case1 => cases h
  | case2 => cases h
  | case3 => cases h
  | case4 s m' t hn hm u ht ih => exact ih h
  | case5 s m' t hn hm =>
    cases h
    exact hm

theorem kind_of_wait (h : s.wait.1 = .ok m) : m.kind ≠ .newSharedSegment := by
  have hkind := @kind_of_waitUntil s m none
  rw [wait] at h
  generalize s.waitUntil none = r at h hkind
  rcases r with ⟨e | _ | m', t⟩
  · cases h
  · cases h
  · cases h
    exact hkind rfl

theorem kind_of_exchange {id : ConnectionId} {request : Message} {expected : List Kind}
    (h : (s.exchange id request expected).1 = .ok m) : m.kind ≠ .newSharedSegment := by
  obtain ⟨passed, last, hdefers⟩ := s.exchange_defers id request expected
  have hending := hdefers.ending
  rw [h] at hending
  cases hending with
  | reply kind => exact kind

/-- **Who waits for a message is never given an announcement**, whatever is asked for. -/
theorem kind_of_task {task : Task} (htask : task ≠ .receiveFromDatamanager)
    (h : (task.run s).1 = .ok (some m)) : m.kind ≠ .newSharedSegment := by
  cases task with
  | exchange id request expected => exact kind_of_exchange (eq_ok_of_map_some h)
  | exchangeWithDatamanager request expected =>
    have hok := eq_ok_of_map_some h
    rw [exchangeWithDatamanager] at hok
    split at hok
    · cases hok
    · exact kind_of_exchange hok
  | sendToDatamanager m' =>
    rw [Task.run] at h
    generalize (s.sendToDatamanager m').1 = x at h
    cases x <;> cases h
  | receiveFromDatamanager => exact absurd rfl htask
  | wait => exact kind_of_wait (eq_ok_of_map_some h)
  | check timeout => exact kind_of_waitUntil h

/-! ### Malformed announcements -/

theorem takeAnnouncement_of_malformed (hd : SegmentAnnouncement.decode m.payload.toList = .error e)
    (s : Session) :
    s.takeAnnouncement m = (.ok (), s.report (.malformedAnnouncement e m.origin)) := by
  rw [takeAnnouncement, hd]

theorem waitUntil_of_malformed {deadline : Option Nat} (hm : m.kind = .newSharedSegment)
    (hd : SegmentAnnouncement.decode m.payload.toList = .error e)
    (hn : s.nextMessage deadline = (.ok (some m), t)) :
    s.waitUntil deadline
      = (t.report (.malformedAnnouncement e m.origin)).waitUntil deadline := by
  rw [waitUntil_eq, hn]
  dsimp only
  rw [if_pos hm, takeAnnouncement_of_malformed hd t]

theorem awaitReply_of_malformed {id : ConnectionId} {role : Role} {expected : List Kind}
    (hm : m.kind = .newSharedSegment)
    (hd : SegmentAnnouncement.decode m.payload.toList = .error e)
    (hr : s.receive id = (.ok m, t)) :
    s.awaitReply id role expected
      = (t.report (.malformedAnnouncement e m.origin)).awaitReply id role expected := by
  rw [awaitReply_eq, hr]
  dsimp only
  rw [if_pos hm, takeAnnouncement_of_malformed hd t]

/-! ### The assigned segment -/

/-- The segment that the handshake attaches as the working segment, if it gets that far. -/
def assignedKey? (s : Session) : Option SegmentKey :=
  match s.handshakeExchange? with
  | some (.ok reply, t) =>
    match Coordinated.assignedSegment reply t with
    | (.ok (), _) => (SegmentAnnouncement.decode reply.payload.toList).toOption.map (·.key)
    | (.error _, _) => none
  | _ => none

/-- Behind the assignment the handshake attaches nothing. -/
theorem segments_announcePid (s : Session) :
    (Coordinated.announcePid s).2.worker.segments = s.worker.segments := by
  have hkeeps : Coordinated.Keeps (fun s t => t.worker.segments = s.worker.segments)
      Coordinated.announcePid :=
    .bind (fun h h' => h'.trans h) (fun _ => rfl) fun p =>
      .bind (fun h h' => h'.trans h) (segments_sendToDatamanager _) fun _ _ => rfl
  exact hkeeps s

theorem segments_conclusion {reply : Message}
    (h : Coordinated.assignedSegment reply s = (.ok (), t)) :
    (conclusion reply s).2.worker.segments = t.worker.segments := by
  have hpid := t.segments_announcePid
  rw [conclusion, Coordinated.run_bind, h]
  dsimp only
  rw [Coordinated.run_bind]
  generalize Coordinated.announcePid t = r at hpid ⊢
  rcases r with ⟨e | _, u⟩
  · exact hpid
  · exact hpid

/-- Behind its exchange the handshake is its conclusion. -/
theorem segments_of_handshakeExchange? {reply : Message}
    (h : s.handshakeExchange? = some (.ok reply, t)) :
    s.handshake.2.worker.segments = (conclusion reply t).2.worker.segments := by
  rw [handshakeExchange?] at h
  split at h
  · rename_i hs
    cases hintro : introduction s with
    | mk x u =>
      rw [hintro] at h
      cases x with
      | error f => cases h
      | ok id =>
        have hrequest : Coordinated.requestSegment id u = (.ok reply, t) := Option.some.inj h
        have hsteps : Coordinated.handshakeSteps s = conclusion reply t := by
          rw [handshakeSteps_eq, Coordinated.run_bind, hintro]
          dsimp only
          rw [Coordinated.run_bind, hrequest]
        rw [handshake, if_neg (fun hne => hne hs), hsteps]
        generalize conclusion reply t = r
        rcases r with ⟨f | _, v⟩ <;> rfl
  · cases h

/-- **The handshake leaves the assigned segment attached once, and no other.** -/
theorem assigned_handshake (h : s.assignedKey? = some key) : Assigned key s.handshake.2 := by
  rw [assignedKey?] at h
  split at h
  · rename_i reply u hexchange
    cases hassigned : Coordinated.assignedSegment reply u with
    | mk x v =>
      rw [hassigned] at h
      cases x with
      | error f => cases h
      | ok _ =>
        obtain ⟨a, ha, hattached⟩ := assigned_of_assignedSegment hassigned
        rw [ha] at h
        obtain rfl : a.key = key := Option.some.inj h
        refine hattached.of_segments ?_
        rw [segments_of_handshakeExchange? hexchange, segments_conclusion hassigned]
  · cases h

/-! ### What operations leave -/

/-- The keys of the segments that a task attaches, as what it reads tells them.  Only a receive from
the datamanager hands out whatever it reads, and attaches nothing. -/
def Task.attachedKeys (task : Task) (s : Session) : List SegmentKey :=
  match task with
  | .receiveFromDatamanager => []
  | _ => (attached (task.run s).1 (announcements (readBetween s (task.run s).2))).map (·.key)

theorem TakesUp.attachCount_eq {α : Type} {x : Except CoordinatorError α} {read : List Message}
    (h : TakesUp x read s t) (key : SegmentKey) :
    t.worker.attachCount key = s.worker.attachCount key +
      ((attached x (announcements (readBetween s t))).map (·.key)).count key := by
  rw [readBetween_eq h.received]
  exact h.attaches key

/-- **A task attaches every segment as often as it was announced among what the task reads.** -/
theorem attachCount_task (task : Task) (hs : DefersProper s) (key : SegmentKey) :
    (task.run s).2.worker.attachCount key
      = s.worker.attachCount key + (task.attachedKeys s).count key := by
  cases task with
  | exchange id request expected =>
    obtain ⟨read, h⟩ := s.exchange_takesUp id request expected
    exact (h.of_refuses (refuses_map some _)).attachCount_eq key
  | exchangeWithDatamanager request expected =>
    obtain ⟨read, h⟩ := s.exchangeWithDatamanager_takesUp request expected
    exact (h.of_refuses (refuses_map some _)).attachCount_eq key
  | sendToDatamanager m =>
    obtain ⟨read, h⟩ := s.sendToDatamanager_takesUp m
    exact (h.of_refuses (refuses_map (fun _ => none) _)).attachCount_eq key
  | receiveFromDatamanager =>
    exact Attaches.of_segments s.segments_receiveFromDatamanager key
  | wait =>
    obtain ⟨read, h⟩ := wait_takesUp hs
    exact (h.of_refuses (refuses_map some _)).attachCount_eq key
  | check timeout =>
    obtain ⟨read, h⟩ := waitUntil_takesUp (some (s.now + timeout)) hs
    exact h.attachCount_eq key

theorem queue_shutdown (s : Session) : s.shutdown.worker.queue = s.worker.queue := by
  rw [Session.shutdown]
  split
  · rfl
  · show (removeAll _ _).worker.queue = _
    rw [worker_removeAll]
    rfl

/-- **No operation defers an announcement.** -/
theorem DefersProper.operation (hs : DefersProper s) (op : Operation) :
    DefersProper (op.run s) := by
  cases op with
  | handshake => exact (balance_run .handshake hs).proper
  | task task =>
    cases task with
    | exchange id request expected =>
      exact (balance_run (.exchange id request expected) hs).proper
    | exchangeWithDatamanager request expected =>
      exact (balance_run (.exchangeWithDatamanager request expected) hs).proper
    | sendToDatamanager m => exact hs.of_quiet (s.quiet_sendToDatamanager m)
    | receiveFromDatamanager => exact (balance_run .receiveFromDatamanager hs).proper
    | wait => exact (balance_run .wait hs).proper
    | check timeout => exact (balance_run (.check timeout) hs).proper
  | popDeferred => exact (balance_run .popDeferred hs).proper
  | addPeer endpoint port timeout =>
    exact (balance_run (.addConnection .peer endpoint port timeout) hs).proper
  | shutdown =>
    rw [DefersProper, Operation.run, queue_shutdown]
    exact hs

end

end Session

/-! ### Whole runs -/

/-- A worker, and what it was told to attach: the working segment that the handshake assigned, until
the worker is shut down, and the segments that were announced and attached since. -/
structure Tally where
  session : Session
  assigned : Option SegmentKey := none
  announced : List SegmentKey := []

namespace Tally

open Session

/-- What can happen next. -/
inductive Step
  | operate (op : Operation)
  /-- The connections and the surroundings become any others. -/
  | meanwhile (connections : Registry) (env : Environment)

/-- A worker that was just made. -/
def start (config : ModuleConfig) (pid : UInt32) (env : Environment) : Tally :=
  { session := fresh config pid env }

/-- Takes one step down. -/
def enter (l : Tally) : Step → Tally
  | .operate .handshake =>
    if l.session.worker.stage = .unstarted then
      { session := l.session.handshake.2, assigned := l.session.assignedKey? }
    else { l with session := l.session.handshake.2 }
  | .operate (.task task) =>
    { l with
      session := (task.run l.session).2
      announced := l.announced ++ task.attachedKeys l.session }
  | .operate .popDeferred => { l with session := l.session.popDeferred.2 }
  | .operate (.addPeer endpoint port timeout) =>
    { l with session := (l.session.addConnection .peer endpoint port timeout).2 }
  | .operate .shutdown => { session := l.session.shutdown }
  | .meanwhile connections env =>
    { l with session := { worker := { l.session.worker with connections }, env } }

/-- Takes all steps of a run down. -/
def run (l : Tally) (steps : List Step) : Tally := steps.foldl enter l

/-- The tally agrees with what is attached: the working segment once, and every segment once more for
each time that it was announced. -/
structure Agrees (key : SegmentKey) (l : Tally) : Prop where
  count : ∀ k, l.session.worker.attachCount k
    = (if k = key then 1 else 0) + l.announced.count k
  working : ∃ handle, l.session.worker.workingSegment? = some handle ∧ handle.key = key

/-- Nothing but proper messages are deferred, and from the handshake to the shutdown the tally
agrees. -/
structure Sound (l : Tally) : Prop where
  proper : DefersProper l.session
  agrees : ∀ key, l.assigned = some key → l.Agrees key

theorem sound_start (config : ModuleConfig) (pid : UInt32) (env : Environment) :
    Sound (start config pid env) :=
  ⟨fun _ hm => absurd hm List.not_mem_nil, fun _ h => nomatch h⟩

theorem Agrees.task {l : Tally} {key : SegmentKey} (h : l.Agrees key)
    (hproper : DefersProper l.session) (task : Task) :
    (l.enter (.operate (.task task))).Agrees key := by
  obtain ⟨handle, hworking, hkey⟩ := h.working
  refine ⟨fun k => ?_, handle, (steps_task task l.session).workingSegment? hworking, hkey⟩
  show (task.run l.session).2.worker.attachCount k = _ + (l.announced ++ _).count k
  rw [attachCount_task task hproper, h.count k, List.count_append, Nat.add_assoc]

theorem agrees_handshake {l : Tally} {key : SegmentKey}
    (h : l.session.assignedKey? = some key) :
    Agrees key { session := l.session.handshake.2, assigned := l.session.assignedKey? } := by
  have hassigned := assigned_handshake h
  exact ⟨fun k => hassigned.count k, hassigned.working⟩

/-- One step keeps the tally sound. -/
theorem Sound.enter {l : Tally} (h : l.Sound) (step : Step) : (l.enter step).Sound := by
  cases step with
  | operate op =>
    have hproper := h.proper.operation op
    cases op with
    | handshake =>
      rw [Tally.enter]
      split
      · exact ⟨hproper, fun key => agrees_handshake⟩
      · rename_i hs
        -- it does not run a second time
        rw [handshake_of_stage_ne hs]
        exact h
    | task task => exact ⟨hproper, fun key hkey => (h.agrees key hkey).task h.proper task⟩
    | popDeferred =>
      exact ⟨hproper, fun key hkey => ⟨(h.agrees key hkey).count, (h.agrees key hkey).working⟩⟩
    | addPeer endpoint port timeout =>
      exact ⟨hproper, fun key hkey => ⟨(h.agrees key hkey).count, (h.agrees key hkey).working⟩⟩
    | shutdown => exact ⟨hproper, fun _ hkey => nomatch hkey⟩
  | meanwhile connections env =>
    exact ⟨h.proper, fun key hkey => ⟨(h.agrees key hkey).count, (h.agrees key hkey).working⟩⟩

theorem Sound.run {l : Tally} (h : l.Sound) (steps : List Step) : (l.run steps).Sound := by
  induction steps generalizing l with
  | nil => exact h
  | cons step steps ih => exact ih (h.enter step)

/-- **Announcements do not show.**  Over any run none is deferred, and none is handed out by an
operation that waits; a malformed one changes nothing of the worker, and the wait goes on behind it;
and from the handshake to the shutdown every segment is attached once if it was assigned, and once
more for each time that it was announced since. -/
theorem transparent (config : ModuleConfig) (pid : UInt32) (env : Environment)
    (steps : List Step) :
    let l := (start config pid env).run steps
    (∀ m ∈ l.session.worker.queue.items, m.kind ≠ .newSharedSegment) ∧
    (∀ (task : Task) (m : Message), task ≠ .receiveFromDatamanager →
      (task.run l.session).1 = .ok (some m) → m.kind ≠ .newSharedSegment) ∧
    (∀ (s t : Session) (m : Message) (e : CodecError), m.kind = .newSharedSegment →
      SegmentAnnouncement.decode m.payload.toList = .error e →
      let u := t.report (.malformedAnnouncement e m.origin)
      u.worker = t.worker ∧
      (∀ deadline, s.nextMessage deadline = (.ok (some m), t) →
        s.waitUntil deadline = u.waitUntil deadline) ∧
      (∀ id role expected, s.receive id = (.ok m, t) →
        s.awaitReply id role expected = u.awaitReply id role expected)) ∧
    (∀ key, l.assigned = some key →
      (∀ k, l.session.worker.attachCount k
        = (if k = key then 1 else 0) + l.announced.count k) ∧
      ∃ handle, l.session.worker.workingSegment? = some handle ∧ handle.key = key) := by
  intro l
  have hsound : l.Sound := (sound_start config pid env).run steps
  refine ⟨hsound.proper, fun task m htask h => kind_of_task htask h, fun s t m e hm hd => ?_,
    fun key hkey => ⟨(hsound.agrees key hkey).count, (hsound.agrees key hkey).working⟩⟩
  exact ⟨rfl, fun deadline hn => waitUntil_of_malformed hm hd hn,
    fun id role expected hr => awaitReply_of_malformed hm hd hr⟩

/-- The controller announces a segment behind its assignment, and the next wait attaches it. -/
theorem transparent_of_announced :
    let env : Environment := { net := { listeners := [.announcing, .supplying] } }
    let l := (start (.ofController "127.0.0.1" 4000) 7 env).run
      [.operate .handshake, .operate .popDeferred, .operate (.task .wait)]
    l.assigned = some ⟨1⟩ ∧ l.announced = [⟨90⟩] ∧
      ∀ k, l.session.worker.attachCount k = (if k = ⟨1⟩ then 1 else 0) + [⟨90⟩].count k := by
  intro env l
  have hassigned : l.assigned = some ⟨1⟩ := by decide +kernel
  have hannounced : l.announced = [⟨90⟩] := by decide +kernel
  obtain ⟨-, -, -, hcounts⟩ := transparent (.ofController "127.0.0.1" 4000) 7 env
    [.operate .handshake, .operate .popDeferred, .operate (.task .wait)]
  refine ⟨hassigned, hannounced, fun k => ?_⟩
  rw [← hannounced]
  exact (hcounts ⟨1⟩ hassigned).1 k

end Tally

end PipelineWorker
