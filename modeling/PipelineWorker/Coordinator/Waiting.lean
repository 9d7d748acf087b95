/-
Waiting for control messages.

Deferred messages come before the network.  Announcements of segments are taken up wherever they
show: the segment is attached, and the wait goes on.  A malformed one is passed over, so that the
wait stays in step with the stream; a segment that cannot be attached ends it.

* `weight_waitUntil_lt` — a message that a wait returns is taken from what is to come.
-/
import PipelineWorker.Coordinator.Losses

namespace PipelineWorker

namespace Session

/-! ### Announcements -/

/-- The access to the worker's segments; without one, a fresh access to its directory. -/
def access (s : Session) : SegmentAccess :=
  s.worker.segments.getD { dir := s.worker.config.segmentDir }

/-- Attaches an announced segment. -/
def attachAnnounced (a : SegmentAnnouncement) (s : Session) :
    Except CoordinatorError Unit × Session :=
  let (x, access, files, events) := s.access.attach a.key a.size.toNat s.env.files
  let s : Session :=
    { worker := { s.worker with segments := some access },
      env := ({ s.env with files } : Environment).reportAll events }
  match x with
  | .error e => (.error (.segment e), s)
  | .ok _ => (.ok (), s.report (.newSegment a.key a.size))

/-- Takes up the announcement of a segment. -/
def takeAnnouncement (m : Message) (s : Session) : Except CoordinatorError Unit × Session :=
  match SegmentAnnouncement.decode m.payload.toList with
  | .error e => (.ok (), s.report (.malformedAnnouncement e m.origin))
  | .ok a => s.attachAnnounced a

/-- An announcement changes nothing of the worker but its segments. -/
theorem worker_takeAnnouncement (m : Message) (s : Session) :
    (s.takeAnnouncement m).2.worker
      = { s.worker with segments := (s.takeAnnouncement m).2.worker.segments } := by
  unfold takeAnnouncement attachAnnounced
  split
  · rfl
  · dsimp only
    split <;> rfl

theorem net_takeAnnouncement (m : Message) (s : Session) :
    (s.takeAnnouncement m).2.env.net = s.env.net := by
  unfold takeAnnouncement attachAnnounced
  split
  · rfl
  · dsimp only
    split <;> rfl

@[simp] theorem queue_takeAnnouncement (m : Message) (s : Session) :
    (s.takeAnnouncement m).2.worker.queue = s.worker.queue := by
  rw [worker_takeAnnouncement]

@[simp] theorem connections_takeAnnouncement (m : Message) (s : Session) :
    (s.takeAnnouncement m).2.worker.connections = s.worker.connections := by
  rw [worker_takeAnnouncement]

@[simp] theorem traffic_takeAnnouncement (m : Message) (s : Session) :
    (s.takeAnnouncement m).2.traffic = s.traffic := by
  rw [traffic, connections_takeAnnouncement, net_takeAnnouncement]
  rfl

@[simp] theorem weight_takeAnnouncement (m : Message) (s : Session) :
    (s.takeAnnouncement m).2.weight = s.weight := by
  simp [weight]

/-- An announcement fails only where its segment cannot be attached. -/
theorem takeAnnouncement_unavailable {m : Message} {s t : Session} {e : CoordinatorError}
    (h : s.takeAnnouncement m = (.error e, t)) :
    ∃ key size reason, e = .segment (.unavailable key size reason) := by
  rw [takeAnnouncement] at h
  split at h
  · cases h
  · rw [attachAnnounced] at h
    dsimp only at h
    split at h
    · rename_i hx
      obtain ⟨reason, rfl⟩ := SegmentAccess.attach_error hx
      exact ⟨_, _, reason, (Except.error.inj (congrArg Prod.fst h)).symm⟩
    · cases h

/-! ### The next message -/

/-- Reads from a connection that is ready. -/
def readFrom (deadline : Option Nat) (id : ConnectionId) (s : Session) :
    Except CoordinatorError (Option Message) × Session :=
  match s.receiveBy deadline id with
  | (.ok (some m), s) => (.ok (some m), s.report (.controlReceived m.kind id))
  | (.ok none, s) => (.ok none, s.report (.deadlineInsideFrame id))
  | (.error e, s) => let (e, s) := s.receiveFailed id e; (.error e, s)

/-- Waits until one of the watched connections can be read. -/
def pollWatched (deadline : Option Nat) (s : Session) :
    Except NetError (Option ConnectionId) × Session :=
  let (x, env) := s.worker.connections.pollReadable s.worker.watched
    (deadline.map (· - s.now)) s.env
  (x, { s with env })

/-- Waits until the controller or the datamanager can be read, then reads from there. -/
def readNext (deadline : Option Nat) (s : Session) :
    Except CoordinatorError (Option Message) × Session :=
  match s.pollWatched deadline with
  | (.error e, s) => (.error (.net e), s)
  | (.ok none, s) => (.ok none, s)
  | (.ok (some id), s) => s.readFrom deadline id

/-- The oldest deferred message, or else the next one that arrives; there is none if the deadline
passes or nobody is there to wait for. -/
def nextMessage (deadline : Option Nat) (s : Session) :
    Except CoordinatorError (Option Message) × Session :=
  match s.popDeferred with
  | (some m, s) => (.ok (some m), s)
  | (none, s) => if s.worker.watched = [] then (.ok none, s) else s.readNext deadline

theorem weight_readFrom_le (deadline : Option Nat) (id : ConnectionId) (s : Session) :
    (s.readFrom deadline id).2.weight ≤ s.weight := by
  have ht := s.traffic_receiveBy_le deadline id
  have hq := s.queue_receiveBy deadline id
  have hw : (s.receiveBy deadline id).2.weight ≤ s.weight := by
    simp only [weight, hq]
    omega
  rw [readFrom]
  split
  · rename_i m s' h
    rw [h] at hw
    exact hw
  · rename_i s' h
    rw [h] at hw
    exact hw
  · rename_i e s' h
    rw [h] at hw
    exact Nat.le_trans (weight_receiveFailed_le ..) hw

theorem weight_readFrom_lt {deadline : Option Nat} {id : ConnectionId} {s : Session} {m : Message}
    (h : (s.readFrom deadline id).1 = .ok (some m)) :
    (s.readFrom deadline id).2.weight < s.weight := by
  have hq := s.queue_receiveBy deadline id
  rw [readFrom] at h ⊢
  split at h
  · rename_i m' s' hr
    have ht := traffic_receiveBy_lt (m := m') (congrArg Prod.fst hr)
    rw [hr] at ht hq
    show s'.traffic + s'.worker.queue.items.length < s.traffic + s.worker.queue.items.length
    rw [show s'.worker.queue = s.worker.queue from hq]
    exact Nat.add_lt_add_right ht _
  · simp at h
  · simp at h

@[simp] theorem weight_pollWatched (deadline : Option Nat) (s : Session) :
    (s.pollWatched deadline).2.weight = s.weight := by
  show Registry.weight _ (Registry.pollReadable ..).2.net + _ = _
  simp only [Registry.weight, Registry.weight_pollReadable]
  rfl

theorem weight_readNext_le (deadline : Option Nat) (s : Session) :
    (s.readNext deadline).2.weight ≤ s.weight := by
  have hp := s.weight_pollWatched deadline
  rw [readNext]
  split
  all_goals
    rename_i h
    rw [h] at hp
  · exact Nat.le_of_eq hp
  · exact Nat.le_of_eq hp
  · exact Nat.le_trans (weight_readFrom_le ..) (Nat.le_of_eq hp)

theorem weight_readNext_lt {deadline : Option Nat} {s : Session} {m : Message}
    (h : (s.readNext deadline).1 = .ok (some m)) : (s.readNext deadline).2.weight < s.weight := by
  have hp := s.weight_pollWatched deadline
  rw [readNext] at h ⊢
  split at h
  · simp at h
  · simp at h
  · rename_i hr
    rw [hr] at hp
    exact Nat.lt_of_lt_of_le (weight_readFrom_lt h) (Nat.le_of_eq hp)

theorem weight_nextMessage_le (deadline : Option Nat) (s : Session) :
    (s.nextMessage deadline).2.weight ≤ s.weight := by
  have hp : s.popDeferred.2.weight ≤ s.weight := by
    simp only [popDeferred, weight, MessageQueue.items_pop, List.length_tail]
    exact Nat.add_le_add_left (Nat.sub_le ..) _
  rw [nextMessage]
  split
  · rename_i h
    rw [h] at hp
    exact hp
  · rename_i h
    rw [h] at hp
    split
    · exact hp
    · exact Nat.le_trans (weight_readNext_le ..) hp

/-- A message is taken from what is to come. -/
theorem weight_nextMessage_lt {deadline : Option Nat} {s : Session} {m : Message}
    (h : (s.nextMessage deadline).1 = .ok (some m)) :
    (s.nextMessage deadline).2.weight < s.weight := by
  rw [nextMessage] at h ⊢
  split at h
  · rename_i m' s' hp
    have hm : s.worker.queue.pop.1 = some m' := congrArg Prod.fst hp
    have hs : s' = s.popDeferred.2 := (congrArg Prod.snd hp).symm
    have := congrArg List.length (MessageQueue.items_of_pop hm)
    simp only [List.length_cons] at this
    subst hs
    show _ + s.worker.queue.pop.2.items.length < _ + s.worker.queue.items.length
    simp only [traffic, popDeferred]
    omega
  · rename_i s' hp
    have hw : s'.weight ≤ s.weight := by
      have hs : s' = s.popDeferred.2 := (congrArg Prod.snd hp).symm
      subst hs
      simp only [popDeferred, weight, MessageQueue.items_pop, List.length_tail]
      exact Nat.add_le_add_left (Nat.sub_le ..) _
    split at h
    · simp at h
    · rename_i hn
      rw [if_neg hn]
      exact Nat.lt_of_lt_of_le (weight_readNext_lt h) hw

/-! ### Waiting -/

/-- Waits for a message that is not the announcement of a segment; there is none if the deadline
passes or nobody is there to wait for. -/
def waitUntil (deadline : Option Nat) (s : Session) :
    Except CoordinatorError (Option Message) × Session :=
  match _hn : s.nextMessage deadline with
  | (.error e, s') => (.error e, s')
  | (.ok none, s') => (.ok none, s')
  | (.ok (some m), s') =>
    if m.kind = .newSharedSegment then
      match _ht : s'.takeAnnouncement m with
      | (.error e, t) => (.error e, t)
      | (.ok (), t) => waitUntil deadline t
    else (.ok (some m), s')
termination_by s.weight
decreasing_by
  have hn := weight_nextMessage_lt (congrArg Prod.fst _hn)
  have ht := s'.weight_takeAnnouncement m
  rw [_hn] at hn
  rw [_ht] at ht
  simp only at hn ht
  omega

/-- One turn of a wait. -/
theorem waitUntil_eq (deadline : Option Nat) (s : Session) :
    s.waitUntil deadline = match s.nextMessage deadline with
      | (.error e, t) => (.error e, t)
      | (.ok none, t) => (.ok none, t)
      | (.ok (some m), t) =>
        if m.kind = .newSharedSegment then
          match t.takeAnnouncement m with
          | (.error e, u) => (.error e, u)
          | (.ok (), u) => u.waitUntil deadline
        else (.ok (some m), t) := by
  rw [waitUntil]
  split
  · rename_i h
    rw [h]
  · rename_i h
    rw [h]
  · rename_i h
    rw [h]
    dsimp only
    split
    · split
      all_goals
        rename_i h
        rw [h]
    · rfl

/-- A message that a wait returns is taken from what is to come. -/
theorem weight_waitUntil_lt {deadline : Option Nat} {s : Session} {m : Message}
    (h : (s.waitUntil deadline).1 = .ok (some m)) : (s.waitUntil deadline).2.weight < s.weight := by
  fun_induction waitUntil deadline s with
  | case1 => simp at h
  | case2 => simp at h
  | case3 => simp at h
  | case4 s m' s' hn _ t ht ih =>
    have hn := weight_nextMessage_lt (congrArg Prod.fst hn)
    have ht' := s'.weight_takeAnnouncement m'
    simp only [*] at hn ht'
    have := ih h
    omega
  | case5 s m' s' hn =>
    have hlt := weight_nextMessage_lt (congrArg Prod.fst hn)
    rw [hn] at hlt
    exact hlt

/-- Waits for a control message for as long as it takes. -/
def wait (s : Session) : Except CoordinatorError Message × Session :=
  match s.waitUntil none with
  | (.ok (some m), s) => (.ok m, s)
  | (.ok none, s) => (.error (.missingConnection .controller), s)
  | (.error e, s) => (.error e, s)

/-- Waits for a control message, at most for so many microseconds. -/
def check (timeout : Nat) (s : Session) : Except CoordinatorError (Option Message) × Session :=
  s.waitUntil (some (s.now + timeout))

end Session

end PipelineWorker
