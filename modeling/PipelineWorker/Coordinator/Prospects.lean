/-
What a wait costs.

A wait that returns a message takes it from what is still to come.  One that fails does so fatally,
or gives up a connection.  So nobody can wait again and again without an end.

* `prospects_wait_lt` — a message is taken from what is to come;
* `wait_error` — an error is fatal or has cost a connection.
-/
import PipelineWorker.Coordinator.Waiting

namespace PipelineWorker

namespace Session

/-- What is still to come, and the connections that can still be lost. -/
def prospects (s : Session) : Nat := s.weight + s.worker.connections.length

theorem length_receiveBy (deadline : Option Nat) (id : ConnectionId) (s : Session) :
    (s.receiveBy deadline id).2.worker.connections.length = s.worker.connections.length := by
  unfold receiveBy
  split <;> exact Registry.length_withConnection ..

theorem length_readFrom_le (deadline : Option Nat) (id : ConnectionId) (s : Session) :
    (s.readFrom deadline id).2.worker.connections.length ≤ s.worker.connections.length := by
  have hl := s.length_receiveBy deadline id
  rw [readFrom]
  split
  all_goals
    rename_i h
    rw [h] at hl
  · exact Nat.le_of_eq hl
  · exact Nat.le_of_eq hl
  · simp only [connections_receiveFailed]
    exact Nat.le_trans (Registry.length_remove_le ..) (Nat.le_of_eq hl)

/-- A failure to read costs the connection. -/
theorem length_readFrom_lt {deadline : Option Nat} {id : ConnectionId} {s : Session}
    {e : CoordinatorError} (h : (s.readFrom deadline id).1 = .error e)
    (hs : (s.worker.connections.get? id).isSome = true) :
    (s.readFrom deadline id).2.worker.connections.length < s.worker.connections.length := by
  have hl := s.length_receiveBy deadline id
  have hg : ((s.receiveBy deadline id).2.worker.connections.get? id).isSome = true := by
    unfold receiveBy
    split <;> exact Registry.isSome_get?_withConnection _ _ _ hs
  rw [readFrom] at h ⊢
  split at h
  · simp at h
  · simp at h
  · rename_i hr
    rw [hr] at hl hg
    simp only [connections_receiveFailed]
    exact Nat.lt_of_lt_of_le (Registry.length_remove_lt _ hg) (Nat.le_of_eq hl)

theorem connections_popDeferred (s : Session) :
    s.popDeferred.2.worker.connections = s.worker.connections := rfl

theorem connections_pollWatched (deadline : Option Nat) (s : Session) :
    (s.pollWatched deadline).2.worker.connections = s.worker.connections := rfl

theorem length_readNext_le (deadline : Option Nat) (s : Session) :
    (s.readNext deadline).2.worker.connections.length ≤ s.worker.connections.length := by
  have hc := congrArg Registry.length (s.connections_pollWatched deadline)
  rw [readNext]
  split
  all_goals
    rename_i h
    simp only [h] at hc
  · exact Nat.le_of_eq hc
  · exact Nat.le_of_eq hc
  · exact Nat.le_trans (length_readFrom_le ..) (Nat.le_of_eq hc)

theorem length_nextMessage_le (deadline : Option Nat) (s : Session) :
    (s.nextMessage deadline).2.worker.connections.length ≤ s.worker.connections.length := by
  have hc := congrArg Registry.length s.connections_popDeferred
  rw [nextMessage]
  split
  all_goals
    rename_i h
    simp only [h] at hc
  · exact Nat.le_of_eq hc
  · split
    · exact Nat.le_of_eq hc
    · exact Nat.le_trans (length_readNext_le ..) (Nat.le_of_eq hc)

/-- An error is fatal or has cost a connection. -/
theorem nextMessage_error {deadline : Option Nat} {s : Session} {e : CoordinatorError}
    (h : (s.nextMessage deadline).1 = .error e) :
    e.isFatal = true ∨ (s.nextMessage deadline).2.prospects < s.prospects := by
  have hw := s.weight_nextMessage_le deadline
  suffices e.isFatal = true ∨
      (s.nextMessage deadline).2.worker.connections.length < s.worker.connections.length by
    refine this.imp_right fun hlt => ?_
    simp only [prospects]
    omega
  clear hw
  rw [nextMessage] at h ⊢
  split at h
  · simp at h
  · rename_i s' hp
    have hs : s'.worker.connections = s.worker.connections := by
      rw [← s.connections_popDeferred, hp]
    split at h
    · simp at h
    · rename_i hn
      rw [if_neg hn, ← hs]
      rw [readNext] at h ⊢
      split at h
      · rename_i e' t hr
        obtain ⟨f, rfl⟩ := Registry.pollReadable_error (congrArg Prod.fst hr)
        simp only [Except.error.injEq] at h
        subst h
        exact .inl rfl
      · simp at h
      · rename_i id t hr
        have hg := Registry.isSome_get?_of_pollReadable (congrArg Prod.fst hr)
        have ht : t.worker.connections = s'.worker.connections := by
          rw [← connections_pollWatched deadline s', hr]
        rw [← ht] at hg ⊢
        exact .inr (length_readFrom_lt h hg)

theorem length_waitUntil_le (deadline : Option Nat) (s : Session) :
    (s.waitUntil deadline).2.worker.connections.length ≤ s.worker.connections.length := by
  have next {s s' : Session} {x : Except CoordinatorError (Option Message)}
      (h : s.nextMessage deadline = (x, s')) :
      s'.worker.connections.length ≤ s.worker.connections.length := by
    have := s.length_nextMessage_le deadline
    rwa [h] at this
  have taken {s t : Session} {m : Message} {x : Except CoordinatorError Unit}
      (h : s.takeAnnouncement m = (x, t)) : t.worker.connections = s.worker.connections := by
    have := s.connections_takeAnnouncement m
    rwa [h] at this
  fun_induction waitUntil deadline s with
  | case1 s e s' hn => exact next hn
  | case2 s s' hn => exact next hn
  | case3 s m s' hn _ e t ht => simpa only [taken ht] using next hn
  | case4 s m s' hn _ t ht ih => exact Nat.le_trans ih (by simpa only [taken ht] using next hn)
  | case5 s m s' hn => exact next hn

/-- An error is fatal or has cost a connection. -/
theorem waitUntil_error {deadline : Option Nat} {s : Session} {e : CoordinatorError}
    (h : (s.waitUntil deadline).1 = .error e) :
    e.isFatal = true ∨ (s.waitUntil deadline).2.prospects < s.prospects := by
  -- The induction follows the announcements; each of them is taken from what is to come.
  fun_induction waitUntil deadline s with
  | case1 s e' s' hn =>
    have := nextMessage_error ((congrArg Prod.fst hn).trans h)
    rwa [hn] at this
  | case2 => simp at h
  | case3 s m s' hn _ e' t ht =>
    -- an announcement that cannot be attached is fatal
    simp only [Except.error.injEq] at h
    obtain ⟨key, size, reason, he'⟩ := takeAnnouncement_unavailable ht
    rw [← h, he']
    exact .inl rfl
  | case4 s m s' hn _ t ht ih =>
    have hl := s.length_nextMessage_le deadline
    have hlt := weight_nextMessage_lt (congrArg Prod.fst hn)
    have hc := s'.connections_takeAnnouncement m
    have hw := s'.weight_takeAnnouncement m
    rw [hn] at hl hlt
    rw [ht] at hc hw
    simp only at hl hlt hc hw
    refine (ih h).imp_right fun h => ?_
    simp only [prospects, hc, hw] at h ⊢
    omega
  | case5 => simp at h

/-- A message that a wait returns is taken from what is to come. -/
theorem prospects_wait_lt {s : Session} {m : Message} (h : s.wait.1 = .ok m) :
    s.wait.2.prospects < s.prospects := by
  have hl := s.length_waitUntil_le none
  rw [wait] at h ⊢
  split at h
  · rename_i hw
    have hlt := weight_waitUntil_lt (congrArg Prod.fst hw)
    rw [hw] at hl hlt
    exact Nat.add_lt_add_of_lt_of_le hlt hl
  · simp at h
  · simp at h

/-- An error is fatal or has cost a connection. -/
theorem wait_error {s : Session} {e : CoordinatorError} (h : s.wait.1 = .error e) :
    e.isFatal = true ∨ s.wait.2.prospects < s.prospects := by
  rw [wait] at h ⊢
  split at h
  · simp at h
  · simp only [Except.error.injEq] at h
    exact .inl (h ▸ rfl)
  · rename_i hw
    simp only [Except.error.injEq] at h
    subst h
    have := waitUntil_error (congrArg Prod.fst hw)
    rwa [hw] at this

end Session

end PipelineWorker
