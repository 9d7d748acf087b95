/-
What the attachment of a segment leaves of the others.

* `SegmentAccess.attachment?_attach` — attaching counts the one key up, and no other;
* `SegmentAccess.attachCount_attach` — the same in numbers;
* `SegmentAccess.primary?_attach` — the primary segment stays what it is;
* `Session.assigned_of_assignedSegment` — the handshake leaves one segment attached;
* `Session.Steps.workingSegment?` — **whatever a worker waits for and whatever is announced to it
  meanwhile, its working segment stays**.
-/
import PipelineWorker.Proofs.Attaching
import PipelineWorker.Proofs.Steps
import PipelineWorker.Proofs.Using

namespace PipelineWorker

namespace SegmentAccess

variable {s : SegmentAccess} {key : SegmentKey} {size : Nat} {fs : FileSystem}

/-! ### One access -/

theorem attach_of_error {e : SegmentError} (h : (s.attach key size fs).1 = .error e) :
    (s.attach key size fs).2.1 = s := by
  rw [attach] at h ⊢
  split at h
  · cases h
  · dsimp only at h ⊢
    generalize openOrCreate (key.path s.dir) size fs = r at h ⊢
    rcases r with ⟨f | mapping, fs'⟩
    · rfl
    · cases h

/-- **Attaching counts the one key up, and no other.** -/
theorem attachment?_attach {handle : SegmentHandle} (h : (s.attach key size fs).1 = .ok handle)
    (k : SegmentKey) :
    (s.attach key size fs).2.1.attachment? k =
      if k = key then some { handle, count := s.attachCount key + 1 } else s.attachment? k := by
  rw [attach] at h ⊢
  cases ha : s.attachment? key with
  | some a =>
    rw [ha] at h
    obtain rfl : a.handle = handle := Except.ok.inj h
    dsimp only
    rw [attachment?, lookup_insert, attachCount, ha]
    rfl
  | none =>
    rw [ha] at h
    dsimp only at h ⊢
    generalize openOrCreate (key.path s.dir) size fs = r at h ⊢
    rcases r with ⟨f | mapping, fs'⟩
    · cases h
    · cases h
      rw [attachCount, ha]
      exact lookup_insert key k _ s.entries

theorem attachCount_attach {handle : SegmentHandle} (h : (s.attach key size fs).1 = .ok handle)
    (k : SegmentKey) :
    (s.attach key size fs).2.1.attachCount k = s.attachCount k + if k = key then 1 else 0 := by
  rw [attachCount, attachment?_attach h]
  by_cases hk : k = key
  · rw [if_pos hk, if_pos hk, hk]
    rfl
  · rw [if_neg hk, if_neg hk]
    rfl

/-- What is attached stays attached, with the same handle. -/
theorem get?_attach (key : SegmentKey) (size : Nat) (fs : FileSystem) {k : SegmentKey}
    {handle : SegmentHandle} (h : s.get? k = some handle) :
    (s.attach key size fs).2.1.get? k = some handle := by
  cases hx : (s.attach key size fs).1 with
  | error e =>
    rw [attach_of_error hx]
    exact h
  | ok new =>
    obtain ⟨a, ha, rfl⟩ := Option.map_eq_some_iff.1 h
    rw [get?, attachment?_attach hx]
    by_cases hk : k = key
    · -- attached once more: the answer was the handle that was there
      subst hk
      rw [attach, ha] at hx
      rw [if_pos rfl, ← Except.ok.inj hx]
      rfl
    · rw [if_neg hk, ha]
      rfl

theorem primaryKey_attach (key : SegmentKey) (size : Nat) (fs : FileSystem) {k : SegmentKey}
    (h : s.primaryKey = some k) :
    (s.attach key size fs).2.1.primaryKey = some k := by
  rw [attach]
  split
  · exact h
  · dsimp only
    split
    · exact h
    · dsimp only
      rw [h, Option.some_or]

/-- **The primary segment stays what it is.** -/
theorem primary?_attach (key : SegmentKey) (size : Nat) (fs : FileSystem)
    {handle : SegmentHandle} (h : s.primary? = some handle) :
    (s.attach key size fs).2.1.primary? = some handle := by
  obtain ⟨k, hk, hget⟩ := Option.bind_eq_some_iff.1 h
  rw [primary?, primaryKey_attach key size fs hk]
  exact get?_attach key size fs hget

end SegmentAccess

/-- How often a segment is attached. -/
def Coordinator.attachCount (key : SegmentKey) (p : Coordinator) : Nat :=
  p.segments.elim 0 (·.attachCount key)

namespace Session

/-! ### The working segment -/

/-- The worker has attached the segment of this key once, as its working segment, and no other. -/
structure Assigned (key : SegmentKey) (s : Session) : Prop where
  count : ∀ k, s.worker.attachCount k = if k = key then 1 else 0
  working : ∃ handle, s.worker.workingSegment? = some handle ∧ handle.key = key

theorem Assigned.of_segments {key : SegmentKey} {s t : Session} (h : Assigned key s)
    (hsegments : t.worker.segments = s.worker.segments) : Assigned key t := by
  refine ⟨fun k => ?_, ?_⟩
  · rw [← h.count k, Coordinator.attachCount, hsegments]
    rfl
  · rw [Coordinator.workingSegment?, hsegments]
    exact h.working

/-- **The handshake attaches the segment that the reply names, and it is the working segment.** -/
theorem assigned_of_assignedSegment {reply : Message} {s t : Session}
    (h : Coordinated.assignedSegment reply s = (.ok (), t)) :
    ∃ a, SegmentAnnouncement.decode reply.payload.toList = .ok a ∧ Assigned a.key t := by
  obtain ⟨a, handle, ha, hattach, rfl⟩ := Coordinated.assignedSegment_eq_ok.1 h
  have hworker := (Coordinated.afterSegment_of_ok hattach).1
  refine ⟨a, ha, fun k => ?_, handle, ?_, SegmentAccess.key_attach_fresh hattach⟩
  · -- to begin with, nothing is attached
    rw [hworker]
    exact (SegmentAccess.attachCount_attach hattach k).trans (Nat.zero_add _)
  · rw [Coordinator.workingSegment?, hworker, SegmentAccess.attach_fresh hattach]
    simp [SegmentAccess.primary?, SegmentAccess.get?, SegmentAccess.attachment?]

theorem workingSegment?_takeAnnouncement (m : Message) {s : Session} {handle : SegmentHandle}
    (h : s.worker.workingSegment? = some handle) :
    (s.takeAnnouncement m).2.worker.workingSegment? = some handle := by
  rw [takeAnnouncement]
  split
  · exact h
  · rename_i a ha
    obtain ⟨access, haccess, hprimary⟩ := Option.bind_eq_some_iff.1 h
    have hsame : s.access = access := by rw [Session.access, haccess, Option.getD_some]
    have hkept := SegmentAccess.primary?_attach a.key a.size.toNat s.env.files hprimary
    rw [attachAnnounced, hsame]
    generalize access.attach a.key a.size.toNat s.env.files = r at hkept ⊢
    rcases r with ⟨e | new, access', files, events⟩
    · exact hkept
    · exact hkept

/-- **A worker keeps its working segment while it waits.** -/
theorem Steps.workingSegment? {s t : Session} (h : Steps s t) {handle : SegmentHandle}
    (hs : s.worker.workingSegment? = some handle) : t.worker.workingSegment? = some handle :=
  h.keeps_segments (P := fun segments => segments.bind SegmentAccess.primary? = some handle)
    (fun m _ => workingSegment?_takeAnnouncement m) hs

end Session

end PipelineWorker
