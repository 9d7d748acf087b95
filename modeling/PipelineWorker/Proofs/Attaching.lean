/-
Attaching a segment to an access that holds none.

* `openOrCreate_of_missing` — a file that is missing is made as long as it has to be;
* `SegmentAccess.attach_of_openOrCreate_ok` — a segment that is not attached is attached by mapping
  its file;
* `SegmentAccess.attach_of_missing` — a segment without a file can be attached;
* `SegmentAccess.attach_fresh` — what is attached first is all there is, and primary.
-/
import PipelineWorker.Segment.Access
import PipelineWorker.Proofs.Creating

namespace PipelineWorker

/-- **A file that is missing is made, and mapped whole.** -/
theorem openOrCreate_of_missing {path : String} {n : Nat} {fs : FileSystem} {slot : Slot}
    (hn : 0 < n) (hslot : fs.locate path = .ok (.slot slot none)) (hlength : n ≤ fs.maxLength)
    (hmapped : n ≤ fs.maxMapped) :
    (openOrCreate path n fs).1 = .ok {
      file := fs.files.length, length := n, created := true, serial := fs.mappings } := by
  rw [openOrCreate_of_missing_eq hn hslot, if_neg (Nat.not_lt.2 hlength),
    if_neg (Nat.not_lt.2 hmapped)]

namespace SegmentAccess

theorem attach_of_openOrCreate_error {s : SegmentAccess} {key : SegmentKey} {size : Nat}
    {fs fs' : FileSystem} {f : OsFailure} (hnone : s.attachment? key = none)
    (hopen : openOrCreate (key.path s.dir) size fs = (.error f, fs')) :
    s.attach key size fs =
      (.error (.unavailable key size s!"{key.path s.dir}: {f.message}"), s, fs', []) := by
  rw [attach, hnone]
  dsimp only
  rw [hopen]

theorem attach_of_openOrCreate_ok {s : SegmentAccess} {key : SegmentKey} {size : Nat}
    {fs : FileSystem} {m : Mapping} (hnone : s.attachment? key = none)
    (hopen : (openOrCreate (key.path s.dir) size fs).1 = .ok m) :
    (s.attach key size fs).1 = .ok { key, mapping := m } := by
  rw [attach, hnone]
  dsimp only
  generalize openOrCreate (key.path s.dir) size fs = r at hopen ⊢
  obtain ⟨x, fs'⟩ := r
  obtain rfl : x = _ := hopen
  rfl

theorem attach_of_missing {dir : String} {key : SegmentKey} {n : Nat} {fs : FileSystem}
    {slot : Slot} (hn : 0 < n) (hslot : fs.locate (key.path dir) = .ok (.slot slot none))
    (hlength : n ≤ fs.maxLength) (hmapped : n ≤ fs.maxMapped) :
    (({ dir } : SegmentAccess).attach key n fs).1 = .ok { key, mapping := {
      file := fs.files.length, length := n, created := true, serial := fs.mappings } } :=
  attach_of_openOrCreate_ok rfl (openOrCreate_of_missing hn hslot hlength hmapped)

theorem key_attach_fresh {dir : String} {key : SegmentKey} {size : Nat} {fs : FileSystem}
    {handle : SegmentHandle}
    (h : (({ dir } : SegmentAccess).attach key size fs).1 = .ok handle) : handle.key = key := by
  have hnone : ({ dir } : SegmentAccess).attachment? key = none := rfl
  rw [attach, hnone] at h
  dsimp only at h
  generalize openOrCreate (key.path dir) size fs = r at h
  rcases r with ⟨f | mapping, fs'⟩
  · cases h
  · rw [← Except.ok.inj h]

/-- **What is attached first is all there is, and it is the primary segment.** -/
theorem attach_fresh {dir : String} {key : SegmentKey} {size : Nat} {fs : FileSystem}
    {handle : SegmentHandle}
    (h : (({ dir } : SegmentAccess).attach key size fs).1 = .ok handle) :
    (({ dir } : SegmentAccess).attach key size fs).2.1 = {
      dir, entries := [(key, { handle, count := 1 })], primaryKey := some key } := by
  have hnone : ({ dir } : SegmentAccess).attachment? key = none := rfl
  rw [attach, hnone] at h ⊢
  dsimp only at h ⊢
  generalize openOrCreate (key.path dir) size fs = r at h ⊢
  rcases r with ⟨f | mapping, fs'⟩
  · cases h
  · cases h
    rfl

end SegmentAccess

end PipelineWorker
