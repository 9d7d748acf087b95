/-
What a failed attach leaves behind.

Attaching a segment may fail at several points, and almost all of them come before anything was
changed.  The exception is a segment whose file has just been made and is then refused its length
or its mapping (`SegmentAccess.Abandons`): the file stays, and takes the name from all that come
later.

* `openOrCreate_failed` — a failed attempt to map a file changes nothing, unless the file was
  missing and the size is beyond the limits of the system;
* `openOrCreate_leftover` — what such an attempt leaves cannot be mapped at any size;
* `SegmentAccess.attach_failed` — **a failed attach changes nothing, unless it abandons a file, and
  then the key can no more be attached**.
-/
import Mathlib.Data.List.Basic
import PipelineWorker.Proofs.Attaching

namespace PipelineWorker

namespace FileSystem

/-- The length is more than a file may have or more than can be mapped. -/
def Refuses (fs : FileSystem) (n : Nat) : Prop := fs.maxLength < n ∨ fs.maxMapped < n

/-- What is left of a new file that was refused its length or its mapping. -/
def leftover (fs : FileSystem) (n : Nat) : FileContent :=
  if fs.maxLength < n then .empty else FileContent.empty.resize n

theorem not_refuses {fs : FileSystem} {n : Nat} :
    ¬ fs.Refuses n ↔ n ≤ fs.maxLength ∧ n ≤ fs.maxMapped := by
  rw [Refuses, not_or, Nat.not_lt, Nat.not_lt]

end FileSystem

/-! ### Mapping a file -/

theorem openOrCreate_of_missing_of_refuses {path : String} {n : Nat} {fs : FileSystem} {slot : Slot}
    (hn : 0 < n) (hslot : fs.locate path = .ok (.slot slot none)) (hrefuses : fs.Refuses n) :
    ∃ e, openOrCreate path n fs = (.error e, fs.addFile slot (fs.leftover n)) := by
  rw [openOrCreate_of_missing_eq hn hslot, FileSystem.leftover]
  by_cases hlong : fs.maxLength < n
  · rw [if_pos hlong, if_pos hlong]
    exact ⟨_, rfl⟩
  · have hwide : fs.maxMapped < n := hrefuses.resolve_left hlong
    rw [if_neg hlong, if_neg hlong, if_pos hwide]
    exact ⟨_, rfl⟩

/-- A failed attempt to map a file changes nothing, unless the file was missing and the size is
beyond the limits of the system. -/
theorem openOrCreate_failed {path : String} {n : Nat} {fs : FileSystem} {e : OsFailure}
    (h : (openOrCreate path n fs).1 = .error e)
    (hnot : ¬ (0 < n ∧ (∃ slot, fs.locate path = .ok (.slot slot none)) ∧ fs.Refuses n)) :
    (openOrCreate path n fs).2 = fs := by
  by_cases hmissing : ∃ slot, fs.locate path = .ok (.slot slot none)
  · obtain ⟨slot, hslot⟩ := hmissing
    rcases Nat.eq_zero_or_pos n with rfl | hn
    · rfl
    · -- within the limits a missing file is made and mapped
      have hlimits := FileSystem.not_refuses.1 fun hrefuses => hnot ⟨hn, ⟨slot, hslot⟩, hrefuses⟩
      rw [openOrCreate_of_missing hn hslot hlimits.1 hlimits.2] at h
      cases h
  · exact openOrCreate_of_present (fun slot hslot => hmissing ⟨slot, hslot⟩) h

/-- **What a refused attempt leaves cannot be mapped at any size**: it is too short, or as long as
what was refused. -/
theorem openOrCreate_leftover {path : String} {n : Nat} {fs : FileSystem} {slot : Slot}
    (hslot : fs.locate path = .ok (.slot slot none)) (hrefuses : fs.Refuses n) (later : Nat) :
    ∃ e, (openOrCreate path later (fs.addFile slot (fs.leftover n))).1 = .error e := by
  rcases Nat.eq_zero_or_pos later with rfl | hlater
  · exact ⟨_, rfl⟩
  · rw [openOrCreate_of_file hlater (FileSystem.locate_addFile _ hslot), run_measure,
      FileSystem.content_addFile]
    by_cases hshort : (fs.leftover n).length < later
    · rw [if_pos hshort]
      exact ⟨_, rfl⟩
    · have hmaxMapped : (fs.addFile slot (fs.leftover n)).maxMapped = fs.maxMapped := rfl
      have hwide : fs.maxMapped < (fs.leftover n).length := by
        rw [FileSystem.leftover] at hshort ⊢
        by_cases hlong : fs.maxLength < n
        · rw [if_pos hlong] at hshort
          exact absurd hlater hshort
        · rw [if_neg hlong]
          exact hrefuses.resolve_left hlong
      rw [if_neg hshort, hmaxMapped, if_pos hwide]
      exact ⟨_, rfl⟩

/-! ### Attaching a segment -/

namespace SegmentAccess

/-- Attaching would make the segment's file and then fail, for a size beyond the limits of the
system. -/
structure Abandons (s : SegmentAccess) (key : SegmentKey) (size : Nat) (fs : FileSystem) :
    Prop where
  unattached : s.attachment? key = none
  positive : 0 < size
  missing : ∃ slot, fs.locate (key.path s.dir) = .ok (.slot slot none)
  refused : fs.Refuses size

/-- An attach fails where the segment is not attached and its file cannot be mapped. -/
theorem failed_openOrCreate {s : SegmentAccess} {key : SegmentKey} {size : Nat} {fs : FileSystem}
    {e : SegmentError} (h : (s.attach key size fs).1 = .error e) :
    s.attachment? key = none ∧ ∃ f, (openOrCreate (key.path s.dir) size fs).1 = .error f := by
  cases hattached : s.attachment? key with
  | some a =>
    rw [attach, hattached] at h
    cases h
  | none =>
    refine ⟨rfl, ?_⟩
    cases hopen : (openOrCreate (key.path s.dir) size fs).1 with
    | error f => exact ⟨f, rfl⟩
    | ok m =>
      rw [attach_of_openOrCreate_ok hattached hopen] at h
      cases h

/-- **A failed attach leaves the access as it was, and the files too, unless it abandons a file.**
An abandoned file stays, empty or of the size that was asked for; from then on the key cannot be
attached at any size, where before every size within the limits would have done. -/
theorem attach_failed {s : SegmentAccess} {key : SegmentKey} {size : Nat} {fs : FileSystem}
    {e : SegmentError} (h : (s.attach key size fs).1 = .error e) :
    (s.attach key size fs).2.1 = s ∧ (s.attach key size fs).2.2.2 = [] ∧
      ((s.attach key size fs).2.2.1 = fs ↔ ¬ s.Abandons key size fs) ∧
      (s.Abandons key size fs →
        (∃ slot, fs.locate (key.path s.dir) = .ok (.slot slot none) ∧
          (s.attach key size fs).2.2.1 = fs.addFile slot (fs.leftover size)) ∧
        (∀ later, ∃ e', (s.attach key later (s.attach key size fs).2.2.1).1 = .error e') ∧
        ∀ later, 0 < later → ¬ fs.Refuses later →
          ∃ handle, (s.attach key later fs).1 = .ok handle) := by
  obtain ⟨hnone, f, hopen⟩ := failed_openOrCreate h
  have hattach := attach_of_openOrCreate_error hnone (Prod.ext hopen rfl)
  rw [hattach]
  refine ⟨rfl, rfl, ⟨fun hsame habandons => ?_, fun hnot => ?_⟩, fun habandons => ?_⟩
  · obtain ⟨slot, hslot⟩ := habandons.missing
    obtain ⟨e', hmade⟩ :=
      openOrCreate_of_missing_of_refuses habandons.positive hslot habandons.refused
    rw [hmade] at hsame
    exact FileSystem.addFile_ne _ _ _ hsame
  · exact openOrCreate_failed hopen fun ⟨hsize, hmissing, hrefuses⟩ =>
      hnot ⟨hnone, hsize, hmissing, hrefuses⟩
  · obtain ⟨slot, hslot⟩ := habandons.missing
    obtain ⟨e', hmade⟩ :=
      openOrCreate_of_missing_of_refuses habandons.positive hslot habandons.refused
    rw [hmade]
    refine ⟨⟨slot, hslot, rfl⟩, fun later => ?_, fun later hlater hlimits => ?_⟩
    · obtain ⟨g, hg⟩ := openOrCreate_leftover hslot habandons.refused later
      rw [attach_of_openOrCreate_error hnone (Prod.ext hg rfl)]
      exact ⟨_, rfl⟩
    · obtain ⟨hlength, hmapped⟩ := FileSystem.not_refuses.1 hlimits
      exact ⟨_, attach_of_openOrCreate_ok hnone
        (openOrCreate_of_missing hlater hslot hlength hmapped)⟩

/-- A segment of more bytes than a file may have cannot be attached, and its key cannot be attached
any more. -/
theorem attach_failed_too_long :
    let s : SegmentAccess := { dir := "/dev/shm" }
    let size : Nat := 0x8000000000000000
    s.Abandons ⟨7⟩ size {} ∧ (s.attach ⟨7⟩ size {}).2.1 = s ∧
      ∀ later, ∃ e, (s.attach ⟨7⟩ later (s.attach ⟨7⟩ size {}).2.2.1).1 = .error e := by
  intro s size
  have hmissing : ({} : FileSystem).locate (SegmentKey.path ⟨7⟩ s.dir) =
      .ok (.slot ⟨2, "basalt-seg-00000007"⟩ none) := by decide +kernel
  have hfailed : (s.attach ⟨7⟩ size {}).1 = .error (.unavailable ⟨7⟩ size
      "/dev/shm/basalt-seg-00000007: number too large to fit in target type") := by
    decide +kernel
  have habandons : s.Abandons ⟨7⟩ size {} := ⟨rfl, by decide, ⟨_, hmissing⟩, .inl (by decide)⟩
  obtain ⟨hsame, -, -, hleft⟩ := attach_failed hfailed
  exact ⟨habandons, hsame, (hleft habandons).2.1⟩

/-- The empty file that is left stands in the way of a segment that would fit. -/
theorem leftover_in_the_way :
    let s : SegmentAccess := { dir := "/dev/shm" }
    let size : Nat := 0x8000000000000000
    let after := (s.attach ⟨7⟩ size {}).2.2.1
    (s.attach ⟨7⟩ size {}).1.toOption = none ∧ after.exists? "/dev/shm/basalt-seg-00000007" ∧
      (s.attach ⟨7⟩ 64 after).1.toOption = none ∧ (s.attach ⟨7⟩ 64 {}).1.toOption ≠ none := by
  decide +kernel

end SegmentAccess

end PipelineWorker
