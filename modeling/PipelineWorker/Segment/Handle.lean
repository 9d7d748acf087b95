/-
Reading and writing an attached segment.

A handle stays good for as long as it is held, also when its segment is detached or its file
removed.  Every access is checked against the mapped length before it touches a byte.

* `check_eq_ok_iff` — an access is allowed exactly when it ends inside the mapping;
* `read_write` — what was written is read back.
-/
import PipelineWorker.Segment.Mapping
import PipelineWorker.Segment.Error

namespace PipelineWorker

/-- Access to one mapped segment. -/
structure SegmentHandle where
  key : SegmentKey
  mapping : Mapping
  deriving DecidableEq, Repr

namespace SegmentHandle

/-- Mapped bytes. -/
def length (h : SegmentHandle) : Nat := h.mapping.length

/-- Whether two handles share one mapping. -/
def sameMapping (h g : SegmentHandle) : Bool := h.mapping.serial == g.mapping.serial

/-- An access of `n` bytes must end inside the mapping; the place is returned. -/
def check (h : SegmentHandle) (offset n : Nat) : Except SegmentError Nat :=
  if offset + n ≤ h.length then .ok offset else .error (.outOfBounds offset n h.length)

/-- The `n` bytes at `offset`. -/
def read (h : SegmentHandle) (offset n : Nat) (fs : FileSystem) : Except SegmentError Bytes := do
  let place ← h.check offset n
  return (fs.content h.mapping.file).read place n

/-- Writes `bs` at `offset`; a refused access writes nothing. -/
def write (h : SegmentHandle) (offset : Nat) (bs : Bytes) (fs : FileSystem) :
    Except SegmentError Unit × FileSystem :=
  match h.check offset bs.length with
  | .error e => (.error e, fs)
  | .ok place =>
    (.ok (), fs.setContent h.mapping.file ((fs.content h.mapping.file).write place bs))

/-- The text of a handle where values are spelled out; `base` stands for the address. -/
def detail (h : SegmentHandle) (base : String) : String :=
  "SegmentHandle \x7b key: " ++ h.key.detail ++ ", base: " ++ base ++ ", len: " ++
    toString h.length ++ " \x7d"

theorem check_eq_ok_iff {h : SegmentHandle} {offset n place : Nat} :
    h.check offset n = .ok place ↔ offset + n ≤ h.length ∧ place = offset := by
  unfold check
  split
  · simp [*, eq_comm]
  · simp [*]

/-- What was written is read back. -/
theorem read_write {h : SegmentHandle} {offset : Nat} {bs : Bytes} {fs fs' : FileSystem}
    (hfile : h.mapping.file < fs.files.length) (hw : h.write offset bs fs = (.ok (), fs')) :
    h.read offset bs.length fs' = .ok bs := by
  rw [write] at hw
  split at hw
  · simp at hw
  · rename_i place hc
    obtain ⟨hle, rfl⟩ := check_eq_ok_iff.1 hc
    obtain rfl := (Prod.mk.inj hw).2
    have hcontent : (fs.setContent h.mapping.file
        ((fs.content h.mapping.file).write place bs)).content h.mapping.file =
        (fs.content h.mapping.file).write place bs := by
      simp [FileSystem.content, FileSystem.setContent, hfile]
    simp only [read, hc, hcontent]
    exact congrArg Except.ok (FileContent.read_write ..)

end SegmentHandle

end PipelineWorker
