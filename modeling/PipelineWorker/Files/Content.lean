/-
The contents of a file.

A file has a length and the bytes below it; what was never written is zero, so a large file costs
nothing.

* `byte_write` — a byte is the one written last at its place, if any;
* `read_write` — what was written is read back.
-/
import PipelineWorker.BigEndian

namespace PipelineWorker

/-- The contents of a file. -/
structure FileContent where
  length : Nat
  byte : Nat → UInt8

namespace FileContent

/-- A file without contents. -/
def empty : FileContent := ⟨0, fun _ => 0⟩

/-- The file with exactly these bytes. -/
def ofBytes (bs : Bytes) : FileContent :=
  let a := bs.toArray
  ⟨a.size, fun i => a.getD i 0⟩

/-- The file cut or extended to `n` bytes; new bytes are zero. -/
def resize (f : FileContent) (n : Nat) : FileContent :=
  ⟨n, fun i => if i < min n f.length then f.byte i else 0⟩

/-- The file with `bs` written from place `offset` on.  The length stays. -/
def write (f : FileContent) (offset : Nat) (bs : Bytes) : FileContent :=
  let a := bs.toArray
  ⟨f.length, fun i => if offset ≤ i ∧ i < offset + a.size then a.getD (i - offset) 0 else f.byte i⟩

/-- The `n` bytes from place `offset` on. -/
def read (f : FileContent) (offset n : Nat) : Bytes :=
  (List.range n).map fun i => f.byte (offset + i)

@[simp] theorem length_write (f : FileContent) (offset : Nat) (bs : Bytes) :
    (f.write offset bs).length = f.length := rfl

@[simp] theorem length_read (f : FileContent) (offset n : Nat) :
    (f.read offset n).length = n := by simp [read]

/-- A byte is the one written last at its place, if any. -/
theorem byte_write (f : FileContent) (offset : Nat) (bs : Bytes) (i : Nat) :
    (f.write offset bs).byte i =
      if offset ≤ i ∧ i < offset + bs.length then bs.getD (i - offset) 0 else f.byte i := by
  simp [write]

theorem read_write (f : FileContent) (offset : Nat) (bs : Bytes) :
    (f.write offset bs).read offset bs.length = bs := by
  apply List.ext_getElem
  · simp
  · intro i h _
    simp only [length_read] at h
    simp [read, write, h]

end FileContent

end PipelineWorker
