/-
A directory for the segment files of a measurement.

It is made under a name of its own for each label and process, and taken away with all that is in
it when the measurement is over.

* `exists?_drop` — nothing is left where the directory was.
-/
import PipelineWorker.Files

namespace PipelineWorker

/-- A directory that lives as long as a measurement. -/
structure ScratchDir where
  path : String
  deriving DecidableEq, Repr

namespace ScratchDir

/-- Where the directory of a label is, for the process `pid`. -/
def pathOf (label : String) (pid : UInt32) : String :=
  Path.join "/dev/shm" ("basalt_bench_" ++ label ++ "_" ++ toString pid.toNat)

/-- Makes the directory. -/
def create (label : String) (pid : UInt32) (fs : FileSystem) :
    Except OsFailure ScratchDir × FileSystem :=
  let path := pathOf label pid
  match fs.makeDirs path with
  | (.error f, fs) => (.error f, fs)
  | (.ok (), fs) => (.ok ⟨path⟩, fs)

/-- Takes the directory away. -/
def drop (d : ScratchDir) (fs : FileSystem) : FileSystem := fs.removeTree d.path

/-- The path of a directory ends in a name, with the number of the process behind it. -/
theorem names_pathOf (label : String) (pid : UInt32) :
    ∃ front last, (Path.ofText (pathOf label pid)).names =
      front ++ [String.ofList (last ++ '_' :: Nat.toDigits 10 pid.toNat)] := by
  have text : (pathOf label pid).toList = ("/dev/shm/basalt_bench_" ++ label).toList ++
      '_' :: Nat.toDigits 10 pid.toNat := by
    simp [pathOf, Path.join, Nat.toList_repr]
  refine Path.names_append text (List.cons_ne_nil _ _) ?_
  rw [List.mem_cons, not_or]
  refine ⟨by decide, fun slash => ?_⟩
  have := Nat.isDigit_of_mem_toDigits (by decide) (by decide) slash
  exact absurd this (by decide)

/-- Nothing is left where the directory was. -/
theorem exists?_drop {label : String} {pid : UInt32} {fs fs' : FileSystem} {d : ScratchDir}
    (h : create label pid fs = (.ok d, fs')) : (d.drop fs').exists? d.path = false := by
  have path : d.path = pathOf label pid := by
    simp only [create] at h
    split at h
    · simp at h
    · rw [← Except.ok.inj (Prod.mk.inj h).1]
  obtain ⟨front, last, names⟩ := names_pathOf label pid
  have dots : ∀ name : String, '_' ∉ name.toList →
      String.ofList (last ++ '_' :: Nat.toDigits 10 pid.toNat) ≠ name := by
    rintro name off rfl
    simp at off
  rw [← path] at names
  exact FileSystem.exists?_removeTree
    (FileSystem.locate_ne_directory names (dots _ (by decide)) (dots _ (by decide)))

end ScratchDir

end PipelineWorker
