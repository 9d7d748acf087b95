/-
Mapping a segment's file into memory, creating it first where it is missing.

`Opening` is the attempt as a sequence of single steps on the file system, in the order in which a
process takes them: exclusive creation decides who makes the file, the maker gives it its length,
and everybody else joins it as it is.  `openOrCreate` takes the steps one after the other; two
processes that share a directory may take theirs in any order.

* `Opening.rank_step_lt` — every step brings the attempt nearer to its end.
-/
import PipelineWorker.Files

namespace PipelineWorker

/-- A file mapped into memory. -/
structure Mapping where
  /-- The file behind the mapping. -/
  file : Nat
  /-- The mapped bytes. -/
  length : Nat
  /-- Whether the file was made for this mapping. -/
  created : Bool
  /-- Tells this mapping from all others, also of the same file. -/
  serial : Nat
  deriving DecidableEq, Repr

/-- How far an attempt to map a file has come. -/
inductive Opening
  /-- About to create the file, unless it exists. -/
  | create
  /-- About to give the new file its length. -/
  | size (file : Nat)
  /-- About to open the existing file. -/
  | join
  /-- About to look at the length of the file. -/
  | measure (file : Nat) (created : Bool)
  /-- About to map that many bytes. -/
  | map (file length : Nat) (created : Bool)
  | finished (result : Except OsFailure Mapping)

namespace Opening

/-- An upper bound on the steps still to come. -/
def rank : Opening → Nat
  | create => 4
  | size _ | join => 3
  | measure .. => 2
  | map .. => 1
  | finished _ => 0

/-- The next step of an attempt to map at least `minLength` bytes of the file at `path`. -/
def step (path : String) (minLength : Nat) : Opening → FileSystem → Opening × FileSystem
  | create, fs =>
    match fs.createNew path with
    | (.ok n, fs) => (size n, fs)
    | (.error e, fs) => if e.kind = .alreadyExists then (join, fs) else (finished (.error e), fs)
  | size n, fs =>
    match fs.setLength n minLength with
    | (.ok (), fs) => (measure n true, fs)
    | (.error e, fs) => (finished (.error e), fs)
  | join, fs =>
    match fs.openFile path with
    | .ok n => (measure n false, fs)
    | .error e => (finished (.error e), fs)
  | measure n created, fs =>
    let length := (fs.content n).length
    if length < minLength then
      (finished (.error (.worded .invalidData
        s!"existing file is {length} bytes, {minLength} requested")), fs)
    else
      (map n length created, fs)
  | map n length created, fs =>
    if fs.maxMapped < length then
      (finished (.error (.number .noMem)), fs)
    else
      (finished (.ok { file := n, length, created, serial := fs.mappings }),
        { fs with mappings := fs.mappings + 1 })
  | finished r, fs => (finished r, fs)

/-- Every step brings the attempt nearer to its end. -/
theorem rank_step_lt (path : String) (minLength : Nat) (o : Opening) (fs : FileSystem)
    (h : 0 < o.rank) : (o.step path minLength fs).1.rank < o.rank := by
  cases o with
  | create =>
    simp only [step]
    split
    · simp [rank]
    · split <;> simp [rank]
  | size n => simp only [step]; split <;> simp [rank]
  | join => simp only [step]; split <;> simp [rank]
  | measure n created => simp only [step]; split <;> simp [rank]
  | map n length created => simp only [step]; split <;> simp [rank]
  | finished r => simp [rank] at h

/-- Takes all steps to the end. -/
def run (path : String) (minLength : Nat) (o : Opening) (fs : FileSystem) :
    Except OsFailure Mapping × FileSystem :=
  match _h : o with
  | finished r => (r, fs)
  | create | size _ | join | measure .. | map .. =>
    run path minLength (o.step path minLength fs).1 (o.step path minLength fs).2
termination_by o.rank
decreasing_by all_goals subst _h; exact rank_step_lt _ _ _ _ (by simp [rank])

end Opening

/-- Maps the file at `path`, making it `minLength` zero bytes long where it is missing.  An existing
file is mapped whole and must be long enough. -/
def openOrCreate (path : String) (minLength : Nat) (fs : FileSystem) :
    Except OsFailure Mapping × FileSystem :=
  if minLength = 0 then
    (.error (.worded .invalidInput "mapping length must be > 0"), fs)
  else
    Opening.run path minLength .create fs

end PipelineWorker
