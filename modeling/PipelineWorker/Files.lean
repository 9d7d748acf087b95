/-
The part of a file system that the worker sees: directories, in which names stand for further
directories or for files.

Directories and files are known by numbers, and a file's number outlives its name: removing the name
leaves the contents to those that still hold the number.  A path is followed one name at a time,
dots included, so each step finds what really stands there.

* `nodeAt?_link`, `nodeAt?_unlink` — the entries read as a finite map;
* `node?_of_walk_unlink` — after a name is taken away nothing is found under it;
* `exists?_removeTree` — where a directory was taken away by its name nothing is left.
-/
import PipelineWorker.Failure
import PipelineWorker.Files.Content
import PipelineWorker.Files.Path

namespace PipelineWorker

/-- What a name stands for. -/
inductive Node
  | directory (number : Nat)
  | file (number : Nat)
  deriving DecidableEq, Repr

/-- A name in a directory. -/
structure Slot where
  dir : Nat
  name : String
  deriving DecidableEq, Repr

/-- Where a path leads. -/
inductive Place
  /-- To a directory as such: the path is empty or ends in dots. -/
  | directory (number : Nat)
  /-- To a name in a directory, which may stand for something. -/
  | slot (s : Slot) (node : Option Node)
  deriving DecidableEq, Repr

/-- What stands at a place. -/
def Place.node? : Place → Option Node
  | directory n => some (.directory n)
  | slot _ node => node

/-- Directories with their entries, and the contents of files by number.  At first there are the
root, number 0, and in it `dev` with `shm`, where segments are kept, and `tmp`. -/
structure FileSystem where
  entries : List (Slot × Node) :=
    [(⟨0, "dev"⟩, .directory 1), (⟨1, "shm"⟩, .directory 2), (⟨0, "tmp"⟩, .directory 3)]
  /-- The directory above each directory.  The root is above itself. -/
  parents : List Nat := [0, 0, 1, 0]
  /-- The directory where relative paths begin. -/
  workingDir : Nat := 3
  files : List FileContent := []
  /-- The greatest length that a file may be given. -/
  maxLength : Nat := 0x7fffffffffffffff
  /-- The greatest length that can be mapped into memory. -/
  maxMapped : Nat := 0x800000000000
  /-- How many mappings have been made so far. -/
  mappings : Nat := 0

namespace FileSystem

/-- The longest name, in bytes. -/
def maxName : Nat := 255

/-- The longest path, in bytes. -/
def maxPath : Nat := 4095

/-! ### Entries -/

/-- What a name in a directory stands for, if anything. -/
def nodeAt? (fs : FileSystem) (s : Slot) : Option Node := fs.entries.lookup s

/-- The directory above another one. -/
def parent (fs : FileSystem) (dir : Nat) : Nat := fs.parents.getD dir 0

/-- Lets a name stand for something. -/
def link (fs : FileSystem) (s : Slot) (node : Node) : FileSystem :=
  { fs with entries := (s, node) :: fs.entries }

/-- Takes a name away. -/
def unlink (fs : FileSystem) (s : Slot) : FileSystem :=
  { fs with entries := fs.entries.filter (·.1 ≠ s) }

theorem lookup_cons_slot (s t : Slot) (node : Node) (rest : List (Slot × Node)) :
    ((s, node) :: rest).lookup t = if t = s then some node else rest.lookup t := by
  rw [List.lookup_cons]
  split <;> simp_all

theorem nodeAt?_link (fs : FileSystem) (s t : Slot) (node : Node) :
    (fs.link s node).nodeAt? t = if t = s then some node else fs.nodeAt? t :=
  lookup_cons_slot ..

theorem nodeAt?_unlink (fs : FileSystem) (s t : Slot) :
    (fs.unlink s).nodeAt? t = if t = s then none else fs.nodeAt? t := by
  simp only [nodeAt?, unlink]
  induction fs.entries with
  | nil => simp
  | cons e rest ih =>
    obtain ⟨u, node⟩ := e
    simp only [List.filter_cons, lookup_cons_slot]
    split
    · rw [lookup_cons_slot, ih]
      split <;> simp_all
    · rw [ih]
      split <;> simp_all

@[simp] theorem parent_unlink (fs : FileSystem) (s : Slot) (dir : Nat) :
    (fs.unlink s).parent dir = fs.parent dir := rfl

/-! ### Following paths -/

/-- Follows `names` from the directory `here`; everything on the way must be a directory.  The last
name need not stand for anything. -/
def walk (fs : FileSystem) (here : Nat) : List String → Except Errno Place
  | [] => .ok (.directory here)
  | name :: names =>
    if name = "." then walk fs here names
    else if name = ".." then walk fs (fs.parent here) names
    else if maxName < name.utf8ByteSize then .error .nameTooLong
    else
      match names, fs.nodeAt? ⟨here, name⟩ with
      | [], node => .ok (.slot ⟨here, name⟩ node)
      | _ :: _, none => .error .noEnt
      | _ :: _, some (.file _) => .error .notDir
      | _ :: _, some (.directory n) => walk fs n names

/-- Names of which the last one is none of the dots lead to that name. -/
theorem walk_ne_directory {fs : FileSystem} {here : Nat} {front : List String} {name : String}
    (dot : name ≠ ".") (up : name ≠ "..") (n : Nat) :
    fs.walk here (front ++ [name]) ≠ .ok (.directory n) := by
  induction front generalizing here with
  | nil =>
    simp only [List.nil_append, walk, dot, up, if_false]
    split <;> simp
  | cons first rest ih =>
    simp only [List.cons_append, walk]
    split
    · exact ih
    · split
      · exact ih
      · split
        · simp
        · split
          · simp
          · simp
          · simp
          · exact ih

/-- Where the names of a path begin. -/
def start (fs : FileSystem) (p : Path) : Nat := if p.absolute then 0 else fs.workingDir

/-- What is wrong with the text of a path before it is followed. -/
def flaw? (text : String) : Option OsFailure :=
  if text.toList.contains '\x00' then
    some (.worded .invalidInput "file name contained an unexpected NUL byte")
  else if text.isEmpty then some (.number .noEnt)
  else if maxPath < text.utf8ByteSize then some (.number .nameTooLong)
  else none

/-- Finds the place that a text names. -/
def locate (fs : FileSystem) (text : String) : Except OsFailure Place :=
  match flaw? text with
  | some f => .error f
  | none =>
    let p := Path.ofText text
    match walk fs (fs.start p) p.names with
    | .error e => .error (.number e)
    | .ok place => .ok place

/-- After a name is taken away nothing is found under it. -/
theorem node?_of_walk_unlink {fs : FileSystem} {here : Nat} {names : List String} {s : Slot}
    {node : Option Node} {p : Place} (before : fs.walk here names = .ok (.slot s node))
    (after : (fs.unlink s).walk here names = .ok p) : p.node? = none := by
  induction names generalizing here with
  | nil => simp [walk] at before
  | cons name names ih =>
    simp only [walk, nodeAt?_unlink, parent_unlink] at before after
    split at before
    · exact ih before (by simpa [*] using after)
    · split at before
      · exact ih before (by simpa [*] using after)
      · split at before
        · simp at before
        · rename_i dot up long
          simp only [dot, up, long, if_false] at after
          split at before
          · obtain ⟨rfl, rfl⟩ := Place.slot.inj (Except.ok.inj before)
            obtain rfl := Except.ok.inj after
            simp [Place.node?]
          · simp at before
          · simp at before
          · rename_i found
            by_cases here_it_is : (⟨here, name⟩ : Slot) = s
            · simp [here_it_is] at after
            · simp only [here_it_is, if_false, found] at after
              exact ih before after

/-! ### Files -/

/-- The contents of a file. -/
def content (fs : FileSystem) (n : Nat) : FileContent := fs.files.getD n .empty

/-- Replaces the contents of a file. -/
def setContent (fs : FileSystem) (n : Nat) (f : FileContent) : FileSystem :=
  { fs with files := fs.files.set n f }

/-- Puts a new file under a name. -/
def addFile (fs : FileSystem) (s : Slot) (f : FileContent) : FileSystem :=
  { fs.link s (.file fs.files.length) with files := fs.files ++ [f] }

/-- Creates an empty file where nothing stands yet. -/
def createNew (fs : FileSystem) (text : String) : Except OsFailure Nat × FileSystem :=
  match fs.locate text with
  | .error e => (.error e, fs)
  | .ok (.slot s none) => (.ok fs.files.length, fs.addFile s .empty)
  | .ok _ => (.error (.number .exist), fs)

/-- The number of the file at a path, for reading and writing. -/
def openFile (fs : FileSystem) (text : String) : Except OsFailure Nat :=
  match fs.locate text with
  | .error e => .error e
  | .ok place =>
    match place.node? with
    | none => .error (.number .noEnt)
    | some (.directory _) => .error (.number .isDir)
    | some (.file n) => .ok n

/-- Gives a file another length. -/
def setLength (fs : FileSystem) (n length : Nat) : Except OsFailure Unit × FileSystem :=
  if fs.maxLength < length then
    (.error (.worded .invalidInput "number too large to fit in target type"), fs)
  else
    (.ok (), fs.setContent n ((fs.content n).resize length))

/-- Takes the name of a file away. -/
def remove (fs : FileSystem) (text : String) : Except OsFailure Unit × FileSystem :=
  match fs.locate text with
  | .error e => (.error e, fs)
  | .ok (.slot _ none) => (.error (.number .noEnt), fs)
  | .ok (.slot s (some (.file _))) => (.ok (), fs.unlink s)
  | .ok _ => (.error (.number .isDir), fs)

/-- All bytes of the file at a path. -/
def readAll (fs : FileSystem) (text : String) : Except OsFailure Bytes :=
  match fs.openFile text with
  | .error e => .error e
  | .ok n => .ok ((fs.content n).read 0 (fs.content n).length)

/-- Puts a file with the given contents at a path, in place of the file that is there.  The
directory must exist. -/
def writeFile (fs : FileSystem) (text : String) (f : FileContent) : FileSystem :=
  match fs.locate text with
  | .ok (.slot s none) => fs.addFile s f
  | .ok (.slot _ (some (.file n))) => fs.setContent n f
  | _ => fs

/-- The files in a directory, by name in ascending order. -/
def filesIn (fs : FileSystem) (dir : String) : List (String × FileContent) :=
  match (fs.locate dir).toOption.bind Place.node? with
  | some (.directory n) =>
    let found := fs.entries.filterMap fun (s, node) =>
      match node with
      | .file k => if s.dir = n then some (s.name, fs.content k) else none
      | .directory _ => none
    found.mergeSort fun x y => decide (x.1 ≤ y.1)
  | _ => []

/-! ### Directories -/

/-- Whether something stands at a path. -/
def exists? (fs : FileSystem) (text : String) : Bool :=
  match fs.locate text with
  | .ok place => place.node?.isSome
  | .error _ => false

/-- Puts a new directory under a name. -/
def addDir (fs : FileSystem) (s : Slot) : FileSystem :=
  { fs.link s (.directory fs.parents.length) with parents := fs.parents ++ [s.dir] }

/-- Follows `names` from the directory `here` and makes the directories that are missing.  Those
made before something went wrong stay. -/
def makeWay (here : Nat) : List String → FileSystem → Except Errno Unit × FileSystem
  | [], fs => (.ok (), fs)
  | name :: names, fs =>
    if name = "." then makeWay here names fs
    else if name = ".." then makeWay (fs.parent here) names fs
    else if maxName < name.utf8ByteSize then (.error .nameTooLong, fs)
    else
      match fs.nodeAt? ⟨here, name⟩ with
      | some (.directory n) => makeWay n names fs
      | some (.file _) => (.error (if names = [] then .exist else .notDir), fs)
      | none => makeWay fs.parents.length names (fs.addDir ⟨here, name⟩)

/-- Makes a directory and all that lead to it, as far as they are missing. -/
def makeDirs (fs : FileSystem) (text : String) : Except OsFailure Unit × FileSystem :=
  match flaw? text with
  | some f => (.error f, fs)
  | none =>
    let p := Path.ofText text
    match makeWay (fs.start p) p.names fs with
    | (.error e, fs) => (.error (.number e), fs)
    | (.ok (), fs) => (.ok (), fs)

/-- Puts a file with the given contents at a path, and makes the directories that lead to it. -/
def provide (fs : FileSystem) (text : String) (f : FileContent) : FileSystem :=
  let p := Path.ofText text
  (makeWay (fs.start p) p.names.dropLast fs).2.writeFile text f

theorem locate_ne_directory {fs : FileSystem} {text : String} {front : List String} {name : String}
    (names : (Path.ofText text).names = front ++ [name]) (dot : name ≠ ".") (up : name ≠ "..")
    (n : Nat) : fs.locate text ≠ .ok (.directory n) := by
  unfold locate
  split
  · simp
  · simp only [names]
    split
    · simp
    · rename_i found
      intro e
      rw [Except.ok.inj e] at found
      exact walk_ne_directory dot up n found

/-- Takes the name of a directory away, and with it all that is below. -/
def removeTree (fs : FileSystem) (text : String) : FileSystem :=
  match fs.locate text with
  | .ok (.slot s _) => fs.unlink s
  | _ => fs

/-- Where a directory was taken away by its name nothing is left. -/
theorem exists?_removeTree {fs : FileSystem} {text : String}
    (h : ∀ n, fs.locate text ≠ .ok (.directory n)) : (fs.removeTree text).exists? text = false := by
  cases hl : fs.locate text with
  | error e => simp [removeTree, exists?, hl]
  | ok place =>
    cases place with
    | directory n => exact absurd hl (h n)
    | slot s node =>
      simp only [removeTree, hl, exists?]
      rw [locate] at hl ⊢
      cases hf : flaw? text with
      | some f => rfl
      | none =>
        simp only [hf] at hl ⊢
        split at hl
        · simp at hl
        · rename_i found
          obtain rfl := Except.ok.inj hl
          have start_eq : ∀ p, (fs.unlink s).start p = fs.start p := fun _ => rfl
          rw [start_eq]
          cases after :
            (fs.unlink s).walk (fs.start (Path.ofText text)) (Path.ofText text).names with
          | error e => rfl
          | ok p => simp [node?_of_walk_unlink found after]

end FileSystem

end PipelineWorker
