/-
The segments that a worker has attached.

Attaching is counted per key: the first attachment maps the segment's file, later ones share the
mapping, and the last detachment drops it.  The files stay where they are.  The primary segment is
the first one attached since there was none.

* `lookup_insert` — the entries read as a finite map;
* `attach_of_attached` — attaching an attached key shares the mapping and counts one up.
-/
import PipelineWorker.Segment.Handle
import PipelineWorker.Log.Event
import PipelineWorker.Text.Quoted

namespace PipelineWorker

namespace SegmentKey

/-- The name of the file behind a segment: the key as a word, in hexadecimal. -/
def fileName (k : SegmentKey) : String :=
  let digits := Nat.toDigits 16 k.number.toUInt32.toNat
  "basalt-seg-" ++ String.ofList (List.replicate (8 - digits.length) '0' ++ digits)

/-- The path of the file behind a segment. -/
def path (k : SegmentKey) (dir : String) : String := Path.join dir k.fileName

/-- The order of keys. -/
def before (k l : SegmentKey) : Bool := decide (k.number < l.number)

end SegmentKey

/-- Takes the file of a segment away.  Those that have it mapped keep it. -/
def removeSegment (dir : String) (key : SegmentKey) (fs : FileSystem) :
    Except OsFailure Unit × FileSystem :=
  fs.remove (key.path dir)

/-- One attached segment. -/
structure Attachment where
  handle : SegmentHandle
  /-- Attachments not yet detached. -/
  count : Nat
  deriving DecidableEq, Repr

/-- The segments attached through one object, in the order of their keys. -/
structure SegmentAccess where
  dir : String
  entries : List (SegmentKey × Attachment) := []
  primaryKey : Option SegmentKey := none
  deriving DecidableEq, Repr

namespace SegmentAccess

/-- Puts an entry in its place among entries in order, or over the one with its key. -/
def insert (key : SegmentKey) (a : Attachment) :
    List (SegmentKey × Attachment) → List (SegmentKey × Attachment)
  | [] => [(key, a)]
  | (k, b) :: rest =>
    if k = key then (key, a) :: rest
    else if key.before k then (key, a) :: (k, b) :: rest
    else (k, b) :: insert key a rest

/-- The attachment of a key. -/
def attachment? (s : SegmentAccess) (key : SegmentKey) : Option Attachment := s.entries.lookup key

/-- How often a key is attached. -/
def attachCount (s : SegmentAccess) (key : SegmentKey) : Nat :=
  ((s.attachment? key).map Attachment.count).getD 0

/-- The handle of an attached segment. -/
def get? (s : SegmentAccess) (key : SegmentKey) : Option SegmentHandle :=
  (s.attachment? key).map Attachment.handle

/-- The working segment. -/
def primary? (s : SegmentAccess) : Option SegmentHandle := s.primaryKey.bind s.get?

/-- Attaches `key` with at least `size` bytes. -/
def attach (key : SegmentKey) (size : Nat) (s : SegmentAccess) (fs : FileSystem) :
    Except SegmentError SegmentHandle × SegmentAccess × FileSystem × List Event :=
  match s.attachment? key with
  | some a =>
    let count := a.count + 1
    let events := if a.handle.length < size
      then [.attachedSmaller key size a.handle.length, .reattached key count]
      else [.reattached key count]
    (.ok a.handle, { s with entries := insert key { a with count } s.entries }, fs, events)
  | none =>
    let path := key.path s.dir
    match openOrCreate path size fs with
    | (.error f, fs) => (.error (.unavailable key size s!"{path}: {f.message}"), s, fs, [])
    | (.ok mapping, fs) =>
      let handle : SegmentHandle := { key, mapping }
      (.ok handle,
        { s with
          entries := insert key { handle, count := 1 } s.entries
          primaryKey := s.primaryKey.or (some key) },
        fs, [.attached key mapping.length mapping.created path])

/-- Takes back one attachment.  Says whether it was the last one of its key. -/
def detach (key : SegmentKey) (s : SegmentAccess) : Bool × SegmentAccess × List Event :=
  match s.attachment? key with
  | none => (false, s, [])
  | some a =>
    let count := a.count - 1
    if 0 < count then
      (false, { s with entries := insert key { a with count } s.entries }, [])
    else
      (true,
        { s with
          entries := s.entries.filter (·.1 ≠ key)
          primaryKey := if s.primaryKey = some key then none else s.primaryKey },
        [.detached key])

/-- Takes back all attachments. -/
def detachAll (s : SegmentAccess) : SegmentAccess × List Event :=
  ({ s with entries := [], primaryKey := none },
    if s.entries.isEmpty then [] else [.detachingAll s.entries.length])

/-- The text of the object where values are spelled out. -/
def detail (s : SegmentAccess) : String :=
  let keys := ", ".intercalate (s.entries.map fun (k, _) => k.detail)
  let primary := match s.primaryKey with
    | none => "None"
    | some k => "Some(" ++ k.detail ++ ")"
  "SharedMemoryAccess \x7b dir: " ++ Quoted.encode s.dir ++ ", keys: [" ++ keys ++ "], primary: " ++
    primary ++ " \x7d"

@[simp] theorem lookup_insert (key k : SegmentKey) (a : Attachment)
    (entries : List (SegmentKey × Attachment)) :
    (insert key a entries).lookup k = if k = key then some a else entries.lookup k := by
  have off : ∀ {x y : SegmentKey}, x ≠ y → (x == y) = false := fun h => by simp [h]
  induction entries with
  | nil =>
    by_cases h : k = key
    · simp [insert, h]
    · simp [insert, List.lookup_cons, off h, h]
  | cons e rest ih =>
    obtain ⟨l, b⟩ := e
    simp only [insert]
    split
    · rename_i hl
      by_cases h : k = key
      · simp [h]
      · simp [List.lookup_cons, hl, off h, h]
    · rename_i hl
      split
      · by_cases h : k = key
        · simp [h]
        · simp [List.lookup_cons, off h, h]
      · by_cases h : k = key
        · subst h
          simp [List.lookup_cons, off (Ne.symm hl), ih]
        · simp [List.lookup_cons, ih, h]

/-- All that can go wrong with an attach is that the segment is unavailable. -/
theorem attach_error {s : SegmentAccess} {key : SegmentKey} {size : Nat} {fs : FileSystem}
    {e : SegmentError} (h : (s.attach key size fs).1 = .error e) :
    ∃ text, e = .unavailable key size text := by
  unfold attach at h
  split at h
  · simp at h
  · dsimp only at h
    split at h
    · simp only [Except.error.injEq] at h
      exact ⟨_, h.symm⟩
    · simp at h

/-- Attaching an attached key shares the mapping and counts one up. -/
theorem attach_of_attached {s : SegmentAccess} {key : SegmentKey} {a : Attachment}
    (h : s.attachment? key = some a) (size : Nat) (fs : FileSystem) :
    let r := s.attach key size fs
    r.1 = .ok a.handle ∧ r.2.1.attachCount key = a.count + 1 ∧ r.2.2.1 = fs := by
  simp only [attach, h]
  simp [attachCount, attachment?]

end SegmentAccess

end PipelineWorker
