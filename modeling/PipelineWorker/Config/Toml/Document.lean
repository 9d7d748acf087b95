/-
Documents: how keys and headers build up one table.

A table comes into being in one of three ways: by a header of its own, on the way to a header or
another key, or by dotted keys; and what may still be added to it depends on that.  Dotted keys
write to tables of their own kind alone.  They may pass through a table made on the way to a header,
or through the last one of an array, but tables with a header of their own are closed to them.

* `lookup_set` — setting an entry is seen at its key alone.
-/
import PipelineWorker.Config.Toml.Scalar

namespace PipelineWorker.Toml

/-- How a table came into being. -/
inductive Origin
  /-- On the way to a table further down. -/
  | implicit
  /-- By a header of its own. -/
  | header
  /-- By dotted keys. -/
  | dotted
  deriving DecidableEq, Repr

/-- What stands under a key. -/
inductive Tree
  | value (v : Value)
  | table (origin : Origin) (entries : List (String × Tree))
  /-- An array of tables; only its last table can still grow. -/
  | tables (last : List (String × Tree))

/-- The entries of a table, by key. -/
abbrev Entries := List (String × Tree)

namespace Entries

/-- Puts an entry under a key, in place of the one that is there. -/
def set (key : String) (t : Tree) : Entries → Entries
  | [] => [(key, t)]
  | (k, u) :: rest => if k = key then (key, t) :: rest else (k, u) :: set key t rest

theorem lookup_set (key k : String) (t : Tree) (es : Entries) :
    (set key t es).lookup k = if k = key then some t else es.lookup k := by
  have off : ∀ {x y : String}, x ≠ y → (x == y) = false := fun h => by simp [h]
  induction es with
  | nil =>
    by_cases h : k = key
    · simp [set, h]
    · simp [set, List.lookup_cons, off h, h]
  | cons e rest ih =>
    obtain ⟨l, u⟩ := e
    simp only [set]
    split
    · rename_i hl
      by_cases h : k = key
      · simp [h]
      · simp [List.lookup_cons, hl, off h, h]
    · rename_i hl
      by_cases h : k = key
      · subst h
        simp [List.lookup_cons, off (Ne.symm hl), ih]
      · simp [List.lookup_cons, ih, h]

/-- Adds a value under a dotted key. -/
def put (v : Value) : List String → Entries → Option Entries
  | [], _ => none
  | [key], es => if (es.lookup key).isSome then none else some (set key (.value v) es)
  | key :: next :: path, es =>
    match es.lookup key with
    | none => do return set key (.table .dotted (← put v (next :: path) [])) es
    | some (.table .dotted sub) => do
      return set key (.table .dotted (← put v (next :: path) sub)) es
    | some (.table .implicit sub) =>
      -- Such a table, or one in an array, may be passed through but not written to.
      if path = [] then none
      else do return set key (.table .implicit (← put v (next :: path) sub)) es
    | some (.tables last) =>
      if path = [] then none
      else do return set key (.tables (← put v (next :: path) last)) es
    | some _ => none

/-- Changes the table at a path, making what is missing on the way. -/
def modify (f : Entries → Option Entries) : List String → Entries → Option Entries
  | [], es => f es
  | key :: path, es =>
    match es.lookup key with
    | none => do return set key (.table .implicit (← modify f path [])) es
    | some (.table origin sub) => do return set key (.table origin (← modify f path sub)) es
    | some (.tables last) => do return set key (.tables (← modify f path last)) es
    | some (.value _) => none

/-- Opens the table `key` by a header. -/
def openTable (key : String) (es : Entries) : Option Entries :=
  match es.lookup key with
  | none => some (set key (.table .header []) es)
  | some (.table .implicit sub) => some (set key (.table .header sub) es)
  | some _ => none

/-- Opens another table in the array `key`. -/
def openNext (key : String) (es : Entries) : Option Entries :=
  match es.lookup key with
  | none | some (.tables _) => some (set key (.tables []) es)
  | some _ => none

end Entries

/-- One line of a document. -/
inductive Statement
  | pair (path : List String) (value : Value)
  | table (path : List String)
  | nextTable (path : List String)

/-- The table that the statements build, if they agree with each other; `here` is the path of the
table that pairs go to. -/
def assemble : List Statement → List String → Entries → Option Entries
  | [], _, es => some es
  | .pair path v :: rest, here, es => do
    assemble rest here (← Entries.modify (Entries.put v path) here es)
  | .table path :: rest, _, es => do
    let key ← path.getLast?
    assemble rest path (← Entries.modify (Entries.openTable key) path.dropLast es)
  | .nextTable path :: rest, _, es => do
    let key ← path.getLast?
    assemble rest path (← Entries.modify (Entries.openNext key) path.dropLast es)

end PipelineWorker.Toml
