/-
What stands behind an opening parenthesis: a group, with or without a name, or flags.

* `read?_of_plain` — without a question mark a group without a name begins.
-/
import PipelineWorker.Log.Pattern.Modes
import PipelineWorker.Text.Alphanumeric

namespace PipelineWorker.Pattern

/-- What a parenthesis begins. -/
inductive Head
  /-- A group, and the modes in it. -/
  | group (modes : Modes) (name : Option (List Char))
  /-- Flags for the rest of the group around them. -/
  | flags (modes : Modes)
  deriving DecidableEq, Repr

namespace Head

/-- Whether the name of a group may begin with that character. -/
def mayStart (c : Char) : Bool := c = '_' || isAlphabetic c

/-- Whether the name of a group may go on with that character. -/
def mayFollow (c : Char) : Bool :=
  c = '_' || c = '.' || c = '[' || c = ']' || isAlphanumeric c

/-- The name of a group up to its closing angle bracket. -/
def name? (cs : List Char) : Option (List Char × List Char) :=
  match cs.span (· ≠ '>') with
  | (c :: name, '>' :: rest) =>
    if mayStart c && name.all mayFollow then some (c :: name, rest) else none
  | _ => none

/-- Reads flags behind their question mark, for a group of their own or for the one around them. -/
def ofFlags? (m : Modes) (cs : List Char) : Option (Head × List Char) :=
  match cs.span fun c => c ≠ ':' && c ≠ ')' with
  | (letters, ':' :: rest) =>
    if areFlags letters then some (.group (m.change true letters) none, rest) else none
  | (letters, ')' :: rest) =>
    if letters ≠ [] && areFlags letters then some (.flags (m.change true letters), rest) else none
  | _ => none

/-- Reads what stands behind a parenthesis. -/
def read? (m : Modes) (cs : List Char) : Option (Head × List Char) :=
  match m.dropBlanks cs with
  | '?' :: 'P' :: '<' :: cs => (name? cs).map fun (name, rest) => (.group m (some name), rest)
  | '?' :: '<' :: cs => (name? cs).map fun (name, rest) => (.group m (some name), rest)
  | '?' :: cs => ofFlags? m cs
  | cs => some (.group m none, cs)

/-- Without a question mark a group without a name begins. -/
theorem read?_of_plain {m : Modes} {cs : List Char} (h : (m.dropBlanks cs).head? ≠ some '?') :
    read? m cs = some (.group m none, m.dropBlanks cs) := by
  rw [read?]
  split <;> simp_all

end Head

end PipelineWorker.Pattern
