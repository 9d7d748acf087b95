/-
Classes of characters in brackets, such as `[a-z_]`.

A class holds characters, ranges of them and further classes, and two of `&`, `-` or `~` join what
stands before and behind them.  Hyphens at the beginning, or else a closing bracket there, stand for
themselves.

* `nameOf?_eq_none_of_ne` — the named classes begin with a colon.
-/
import PipelineWorker.Log.Pattern.Atom
import PipelineWorker.Log.Pattern.Row

namespace PipelineWorker.Pattern

/-- A class of which the closing bracket has not been read. -/
structure Bracket where
  /-- The height of the operands joined so far. -/
  joined : Option Nat := none
  row : Row := {}
  /-- Whether nothing but hyphens was read. -/
  fresh : Bool := true
  deriving DecidableEq, Repr

namespace Bracket

/-- The height of what is between the brackets. -/
def inner (b : Bracket) : Nat :=
  match b.joined with
  | none => b.row.height
  | some height => max height b.row.height + 1

/-- The height of the class. -/
def height (b : Bracket) : Nat := b.inner + 1

/-- Another member. -/
def push (height : Nat) (b : Bracket) : Bracket :=
  { b with row := b.row.push height false, fresh := false }

/-- Goes on behind an operator. -/
def nextOperand (b : Bracket) : Bracket := { joined := some b.inner, fresh := false }

/-- The names of classes that hold characters of ASCII. -/
def names : List String :=
  ["alnum", "alpha", "ascii", "blank", "cntrl", "digit", "graph", "lower", "print", "punct",
    "space", "upper", "word", "xdigit"]

/-- Reads a named class such as `[:^alpha:]` behind its bracket, and says whether it is negated. -/
def nameOf? : List Char → Option (Bool × List Char)
  | ':' :: cs =>
    let (negated, cs) := match cs with
      | '^' :: cs => (true, cs)
      | cs => (false, cs)
    match cs.span (· ≠ ':') with
    | (name, ':' :: ']' :: rest) =>
      if names.contains (String.ofList name) then some (negated, rest) else none
    | _ => none
  | _ => none

/-- Whether a named class can be a member. -/
def allowsName (m : Modes) (negated : Bool) : Bool :=
  if m.unicode then !m.ignoreCase else !negated

/-- Reads the beginning of a class behind its bracket.  Bytes cannot be negated. -/
def start? (m : Modes) (cs : List Char) : Option (Bracket × List Char) :=
  match m.dropBlanks cs with
  | '^' :: cs => if m.unicode then some ({}, cs) else none
  | cs => some ({}, cs)

/-- Reads one character or a range.  A hyphen makes a range unless a closing bracket or another
hyphen follows. -/
def member? (m : Modes) (cs : List Char) : Option (List Char) := do
  let (first, cs) ← Atom.readInClass? m cs
  let single := fun cs => if first.isMember m then some cs else none
  match m.dropBlanks cs with
  | '-' :: rest =>
    if m.peek? rest = some ']' || m.peek? rest = some '-' then single ('-' :: rest)
    else
      let (last, cs) ← Atom.readInClass? m (m.dropBlanks rest)
      match first, last with
      | .literal a _, .literal b _ =>
        if a ≤ b && first.isMember m && last.isMember m then some cs else none
      | _, _ => none
  | cs => single cs

/-- Reads a class up to its closing bracket; `outer` holds the classes around it, the innermost
first.  The answer is the height of the outermost class. -/
def read? (m : Modes) (outer : List Bracket) (b : Bracket) :
    Nat → List Char → Option (Nat × List Char)
  | 0, _ => none
  | fuel + 1, cs =>
    match m.dropBlanks cs with
    | [] => none
    | c :: cs =>
      if b.fresh && (c = '-' || (c = ']' && b.row.size = 0)) then
        if (Atom.literal c false).isMember m then
          read? m outer { b.push 0 with fresh := c = '-' } fuel cs
        else none
      else
        match c, cs with
        | '[', cs =>
          match nameOf? cs with
          | some (negated, cs) =>
            if allowsName m negated then read? m outer (b.push 0) fuel cs else none
          | none => do
            let (inside, cs) ← start? m cs
            read? m (b :: outer) inside fuel cs
        | ']', cs =>
          match outer with
          | [] => some (b.height, cs)
          | around :: outer => read? m outer (around.push b.height) fuel cs
        | '&', '&' :: cs | '-', '-' :: cs | '~', '~' :: cs =>
          read? m outer b.nextOperand fuel cs
        | c, cs => do read? m outer (b.push 0) fuel (← member? m (c :: cs))

theorem nameOf?_eq_none_of_ne {c : Char} (h : c ≠ ':') (cs : List Char) :
    nameOf? (c :: cs) = none := by
  unfold nameOf?
  split
  · simp_all
  · rfl

end Bracket

end PipelineWorker.Pattern
