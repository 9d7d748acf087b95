/-
The parts of a pattern that stand for one character or for a place.

* `read?_of_isAlphanum` — letters and digits of ASCII stand for themselves.
-/
import PipelineWorker.Log.Pattern.Modes

namespace PipelineWorker.Pattern

/-- A part of a pattern without parts of its own. -/
inductive Atom
  /-- One character.  Two hexadecimal digits write a byte, which is one only below 128. -/
  | literal (c : Char) (byte : Bool)
  /-- Any character. -/
  | any
  /-- Digits, blanks or the characters of words, or all others. -/
  | shorthand (negated : Bool)
  /-- The beginning or the end of the text or of a line. -/
  | edge
  /-- The beginning or the end of a word, or neither. -/
  | wordEdge
  deriving DecidableEq, Repr

namespace Atom

/-! ### Escapes -/

/-- So many characters, with what does not count before each. -/
def digits? (m : Modes) : Nat → List Char → Option (List Char × List Char)
  | 0, cs => some ([], cs)
  | n + 1, cs =>
    match m.dropBlanks cs with
    | [] => none
    | d :: cs => (digits? m n cs).map fun (ds, rest) => (d :: ds, rest)

/-- A character that is written by so many hexadecimal digits. -/
def hexadecimal? (m : Modes) (n : Nat) (cs : List Char) : Option (Atom × List Char) := do
  let (digits, rest) ← digits? m n cs
  return (.literal (← Toml.charOf? digits) (n = 2), rest)

/-- Whether a character behind a backslash stands for itself. -/
def isEscapable (c : Char) : Bool := c.toNat < 0x80 && !c.isAlphanum && c ≠ '<' && c ≠ '>'

/-- What one character behind a backslash stands for. -/
def ofEscape? (c : Char) : Option Atom :=
  match c with
  | 'a' => some (.literal '\x07' false)
  | 'f' => some (.literal '\x0c' false)
  | 't' => some (.literal '\t' false)
  | 'n' => some (.literal '\n' false)
  | 'r' => some (.literal '\r' false)
  | 'v' => some (.literal '\x0b' false)
  | 'd' | 's' | 'w' => some (.shorthand false)
  | 'D' | 'S' | 'W' => some (.shorthand true)
  | 'A' | 'z' => some .edge
  | 'b' | 'B' | '<' | '>' => some .wordEdge
  | _ => if isEscapable c then some (.literal c false) else none

/-- An escape behind its backslash. -/
def escape? (m : Modes) : List Char → Option (Atom × List Char)
  | [] => none
  | 'x' :: cs => hexadecimal? m 2 cs
  | 'u' :: cs => hexadecimal? m 4 cs
  | 'U' :: cs => hexadecimal? m 8 cs
  | c :: cs => (ofEscape? c).map (·, cs)

/-! ### Reading -/

/-- The atom at the beginning of a text. -/
def read? (m : Modes) : List Char → Option (Atom × List Char)
  | [] => none
  | '\\' :: cs => escape? m cs
  | '.' :: cs => some (.any, cs)
  | '^' :: cs | '$' :: cs => some (.edge, cs)
  | c :: cs => some (.literal c false, cs)

/-- The atom at the beginning of a text in a class, where only the backslash is special. -/
def readInClass? (m : Modes) : List Char → Option (Atom × List Char)
  | [] => none
  | '\\' :: cs => escape? m cs
  | c :: cs => some (.literal c false, cs)

/-! ### Limits

There are no tables of letters and digits of all scripts, nor of small and capital letters, and
bytes that are no characters cannot be searched for. -/

/-- Whether an atom can be searched for. -/
def isAllowed (m : Modes) : Atom → Bool
  | literal c byte => if m.unicode then !m.ignoreCase else !(byte && 0x80 ≤ c.toNat)
  | any => m.unicode
  | shorthand negated => !m.unicode && !negated
  | edge | wordEdge => true

/-- Whether an atom can be a member of a class. -/
def isMember (m : Modes) : Atom → Bool
  | literal c _ => if m.unicode then !m.ignoreCase else decide (c.toNat < 0x80)
  | shorthand negated => !m.unicode && !negated
  | any | edge | wordEdge => false

/-- Whether an atom asks which characters of all scripts make words. -/
def needsWords (m : Modes) (a : Atom) : Bool := m.unicode && a = .wordEdge

theorem read?_of_isAlphanum {c : Char} (h : c.isAlphanum = true) (m : Modes) (cs : List Char) :
    read? m (c :: cs) = some (.literal c false, cs) := by
  unfold read?
  split <;> simp_all

end Atom

end PipelineWorker.Pattern
