/-
The switches of a pattern, and what is passed over between its parts.

Flags such as `(?i-u)` hold from where they stand to the end of the group around them.

* `dropBlanks_of_not_verbose` — where blanks count, nothing is passed over.
-/
import PipelineWorker.Config.ModuleConfig

namespace PipelineWorker.Pattern

/-- How a part of a pattern is meant. -/
structure Modes where
  /-- Small and capital letters are the same. -/
  ignoreCase : Bool := false
  /-- Characters are taken as such, and not as bytes. -/
  unicode : Bool := true
  /-- Blanks do not count, and comments may be written. -/
  verbose : Bool := false
  deriving DecidableEq, Repr

namespace Modes

/-- Turns the switch of one letter on or off.  The other flags do not decide what a pattern is. -/
def turn (on : Bool) (flag : Char) (m : Modes) : Modes :=
  match flag with
  | 'i' => { m with ignoreCase := on }
  | 'u' => { m with unicode := on }
  | 'x' => { m with verbose := on }
  | _ => m

/-- The modes behind flags; those behind a hyphen are turned off. -/
def change (on : Bool) : List Char → Modes → Modes
  | [], m => m
  | '-' :: flags, m => change false flags m
  | flag :: flags, m => change on flags (m.turn on flag)

end Modes

/-- Whether these are flags, each at most once: some to set and, behind a hyphen, some to clear. -/
def areFlags (cs : List Char) : Bool :=
  cs.all (· ∈ ['i', 'm', 's', 'U', 'u', 'x', 'R', '-']) && decide cs.Nodup &&
    cs.getLast? ≠ some '-'

/-- Drops blanks and comments; `comment` says whether one has begun.  It ends with its line. -/
def dropComments (comment : Bool) : List Char → List Char
  | [] => []
  | c :: cs =>
    if comment then dropComments (c ≠ '\n') cs
    else if isBlank c then dropComments false cs
    else if c = '#' then dropComments true cs
    else c :: cs

namespace Modes

/-- Drops what does not count. -/
def dropBlanks (m : Modes) (cs : List Char) : List Char :=
  if m.verbose then dropComments false cs else cs

/-- The character that a hyphen in a class is judged by.  A comment is looked into for it. -/
def peek? (m : Modes) (cs : List Char) : Option Char :=
  if m.verbose then
    match cs.dropWhile isBlank with
    | '#' :: cs => (cs.dropWhile isBlank).head?
    | cs => cs.head?
  else cs.head?

@[simp] theorem dropBlanks_of_not_verbose {m : Modes} (h : m.verbose = false) (cs : List Char) :
    m.dropBlanks cs = cs := by simp [dropBlanks, h]

end Modes

end PipelineWorker.Pattern
