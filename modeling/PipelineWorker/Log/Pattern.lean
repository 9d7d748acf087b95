/-
Patterns for the values of fields, such as `conn#[0-9]+`.

Nothing of the worker is ever matched against a pattern, but a directive with a malformed one is
refused.  A pattern is a sequence of characters, escapes, classes in brackets and groups in
parentheses, each of which may be repeated, with bars between alternatives.  It holds neither an
equals sign nor a closing brace, which both end it, and so an opening brace stands only behind a
backslash or in a class.

* `check_of_isAlphanum` — a text of ASCII letters and digits is a pattern;
* `check_eq_malformed_of_unclosed` — a group that is not closed makes a text malformed.
-/
import PipelineWorker.Log.Pattern.Bracket
import PipelineWorker.Log.Pattern.Head

namespace PipelineWorker

/-- Why a text cannot be used as a pattern. -/
inductive PatternError
  | malformed
  /-- It asks which characters of all scripts make words. -/
  | needsWords
  deriving DecidableEq, Repr

/-- The text of the error. -/
def PatternError.message : PatternError → String
  | malformed => "error building NFA"
  | needsWords => "unsupported regex feature for DFAs: cannot build DFAs for regexes with " ++
      "Unicode word boundaries; switch to ASCII word boundaries, or heuristically enable " ++
      "Unicode word boundaries or use a different regex engine"

namespace Pattern

/-- How deep a pattern may be nested. -/
def maxHeight : Nat := 250

/-- A group of which the closing parenthesis has not been read, or the whole pattern. -/
structure Group where
  /-- The modes of what comes next. -/
  modes : Modes := {}
  /-- The greatest height of the alternatives that ended with a bar. -/
  alternatives : Option Nat := none
  /-- The alternative that is being read. -/
  row : Row := {}
  deriving DecidableEq, Repr

namespace Group

/-- The height of what was read in the group. -/
def height (g : Group) : Nat :=
  match g.alternatives with
  | none => g.row.height
  | some height => max height g.row.height + 1

/-- Another part. -/
def push (height : Nat) (repeatable : Bool) (g : Group) : Group :=
  { g with row := g.row.push height repeatable }

/-- Goes on behind a bar. -/
def nextAlternative (g : Group) : Group :=
  { g with alternatives := some (max (g.alternatives.getD 0) g.row.height), row := {} }

end Group

/-- How far the reading of a pattern has come. -/
structure Progress where
  /-- The innermost group that is open. -/
  here : Group := {}
  /-- The groups around it, the innermost first. -/
  outer : List Group := []
  /-- The names of groups so far. -/
  names : List (List Char) := []
  /-- Whether some part asks which characters of all scripts make words. -/
  needsWords : Bool := false
  deriving DecidableEq, Repr

namespace Progress

/-- Another part of the innermost group. -/
def push (height : Nat) (repeatable : Bool) (p : Progress) : Progress :=
  { p with here := p.here.push height repeatable }

/-- Opens a group, or puts flags behind what was read.  No two groups have the same name. -/
def begin? (h : Head) (p : Progress) : Option Progress :=
  match h with
  | .flags modes => some { p with here := { p.here.push 0 false with modes } }
  | .group modes name =>
    if name.any p.names.contains then none
    else some { p with
      here := { modes }, outer := p.here :: p.outer, names := name.toList ++ p.names }

/-- Closes the innermost group. -/
def close? (p : Progress) : Option Progress :=
  match p.outer with
  | [] => none
  | around :: outer => some { p with here := around.push (p.here.height + 1) true, outer }

/-- Repeats the part in front, unless there is none. -/
def repeatLast? (p : Progress) : Option Progress :=
  p.here.row.repeatLast?.map fun row => { p with here := { p.here with row } }

/-- Puts an atom behind what was read. -/
def pushAtom? (a : Atom) (p : Progress) : Option Progress :=
  if a.isAllowed p.here.modes then
    some { p.push 0 true with needsWords := p.needsWords || a.needsWords p.here.modes }
  else none

/-- Reads one part, which begins with the character `c`.  At most `fuel` characters follow. -/
def step? (fuel : Nat) (c : Char) (cs : List Char) (p : Progress) :
    Option (Progress × List Char) :=
  match c with
  | '(' => do
    let (head, rest) ← Head.read? p.here.modes cs
    return (← p.begin? head, rest)
  | ')' => p.close?.map (·, cs)
  | '|' => some ({ p with here := p.here.nextAlternative }, cs)
  | '[' => do
    let (b, rest) ← Bracket.start? p.here.modes cs
    let (height, rest) ← Bracket.read? p.here.modes [] b (fuel + 1) rest
    return (p.push height true, rest)
  | '*' | '+' | '?' =>
    let rest := match cs with
      | '?' :: rest => rest
      | rest => rest
    p.repeatLast?.map (·, rest)
  | '\x7b' => none
  | _ => do
    let (atom, rest) ← Atom.read? p.here.modes (c :: cs)
    return (← p.pushAtom? atom, rest)

/-- Reads a pattern to its end. -/
def run? : Nat → List Char → Progress → Option Progress
  | 0, _, _ => none
  | fuel + 1, cs, p =>
    match p.here.modes.dropBlanks cs with
    | [] => some p
    | c :: cs =>
      match p.step? fuel c cs with
      | none => none
      | some (p, rest) => run? fuel rest p

/-- Whether what was read is a whole pattern. -/
def check (p : Progress) : Except PatternError Unit :=
  if p.outer ≠ [] || maxHeight < p.here.height then .error .malformed
  else if p.needsWords then .error .needsWords
  else .ok ()

end Progress

/-- Whether a text is a pattern. -/
def check (cs : List Char) : Except PatternError Unit :=
  match Progress.run? (cs.length + 1) cs {} with
  | none => .error .malformed
  | some p => p.check

/-! ### Small laws -/

/-- A group that is not closed makes a text malformed. -/
theorem check_eq_malformed_of_unclosed {cs : List Char} {p : Progress}
    (h : Progress.run? (cs.length + 1) cs {} = some p) (unclosed : p.outer ≠ []) :
    check cs = .error .malformed := by
  simp [check, h, Progress.check, unclosed]

namespace Progress

/-- Whether nothing but single characters was read. -/
structure IsPlain (p : Progress) : Prop where
  modes : p.here.modes = {}
  alternatives : p.here.alternatives = none
  front : p.here.row.front = 0
  last : p.here.row.last = 0
  outer : p.outer = []
  needsWords : p.needsWords = false

theorem check_of_isPlain {p : Progress} (h : p.IsPlain) : p.check = .ok () := by
  have low : p.here.height ≤ 1 := by
    simp only [Group.height, h.alternatives, Row.height, h.front, h.last]
    split <;> simp
  have fits : ¬maxHeight < p.here.height := by
    simp only [maxHeight]
    omega
  simp [check, h.outer, h.needsWords, fits]

theorem step?_of_isAlphanum {c : Char} (hc : c.isAlphanum = true) {p : Progress} (h : p.IsPlain)
    (fuel : Nat) (cs : List Char) : ∃ q, p.step? fuel c cs = some (q, cs) ∧ q.IsPlain := by
  have off : ∀ x : Char, x.isAlphanum = false → c ≠ x := fun x hx e => by simp [← e, hc] at hx
  have pushed : p.pushAtom? (.literal c false) = some (p.push 0 true) := by
    simp [pushAtom?, Atom.isAllowed, Atom.needsWords, h.modes, push]
  refine ⟨p.push 0 true, ?_, ?_⟩
  · unfold step?
    split
    case h_9 => simp [Atom.read?_of_isAlphanum hc, pushed]
    all_goals exact absurd rfl (off _ (by decide))
  · exact ⟨h.modes, h.alternatives, by simp [push, Group.push, Row.push, h.front, h.last], rfl,
      h.outer, h.needsWords⟩

theorem run?_of_isAlphanum {cs : List Char} (hcs : ∀ c ∈ cs, c.isAlphanum = true) {p : Progress}
    (h : p.IsPlain) : ∃ q, run? (cs.length + 1) cs p = some q ∧ q.IsPlain := by
  induction cs generalizing p with
  | nil => exact ⟨p, by simp [run?, h.modes], h⟩
  | cons c cs ih =>
    obtain ⟨q, step, plain⟩ := step?_of_isAlphanum (hcs c (by simp)) h (cs.length + 1) cs
    obtain ⟨r, run, plain⟩ := ih (fun x hx => hcs x (by simp [hx])) plain
    refine ⟨r, ?_, plain⟩
    rw [List.length_cons, run?, h.modes, Modes.dropBlanks_of_not_verbose rfl]
    simp [step, run]

end Progress

/-- A text of ASCII letters and digits is a pattern. -/
theorem check_of_isAlphanum {cs : List Char} (h : ∀ c ∈ cs, c.isAlphanum = true) :
    check cs = .ok () := by
  obtain ⟨p, run, plain⟩ := Progress.run?_of_isAlphanum h (p := {}) ⟨rfl, rfl, rfl, rfl, rfl, rfl⟩
  simp [check, run, Progress.check_of_isPlain plain]

end Pattern

end PipelineWorker
