/-
How deep the parts of a pattern are nested.

A part has a height: nothing and single characters have none, a group, a repetition or a class adds
one to what is inside, and so do two parts or more that stand one behind the other.

* `height_le_height_push`, `le_height_push` — a row is at least as high as each of its parts.
-/

namespace PipelineWorker.Pattern

/-- Parts that stand one behind the other, by their heights. -/
structure Row where
  size : Nat := 0
  /-- The greatest height of those in front of the last one. -/
  front : Nat := 0
  /-- The height of the last one. -/
  last : Nat := 0
  /-- Whether the last one can be repeated. -/
  repeatable : Bool := false
  deriving DecidableEq, Repr

namespace Row

/-- Another part at the end. -/
def push (height : Nat) (repeatable : Bool) (r : Row) : Row :=
  { size := r.size + 1, front := max r.front r.last, last := height, repeatable }

/-- The row with its last part repeated. -/
def repeatLast? (r : Row) : Option Row :=
  if r.repeatable then some { r with last := r.last + 1 } else none

/-- The height of the whole row. -/
def height (r : Row) : Nat := if r.size ≤ 1 then r.last else max r.front r.last + 1

/-- A row is at least as high as the part at its end. -/
theorem le_height_push (height : Nat) (repeatable : Bool) (r : Row) :
    height ≤ (r.push height repeatable).height := by
  rw [Row.height]
  split
  · exact Nat.le_refl height
  · exact Nat.le_succ_of_le (Nat.le_max_right ..)

/-- A row does not sink by a part at its end. -/
theorem height_le_height_push {r : Row} (h : r.size ≠ 0) (height : Nat) (repeatable : Bool) :
    r.height ≤ (r.push height repeatable).height := by
  have grown : ¬(r.push height repeatable).size ≤ 1 := by
    simp only [push]
    omega
  have pushed : (r.push height repeatable).height = max (max r.front r.last) height + 1 :=
    if_neg grown
  rw [pushed, Row.height]
  split <;> omega

end Row

end PipelineWorker.Pattern
