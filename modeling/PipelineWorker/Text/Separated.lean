/-
Texts made of fields between separators, and fields that are decimal numbers.

* `join_split` — putting the separators back gives the text;
* `not_mem_of_mem_split` — no field contains the separator;
* `split_append_cons` — a separator closes the field in front of it;
* `decimal?_eq_some_iff` — a decimal number is a non-empty run of ASCII digits.
-/

namespace PipelineWorker

namespace Separated

/-- The fields of a text.  There is always at least one. -/
def split (sep : Char) : List Char → List (List Char)
  | [] => [[]]
  | c :: cs =>
    if c = sep then [] :: split sep cs
    else
      match split sep cs with
      | [] => [[c]]
      | f :: fs => (c :: f) :: fs

/-- The fields with a separator between any two. -/
def join (sep : Char) : List (List Char) → List Char
  | [] => []
  | [f] => f
  | f :: g :: fs => f ++ sep :: join sep (g :: fs)

theorem split_ne_nil (sep : Char) (cs : List Char) : split sep cs ≠ [] := by
  cases cs with
  | nil => simp [split]
  | cons c cs =>
    simp only [split]
    split
    · simp
    · split <;> simp

/-- Putting the separators back gives the text. -/
theorem join_split (sep : Char) (cs : List Char) : join sep (split sep cs) = cs := by
  induction cs with
  | nil => rfl
  | cons c cs ih =>
    have hne := split_ne_nil sep cs
    simp only [split]
    split
    · subst_vars
      cases h : split c cs with
      | nil => exact absurd h hne
      | cons f fs => rw [h] at ih; simp [join, ih]
    · cases h : split sep cs with
      | nil => exact absurd h hne
      | cons f fs =>
        rw [h] at ih
        cases fs with
        | nil => simp_all [join]
        | cons g gs => simp_all [join]

/-- No field contains the separator. -/
theorem not_mem_of_mem_split {sep : Char} {cs f : List Char} (h : f ∈ split sep cs) :
    sep ∉ f := by
  induction cs generalizing f with
  | nil => simp_all [split]
  | cons c cs ih =>
    simp only [split] at h
    split at h
    · rcases List.mem_cons.1 h with rfl | h
      · simp
      · exact ih h
    · rename_i hc
      cases hs : split sep cs with
      | nil => exact absurd hs (split_ne_nil sep cs)
      | cons g gs =>
        rw [hs] at h ih
        rcases List.mem_cons.1 h with rfl | h
        · have := ih (List.mem_cons_self ..)
          simp [this, Ne.symm hc]
        · exact ih (List.mem_cons_of_mem _ h)

/-- A separator closes the field in front of it. -/
theorem split_append_cons (sep : Char) (cs ds : List Char) :
    split sep (cs ++ sep :: ds) = split sep cs ++ split sep ds := by
  induction cs with
  | nil => simp [split]
  | cons c cs ih =>
    have := split_ne_nil sep cs
    simp only [List.cons_append, split, ih]
    split
    · rfl
    · cases h : split sep cs with
      | nil => contradiction
      | cons f fs => rfl

theorem split_of_not_mem {sep : Char} {cs : List Char} (h : sep ∉ cs) : split sep cs = [cs] := by
  induction cs with
  | nil => rfl
  | cons c cs ih =>
    rw [List.mem_cons, not_or] at h
    simp [split, ih h.2, Ne.symm h.1]

end Separated

/-- An ASCII decimal digit. -/
def isDigit (c : Char) : Bool := '0' ≤ c && c ≤ '9'

/-- The number that a run of digits spells, behind the number `n`. -/
def decimalFrom (n : Nat) (cs : List Char) : Nat :=
  cs.foldl (fun n c => 10 * n + (c.toNat - '0'.toNat)) n

/-- The number that a field of digits spells; leading zeros are allowed, signs are not. -/
def decimal? (cs : List Char) : Option Nat :=
  if cs ≠ [] ∧ cs.all isDigit then some (decimalFrom 0 cs) else none

theorem decimal?_eq_some_iff {cs : List Char} {n : Nat} :
    decimal? cs = some n ↔ cs ≠ [] ∧ (∀ c ∈ cs, isDigit c) ∧ decimalFrom 0 cs = n := by
  simp [decimal?, and_assoc]

end PipelineWorker
