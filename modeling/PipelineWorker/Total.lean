/-
Totals over lists.

* `total_set_add` — replacing an element replaces its share in the total.
-/

namespace PipelineWorker

/-- What the elements of a list come to, each counted by `f`. -/
def total {α : Type} (f : α → Nat) : List α → Nat
  | [] => 0
  | a :: as => f a + total f as

@[simp] theorem total_nil {α : Type} (f : α → Nat) : total f [] = 0 := rfl

@[simp] theorem total_cons {α : Type} (f : α → Nat) (a : α) (as : List α) :
    total f (a :: as) = f a + total f as := rfl

/-- Replacing an element replaces its share. -/
theorem total_set_add {α : Type} (f : α → Nat) (as : List α) (i : Nat) (a : α)
    (h : i < as.length) : total f (as.set i a) + f as[i] = total f as + f a := by
  induction as generalizing i with
  | nil => simp at h
  | cons x xs ih =>
    cases i with
    | zero => simp; omega
    | succ i =>
      have := ih i (by simpa using h)
      simp only [List.set_cons_succ, total_cons, List.getElem_cons_succ]
      omega

end PipelineWorker
