/-
What was done, call after call.

A diary of something that is called again and again holds its state as it is now, and lists what
was done with it, latest first, each deed with the state that it found.

* `Diary.run_induction` — what holds at first and is kept by every call holds after any calls;
* `Diary.countP_entries_run` — what every call enters is counted like the calls.
-/

namespace PipelineWorker

/-- One call, as it is told afterwards: the state that it found, and what was asked and answered. -/
structure Deed (σ ε : Type) where
  found : σ
  entry : ε

/-- The state now, and the deeds so far, latest first. -/
structure Diary (σ ε : Type) where
  now : σ
  deeds : List (Deed σ ε) := []

namespace Diary

variable {σ ε χ : Type}

/-- What was entered, latest first. -/
def entries (d : Diary σ ε) : List ε := d.deeds.map Deed.entry

/-- Makes one call and enters it. -/
def enter (call : σ → ε × σ) (d : Diary σ ε) : Diary σ ε :=
  { now := (call d.now).2, deeds := ⟨d.now, (call d.now).1⟩ :: d.deeds }

@[simp] theorem now_enter (call : σ → ε × σ) (d : Diary σ ε) :
    (d.enter call).now = (call d.now).2 := rfl

@[simp] theorem deeds_enter (call : σ → ε × σ) (d : Diary σ ε) :
    (d.enter call).deeds = ⟨d.now, (call d.now).1⟩ :: d.deeds := rfl

@[simp] theorem entries_enter (call : σ → ε × σ) (d : Diary σ ε) :
    (d.enter call).entries = (call d.now).1 :: d.entries := rfl

/-- What each deed comes to, earliest first. -/
def inOrder {α : Type} (f : Deed σ ε → List α) (d : Diary σ ε) : List α :=
  d.deeds.reverse.flatMap f

@[simp] theorem inOrder_enter {α : Type} (f : Deed σ ε → List α) (call : σ → ε × σ)
    (d : Diary σ ε) : (d.enter call).inOrder f = d.inOrder f ++ f ⟨d.now, (call d.now).1⟩ := by
  simp [inOrder]

/-- Makes calls one after the other. -/
def run (make : χ → σ → ε × σ) (calls : List χ) (start : σ) : Diary σ ε :=
  calls.foldl (fun d c => d.enter (make c)) { now := start }

variable {make : χ → σ → ε × σ} {start : σ}

/-- **What holds at first and is kept by every call holds after any calls.** -/
theorem run_induction {P : Diary σ ε → Prop} (hstart : P { now := start })
    (hcall : ∀ d c, P d → P (d.enter (make c))) (calls : List χ) : P (run make calls start) :=
  List.foldlRecOn calls _ hstart fun d hd c _ => hcall d c hd

/-- What every call enters is counted like the calls. -/
theorem countP_entries_run {p : ε → Bool} {q : χ → Bool} (h : ∀ c s, p (make c s).1 = q c)
    (calls : List χ) : (run make calls start).entries.countP p = calls.countP q := by
  have hfold : ∀ (calls : List χ) (d : Diary σ ε),
      (calls.foldl (fun d c => d.enter (make c)) d).entries.countP p
        = d.entries.countP p + calls.countP q := by
    intro calls
    induction calls with
    | nil => exact fun _ => rfl
    | cons c cs ih =>
      intro d
      rw [List.foldl_cons, ih, entries_enter, List.countP_cons, List.countP_cons, h]
      omega
  rw [run, hfold]
  exact Nat.zero_add _

end Diary

end PipelineWorker
