/-
Which reports are written.

A filter is a list of directives.  Of those that concern a report the most special one decides;
where none does, the report is not written.

* `passes_of_no_match` — without a directive that applies nothing is written;
* `reach_le_of_deciding?_eq` — no directive that applies has a longer target than the deciding one;
* `ofText_empty` — without any directive in the configuration, errors are written;
* `ofText?_empty` — without any directive in a filter from outside, nothing is.
-/
import PipelineWorker.Log.Directive
import PipelineWorker.Text.Quoted

namespace PipelineWorker

/-- The directives, in the order of the text. -/
structure LogFilter where
  directives : List Directive
  deriving DecidableEq, Repr

namespace LogFilter

/-- Of two directives the more special one, or else the later one. -/
def prefer : Option Directive → Directive → Option Directive
  | none, d => some d
  | some best, d => some (if best.outranks d then best else d)

/-- The directive that decides about a report. -/
def deciding? (f : LogFilter) (r : Report) : Option Directive :=
  (f.directives.filter (·.applies r)).foldl prefer none

/-- Whether a report is written. -/
def passes (f : LogFilter) (r : Report) : Bool :=
  (f.deciding? r).any fun d => d.threshold.passes r.level

theorem passes_of_no_match {f : LogFilter} {r : Report}
    (h : ∀ d ∈ f.directives, d.applies r = false) : f.passes r = false := by
  have : f.directives.filter (·.applies r) = [] := by
    rw [List.filter_eq_nil_iff]
    intro d hd
    simp [h d hd]
  simp [passes, deciding?, this]

theorem reach_le_of_foldl_prefer {ds : List Directive} {start : Option Directive} {d : Directive}
    (h : ds.foldl prefer start = some d) :
    (∀ s, start = some s → s.reach ≤ d.reach) ∧ ∀ e ∈ ds, e.reach ≤ d.reach := by
  induction ds generalizing start with
  | nil => simp_all
  | cons x xs ih =>
    obtain ⟨first, rest⟩ := ih h
    cases start with
    | none => simp_all [prefer]
    | some s =>
      have step := first _ rfl
      split at step
      · rename_i wins
        have : x.reach ≤ s.reach := by
          simp only [Directive.outranks, Bool.or_eq_true, Bool.and_eq_true, decide_eq_true_eq]
            at wins
          omega
        simp only [Option.some.injEq, forall_eq', List.mem_cons, forall_eq_or_imp]
        exact ⟨step, by omega, rest⟩
      · rename_i loses
        have : s.reach ≤ x.reach := by
          simp only [Directive.outranks, Bool.or_eq_true, decide_eq_true_eq, not_or] at loses
          omega
        simp only [Option.some.injEq, forall_eq', List.mem_cons, forall_eq_or_imp]
        exact ⟨by omega, step, rest⟩

theorem reach_le_of_deciding?_eq {f : LogFilter} {r : Report} {d e : Directive}
    (h : f.deciding? r = some d) (mem : e ∈ f.directives) (applies : e.applies r = true) :
    e.reach ≤ d.reach :=
  (reach_le_of_foldl_prefer h).2 e (List.mem_filter.2 ⟨mem, applies⟩)

/-- Errors of all targets. -/
def errorsOnly : LogFilter := ⟨[{ threshold := some .error }]⟩

/-- The directives of a text; empty ones do not count. -/
def words (text : String) : List String :=
  ((Separated.split ',' text.toList).filter (· ≠ [])).map String.ofList

/-- Reads a filter from outside, every directive of which must be readable. -/
def ofText? (text : String) : Option LogFilter :=
  match (words text).mapM Directive.parse? with
  | .ok ds => some ⟨ds⟩
  | .error _ => none

/-- Reads the filter of the configuration, passing over what cannot be read; says what that was.
Without any directive, errors are written. -/
def ofText (text : String) : LogFilter × List String :=
  let read := (words text).map fun w => (w, Directive.parse? w)
  let ds := read.filterMap fun (_, x) => x.toOption
  (if ds = [] then errorsOnly else ⟨ds⟩,
    read.filterMap fun (w, x) =>
      match x with
      | .ok _ => none
      | .error e => some ("ignoring `" ++ w ++ "`: " ++ e.message))

theorem ofText_empty : ofText "" = (errorsOnly, []) := by decide +kernel

theorem ofText?_empty : ofText? "" = some ⟨[]⟩ := by decide +kernel

end LogFilter

namespace Report

/-- The text of a field's value in a line. -/
def fieldText : Shown → String
  | .plain text => text
  | .quoted text => Quoted.encode text

/-- A report on one line: level, target, message and fields. -/
def line (r : Report) : String :=
  let level := r.level.display
  let fields := String.join (r.fields.map fun (name, value) => s!" {name}={fieldText value}")
  "".pushn ' ' (5 - level.length) ++ s!"{level} {r.target}: {r.message}{fields}"

end Report

end PipelineWorker
