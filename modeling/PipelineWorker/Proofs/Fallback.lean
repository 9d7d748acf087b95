/-
When a resolver gives up asking for names.

Reverse lookups are made, and the numeric mode is turned on and off by hand, in any order and
whatever the host knows at each call.  What a lookup then does is told by the calls before it.

* `inquiry_of_idle`, `inquiry_of_quad` — when the host is asked, and for what;
* `Outcome`, `lookup_eq` — what comes of asking, and a lookup by what comes of it;
* `failuresInARow` — the lookups that failed since the last that succeeded;
* `Counted.next` — a resolver counts them;
* `fallback_of_history` — **a resolver turns numeric when a lookup fails and the failures in a row
  have reached the limit, and reports it then; until it is turned back by hand it asks no more.**
-/
import PipelineWorker.Net.Names
import PipelineWorker.Proofs.Diary
import PipelineWorker.Proofs.Quads

namespace PipelineWorker.HostResolver

variable {names : NameTable} {text : String} {r : HostResolver} {addr : Ipv4}

/-! ### Asking the host -/

/-- What comes of asking the host. -/
inductive Outcome
  | unasked
  | found (name : String)
  | failed

/-- The host is not asked in the numeric mode, and not for what is no dotted quad. -/
theorem inquiry_of_idle (h : r.numericOnly = true ∨ ∀ addr, ¬ DottedQuad text addr) :
    r.inquiry text = .known (text, r, []) := by
  rw [inquiry]
  split
  · rfl
  · rename_i hasks
    obtain hnumeric | hnone := h
    · exact absurd hnumeric hasks
    · rw [Endpoint.ofQuad?_eq_none_iff_forall.2 hnone]

/-- Otherwise it is asked for the name of the address. -/
theorem inquiry_of_quad (hasks : r.numericOnly = false) (hquad : DottedQuad text addr) :
    r.inquiry text = .ask addr (r.learn text) := by
  have hread : Endpoint.ofQuad? text = some ⟨addr, text⟩ :=
    Endpoint.ofQuad?_eq_some_iff.2 ⟨hquad, rfl⟩
  rw [inquiry, hasks, hread]
  rfl

/-- What a lookup learns. -/
def outcome (names : NameTable) (text : String) (r : HostResolver) : Outcome :=
  match r.inquiry text with
  | .known _ => .unasked
  | .ask addr _ =>
    match names.nameOf? addr with
    | some name => .found name
    | none => .failed

/-- A lookup, by what comes of asking. -/
theorem lookup_eq : r.lookup names text =
    match r.outcome names text with
    | .unasked => (text, r, [])
    | .found name => (name, { r with failures := 0 }, [])
    | .failed =>
      if r.limit ≤ r.failures + 1 then
        (text, { r with failures := r.failures + 1, numericOnly := true },
          [.numericOnly (r.failures + 1)])
      else (text, { r with failures := r.failures + 1 }, []) := by
  rw [lookup, outcome, inquiry]
  split
  · rfl
  · cases Endpoint.ofQuad? text with
    | none => rfl
    | some e =>
      dsimp only [Inquiry.run]
      cases names.nameOf? e.addr <;> rfl

theorem outcome_of_idle (h : r.numericOnly = true ∨ ∀ addr, ¬ DottedQuad text addr) :
    r.outcome names text = .unasked := by
  rw [outcome, inquiry_of_idle h]

/-- Where asking fails, the resolver was not in the numeric mode. -/
theorem numericOnly_of_failed (h : r.outcome names text = .failed) : r.numericOnly = false := by
  refine Bool.eq_false_of_not_eq_true fun hnumeric => ?_
  rw [outcome_of_idle (.inl hnumeric)] at h
  cases h

@[simp] theorem limit_lookup (names : NameTable) (text : String) (r : HostResolver) :
    (r.lookup names text).2.1.limit = r.limit := by
  rw [lookup_eq]
  split
  · rfl
  · rfl
  · split <;> rfl

/-- A lookup that turns the numeric mode on. -/
def Switches (names : NameTable) (text : String) (r : HostResolver) : Prop :=
  r.numericOnly = false ∧ (r.lookup names text).2.1.numericOnly = true

instance : Decidable (Switches names text r) := inferInstanceAs (Decidable (_ ∧ _))

theorem switches_iff :
    Switches names text r ↔ r.outcome names text = .failed ∧ r.limit ≤ r.failures + 1 := by
  rw [Switches, lookup_eq]
  cases h : r.outcome names text with
  | unasked => simp
  | found name => simp
  | failed =>
    have hasks := numericOnly_of_failed h
    dsimp only
    split <;> simp_all

/-- A switch is reported, and nothing else is. -/
theorem reports_lookup : (r.lookup names text).2.2 =
    if Switches names text r then [.numericOnly (r.failures + 1)] else [] := by
  rw [lookup_eq]
  cases h : r.outcome names text with
  | unasked => simp [switches_iff, h]
  | found name => simp [switches_iff, h]
  | failed =>
    simp only [switches_iff, h, true_and]
    split <;> rfl

/-! ### Calls -/

/-- A call on a resolver, with what the host knows if it is asked. -/
inductive Call
  | lookup (names : NameTable) (text : String)
  | setNumericOnly (on : Bool)

/-- The resolver after a call. -/
def Call.next : Call → HostResolver → HostResolver
  | lookup names text, r => (r.lookup names text).2.1
  | setNumericOnly on, r => r.setNumericOnly on

/-- Makes calls on a new resolver. -/
def history (limit : UInt32) (calls : List Call) : Diary HostResolver Call :=
  Diary.run (fun c r => (c, c.next r)) calls { limit }

/-- What was learnt by a call that was made. -/
def learnt : Deed HostResolver Call → Outcome
  | ⟨r, .lookup names text⟩ => r.outcome names text
  | ⟨_, .setNumericOnly _⟩ => .unasked

/-- Whether the call was a lookup that found a name. -/
def succeeded (deed : Deed HostResolver Call) : Bool := learnt deed matches .found _

/-- Whether the call was a lookup that asked the host and found no name. -/
def failed (deed : Deed HostResolver Call) : Bool := learnt deed matches .failed

theorem failed_lookup_iff :
    failed ⟨r, .lookup names text⟩ = true ↔ r.outcome names text = .failed := by
  rw [failed, learnt]
  cases r.outcome names text <;> simp

/-- The lookups that failed since the last one that succeeded, or since the first call. -/
def failuresInARow (deeds : List (Deed HostResolver Call)) : Nat :=
  (deeds.takeWhile fun deed => !succeeded deed).countP failed

variable {deed : Deed HostResolver Call} {deeds past : List (Deed HostResolver Call)}

theorem failuresInARow_cons : failuresInARow (deed :: deeds) =
    match learnt deed with
    | .unasked => failuresInARow deeds
    | .found _ => 0
    | .failed => failuresInARow deeds + 1 := by
  rw [failuresInARow, List.takeWhile_cons]
  cases h : learnt deed <;> simp [succeeded, failed, h, failuresInARow]

theorem failuresInARow_of_failed (h : r.outcome names text = .failed) :
    failuresInARow (⟨r, .lookup names text⟩ :: past) = failuresInARow past + 1 := by
  rw [failuresInARow_cons, learnt, h]

theorem failuresInARow_le (deeds : List (Deed HostResolver Call)) :
    failuresInARow deeds ≤ deeds.countP failed :=
  (List.takeWhile_sublist _).countP_le

/-! ### The fallback -/

variable {limit : UInt32}

/-- The resolver has this limit and counts the failures in a row. -/
structure Counted (limit : UInt32) (past : List (Deed HostResolver Call)) (r : HostResolver) :
    Prop where
  limit_eq : r.limit = limit
  failures_eq : r.failures.toNat = failuresInARow past

/-- One more failure is counted, as long as there are not too many. -/
theorem Counted.succ (h : Counted limit past r) (hfew : failuresInARow past + 1 < 2 ^ 32) :
    (r.failures + 1).toNat = failuresInARow past + 1 := by
  rw [UInt32.toNat_add, h.failures_eq]
  exact Nat.mod_eq_of_lt hfew

theorem Counted.le_iff (h : Counted limit past r) (hfew : failuresInARow past + 1 < 2 ^ 32) :
    r.limit ≤ r.failures + 1 ↔ limit.toNat ≤ failuresInARow past + 1 := by
  rw [UInt32.le_iff_toNat_le, h.limit_eq, h.succ hfew]

/-- **A resolver counts the failures in a row.** -/
theorem Counted.next (h : Counted limit past r) (c : Call)
    (hfew : failuresInARow (⟨r, c⟩ :: past) < 2 ^ 32) :
    Counted limit (⟨r, c⟩ :: past) (c.next r) := by
  rw [failuresInARow_cons] at hfew
  cases c with
  | setNumericOnly on =>
    -- by hand neither the counter nor what it counts is changed
    refine ⟨h.limit_eq, ?_⟩
    rw [failuresInARow_cons]
    exact h.failures_eq
  | lookup names text =>
    rw [learnt] at hfew
    refine ⟨?_, ?_⟩
    · rw [Call.next, limit_lookup]
      exact h.limit_eq
    · rw [failuresInARow_cons, Call.next, lookup_eq, learnt]
      split
      · exact h.failures_eq
      · rfl
      · rename_i hfailed
        rw [hfailed] at hfew
        split <;> exact h.succ hfew

/-- What a lookup does on a resolver with this limit, after what was done in the `past`. -/
structure Lawful (limit : UInt32) (past : List (Deed HostResolver Call)) (r : HostResolver)
    (names : NameTable) (text : String) : Prop where
  /-- In the numeric mode, and where no address is given, the text is told as it is: the host is not
  asked, and the resolver stays as it was. -/
  idle : (r.numericOnly = true ∨ ∀ addr, ¬ DottedQuad text addr) →
    r.inquiry text = .known (text, r, [])
  /-- Otherwise the host is asked for the name of the address. -/
  asks : r.numericOnly = false → ∀ addr, DottedQuad text addr →
    ∃ next, r.inquiry text = .ask addr next
  /-- The name is told, if there is one. -/
  answer : r.numericOnly = false → ∀ addr, DottedQuad text addr →
    (r.lookup names text).1 = (names.nameOf? addr).getD text
  /-- The failure that reaches the limit turns the numeric mode on. -/
  switch : Switches names text r ↔
    failed ⟨r, .lookup names text⟩ = true ∧
      limit.toNat ≤ failuresInARow (⟨r, .lookup names text⟩ :: past)
  /-- That is reported, and nothing else is. -/
  reports : (r.lookup names text).2.2 =
    if Switches names text r then
      [.numericOnly (.ofNat (failuresInARow (⟨r, .lookup names text⟩ :: past)))]
    else []

theorem lawful_lookup (h : Counted limit past r)
    (hfew : failuresInARow (⟨r, .lookup names text⟩ :: past) < 2 ^ 32) :
    Lawful limit past r names text where
  idle := inquiry_of_idle
  asks := fun hasks _ hquad => ⟨_, inquiry_of_quad hasks hquad⟩
  answer := by
    intro hasks addr hquad
    rw [lookup, inquiry_of_quad hasks hquad, Inquiry.run]
    cases names.nameOf? addr with
    | some name => rfl
    | none =>
      rw [learn]
      split <;> rfl
  switch := by
    rw [switches_iff, failed_lookup_iff]
    refine and_congr_right fun hfailed => ?_
    rw [failuresInARow_of_failed hfailed] at hfew ⊢
    exact h.le_iff hfew
  reports := by
    rw [reports_lookup]
    split
    · rename_i hswitches
      have hfailed := (switches_iff.1 hswitches).1
      rw [failuresInARow_of_failed hfailed] at hfew ⊢
      rw [← h.succ hfew, UInt32.ofNat_toNat]
    · rfl

/-- The numeric mode is left by hand only. -/
theorem leaves_by_hand {c : Call} (hnumeric : r.numericOnly = true)
    (hleaves : (c.next r).numericOnly = false) : c = .setNumericOnly false := by
  cases c with
  | lookup names text =>
    rw [Call.next, lookup_eq, outcome_of_idle (.inl hnumeric), hnumeric] at hleaves
    cases hleaves
  | setNumericOnly on => exact congrArg Call.setNumericOnly hleaves

/-- The resolver that the calls of the `past` left; a new one had not failed yet. -/
def leftBy (limit : UInt32) : List (Deed HostResolver Call) → HostResolver
  | [] => { limit, numericOnly := false, failures := 0 }
  | deed :: _ => deed.entry.next deed.found

/-- What a call does after what was done in the `past`. -/
structure Regular (limit : UInt32) (past : List (Deed HostResolver Call))
    (deed : Deed HostResolver Call) : Prop where
  /-- It is made on the resolver that the call before it left. -/
  found_eq : deed.found = leftBy limit past
  lookup : ∀ names text, deed.entry = .lookup names text →
    Lawful limit past deed.found names text
  /-- By hand the mode becomes what it is set to, and nothing else changes. -/
  byHand : ∀ on, deed.entry = .setNumericOnly on →
    deed.entry.next deed.found =
      { limit, numericOnly := on, failures := .ofNat (failuresInARow past) }
  /-- The numeric mode is left by hand only. -/
  leaves : deed.found.numericOnly = true → (deed.entry.next deed.found).numericOnly = false →
    deed.entry = .setNumericOnly false

theorem regular_call (h : Counted limit past r) (hfound : r = leftBy limit past) (c : Call)
    (hfew : failuresInARow (⟨r, c⟩ :: past) < 2 ^ 32) : Regular limit past ⟨r, c⟩ where
  found_eq := hfound
  lookup := by
    rintro names text rfl
    exact lawful_lookup h hfew
  byHand := by
    rintro on rfl
    rw [← h.failures_eq, UInt32.ofNat_toNat, ← h.limit_eq]
    rfl
  leaves := leaves_by_hand

/-- The count is right after any calls, and each call was regular. -/
theorem regular_history (limit : UInt32) (calls : List Call)
    (hfew : (history limit calls).deeds.countP failed < 2 ^ 32) :
    Counted limit (history limit calls).deeds (history limit calls).now ∧
      (history limit calls).now = leftBy limit (history limit calls).deeds ∧
      ∀ deed past, deed :: past <:+ (history limit calls).deeds → Regular limit past deed := by
  revert hfew
  refine Diary.run_induction (P := fun d => d.deeds.countP failed < 2 ^ 32 →
    Counted limit d.deeds d.now ∧ d.now = leftBy limit d.deeds ∧
      ∀ deed past, deed :: past <:+ d.deeds → Regular limit past deed) ?_ ?_ calls
  · exact fun _ => ⟨⟨rfl, rfl⟩, rfl, fun _ _ h => by cases List.suffix_nil.1 h⟩
  · intro d c ih hfew
    -- failures in a row are failures, so the bound on all of them keeps the count from wrapping
    have hrow := Nat.lt_of_le_of_lt (failuresInARow_le _) hfew
    rw [Diary.deeds_enter] at hfew hrow ⊢
    obtain ⟨hcounted, hnow, hregular⟩ :=
      ih (Nat.lt_of_le_of_lt (List.sublist_cons_self _ _).countP_le hfew)
    refine ⟨hcounted.next c hrow, rfl, fun deed past h => ?_⟩
    obtain h | h := List.suffix_cons_iff.1 h
    · -- the call just made; the law needs the count as it was before
      obtain ⟨rfl, rfl⟩ := List.cons.inj h
      exact regular_call hcounted hnow c hrow
    · exact hregular deed past h

/-- **A resolver turns numeric when a lookup fails and the failures in a row have reached the limit,
and reports it then; until it is turned back by hand it asks no more.** -/
theorem fallback_of_history (limit : UInt32) (calls : List Call)
    (hfew : (history limit calls).deeds.countP failed < 2 ^ 32) :
    (history limit calls).now = leftBy limit (history limit calls).deeds ∧
      ∀ deed past, deed :: past <:+ (history limit calls).deeds → Regular limit past deed :=
  (regular_history limit calls hfew).2

/-- One failure, then the numeric mode is turned on by hand, no name is asked for, and the mode is
turned off again: the next failure is the second in a row, and reaches a limit of two. -/
theorem fallback_at_second_failure :
    let before : List Call := [.lookup {} "10.0.0.1", .setNumericOnly true,
      .lookup {} "10.0.0.2", .setNumericOnly false]
    (history 2 (before.take 2)).now = { limit := 2, numericOnly := true, failures := 1 } ∧
      (history 2 (before.take 2)).now.inquiry "10.0.0.2"
        = .known ("10.0.0.2", (history 2 (before.take 2)).now, []) ∧
      (history 2 before).now = { limit := 2, numericOnly := false, failures := 1 } ∧
      Switches {} "10.0.0.3" (history 2 before).now := by
  intro before
  let calls := before ++ [.lookup {} "10.0.0.3"]
  obtain ⟨-, hregular⟩ := fallback_of_history 2 calls (by decide +kernel)
  have hcall (n : Nat) (c : Call) (later : List (Deed HostResolver Call))
      (h : later ++ ⟨(history 2 (before.take n)).now, c⟩ :: (history 2 (before.take n)).deeds
        = (history 2 calls).deeds) := hregular _ _ ⟨later, h⟩
  have hon := (hcall 1 (.setNumericOnly true) [_, _, _] rfl).byHand true rfl
  have hidle := (hcall 2 (.lookup {} "10.0.0.2") [_, _] rfl).lookup {} "10.0.0.2" rfl
  have hoff := (hcall 3 (.setNumericOnly false) [_] rfl).byHand false rfl
  have hlast := (hcall 4 (.lookup {} "10.0.0.3") [] rfl).lookup {} "10.0.0.3" rfl
  have hone : failuresInARow (history 2 (before.take 1)).deeds = 1 ∧
      failuresInARow (history 2 (before.take 3)).deeds = 1 := by
    decide +kernel
  rw [hone.1] at hon
  rw [hone.2] at hoff
  exact ⟨hon, hidle.idle (.inl (congrArg numericOnly hon)), hoff,
    hlast.switch.2 ⟨by decide +kernel, by decide +kernel⟩⟩

end PipelineWorker.HostResolver
