/-
How the control loop ends, and the program with it.

A worker that was started waits for control messages until it is asked to quit, or until a wait
fails.  Its loop would pass over an error that is not fatal and wait again; but no wait of such a
worker fails with one.

* `Serving.isFatal_of_wait` — what a wait fails with is fatal;
* `Turn`, `Turns` — the turns of the loop that are not its last, and the results of their waits;
* `Turns.length_add_le` — every turn uses up some of what is still to come;
* `Turns.of_serving` — **a worker that was started never passes over an error**;
* `exists_last_turn` — the loop comes to a last turn;
* `Quits`, `FailsWith` — a request to quit, or an error, is what comes first;
* `exitCode_cases` — all that can become of a run of the program;
* `control_loop_ends` — **the loop ends with the first request to quit or the first error**, and the
  program exits accordingly.
-/
import PipelineWorker.Program.Run
import PipelineWorker.Proofs.Fatality

namespace PipelineWorker

/-! ### Waits that fail -/

namespace Session

/-- **What a wait of a worker that was started fails with is fatal.** -/
theorem Serving.isFatal_of_wait {s : Session} (h : Serving s) {e : CoordinatorError}
    (he : s.wait.1 = .error e) : e.isFatal = true := by
  obtain ⟨hserves, hsound⟩ := h.serves
  exact Session.isFatal_of_wait hsound hserves.toStaffed he

/-! ### The turns of the loop -/

/-- A turn of the control loop that is not its last, and the result of its wait. -/
inductive Turn (s : Session) : Except CoordinatorError Message → Session → Prop
  | served {m : Message} (delivered : s.wait.1 = .ok m) (goesOn : m.kind ≠ .quit) :
      Turn s (.ok m) (s.wait.2.report m.controlReport)
  | dropped {e : CoordinatorError} (failed : s.wait.1 = .error e) (harmless : e.isFatal = false) :
      Turn s (.error e) (s.wait.2.report (.messageDropped e))

/-- Turns of the control loop, one after another, and the results of their waits. -/
inductive Turns : Session → List (Except CoordinatorError Message) → Session → Prop
  | none (s : Session) : Turns s [] s
  | more {s t u : Session} {x : Except CoordinatorError Message}
      {xs : List (Except CoordinatorError Message)} (turn : Turn s x t) (rest : Turns t xs u) :
      Turns s (x :: xs) u

theorem serve_of_ok {s : Session} {m : Message} (h : s.wait.1 = .ok m) :
    s.serve = if m.kind = .quit then (.ok (), s.wait.2.report m.controlReport)
      else (s.wait.2.report m.controlReport).serve := by
  rw [serve]
  split
  · rename_i m' t hw
    rw [hw] at h ⊢
    obtain rfl : m' = m := Except.ok.inj h
    rfl
  · rename_i hw
    rw [hw] at h
    cases h

theorem serve_of_error {s : Session} {e : CoordinatorError} (h : s.wait.1 = .error e) :
    s.serve = if e.isFatal then (.error e, s.wait.2)
      else (s.wait.2.report (.messageDropped e)).serve := by
  rw [serve]
  split
  · rename_i hw
    rw [hw] at h
    cases h
  · rename_i e' t hw
    rw [hw] at h ⊢
    obtain rfl : e' = e := Except.error.inj h
    rfl

@[simp] theorem prospects_report (event : Event) (s : Session) :
    (s.report event).prospects = s.prospects := rfl

theorem Serving.report {s : Session} (h : Serving s) (event : Event) : Serving (s.report event) :=
  h.meanwhile ⟨Nat.le_refl _, fun _ _ => rfl⟩

section Turns

variable {s t : Session} {x : Except CoordinatorError Message}
  {xs : List (Except CoordinatorError Message)}

/-- A turn uses up some of what is still to come. -/
theorem Turn.prospects_lt (h : Turn s x t) : t.prospects < s.prospects := by
  cases h with
  | served delivered goesOn =>
    rw [prospects_report]
    exact prospects_wait_lt delivered
  | dropped failed harmless =>
    rw [prospects_report]
    refine (wait_error failed).resolve_left fun hfatal => ?_
    rw [harmless] at hfatal
    cases hfatal

/-- The loop goes on behind a turn that is not its last. -/
theorem Turn.serve_eq (h : Turn s x t) : s.serve = t.serve := by
  cases h with
  | served delivered goesOn => rw [serve_of_ok delivered, if_neg goesOn]
  | dropped failed harmless => rw [serve_of_error failed, harmless, if_neg Bool.false_ne_true]

/-- In a turn of a worker that was started a message is served. -/
theorem Turn.of_serving (h : Turn s x t) (hs : Serving s) :
    Serving t ∧ ∃ m, x = .ok m ∧ m.kind ≠ .quit := by
  cases h with
  | @served m delivered goesOn => exact ⟨(hs.task .wait).report _, m, rfl, goesOn⟩
  | dropped failed harmless =>
    rw [hs.isFatal_of_wait failed] at harmless
    cases harmless

/-- Every turn uses up some of what is still to come. -/
theorem Turns.length_add_le (h : Turns s xs t) : xs.length + t.prospects ≤ s.prospects := by
  induction h with
  | none s => exact Nat.le_of_eq (Nat.zero_add _)
  | more turn rest ih =>
    have hturn := turn.prospects_lt
    rw [List.length_cons]
    omega

theorem Turns.serve_eq (h : Turns s xs t) : s.serve = t.serve := by
  induction h with
  | none s => rfl
  | more turn rest ih => rw [turn.serve_eq, ih]

/-- **A worker that was started never passes over an error.** -/
theorem Turns.of_serving (h : Turns s xs t) (hs : Serving s) :
    Serving t ∧ ∃ ms : List Message, xs = ms.map .ok ∧ ∀ m ∈ ms, m.kind ≠ .quit := by
  induction h with
  | none s => exact ⟨hs, [], rfl, fun m hm => absurd hm List.not_mem_nil⟩
  | more turn rest ih =>
    obtain ⟨hserving, m, rfl, hkind⟩ := turn.of_serving hs
    obtain ⟨hlast, ms, rfl, hkinds⟩ := ih hserving
    refine ⟨hlast, m :: ms, rfl, fun m' hm' => ?_⟩
    rcases List.mem_cons.1 hm' with rfl | hm'
    · exact hkind
    · exact hkinds m' hm'

end Turns

/-! ### The last turn -/

/-- The loop is over with this wait. -/
def IsLast (s : Session) : Prop :=
  (∃ m, s.wait.1 = .ok m ∧ m.kind = .quit) ∨ ∃ e, s.wait.1 = .error e ∧ e.isFatal = true

/-- A request to quit comes before any error. -/
def Quits (s : Session) : Prop :=
  ∃ (ms : List Message) (t : Session) (m : Message),
    Turns s (ms.map .ok) t ∧ t.wait.1 = .ok m ∧ m.kind = .quit

/-- This is the first error, and comes before any request to quit. -/
def FailsWith (s : Session) (e : CoordinatorError) : Prop :=
  ∃ (ms : List Message) (t : Session), Turns s (ms.map .ok) t ∧ t.wait.1 = .error e

/-- The loop comes to a last turn. -/
theorem exists_last_turn (s : Session) : ∃ xs t, Turns s xs t ∧ IsLast t := by
  fun_induction serve s with
  | case1 s m t hw u hkind => exact ⟨[], s, .none s, .inl ⟨m, congrArg Prod.fst hw, hkind⟩⟩
  | case2 s m t hw u hkind ih =>
    obtain ⟨xs, last, hturns, hlast⟩ := ih
    have hturn := Turn.served (congrArg Prod.fst hw) hkind
    rw [hw] at hturn
    exact ⟨.ok m :: xs, last, .more hturn hturns, hlast⟩
  | case3 s e t hw hfatal => exact ⟨[], s, .none s, .inr ⟨e, congrArg Prod.fst hw, hfatal⟩⟩
  | case4 s e t hw hfatal ih =>
    obtain ⟨xs, last, hturns, hlast⟩ := ih
    have hturn := Turn.dropped (congrArg Prod.fst hw) (Bool.not_eq_true _ ▸ hfatal)
    rw [hw] at hturn
    exact ⟨.error e :: xs, last, .more hturn hturns, hlast⟩

theorem Quits.serve {s : Session} (h : Quits s) : s.serve.1 = .ok () := by
  obtain ⟨ms, t, m, hturns, hdelivered, hkind⟩ := h
  rw [hturns.serve_eq, serve_of_ok hdelivered, if_pos hkind]

theorem FailsWith.serve {s : Session} {e : CoordinatorError} (h : FailsWith s e) (hs : Serving s) :
    s.serve.1 = .error e := by
  obtain ⟨ms, t, hturns, hfailed⟩ := h
  have hfatal := (hturns.of_serving hs).1.isFatal_of_wait hfailed
  rw [hturns.serve_eq, serve_of_error hfailed, if_pos hfatal]

theorem Serving.quits_or_failsWith {s : Session} (h : Serving s) :
    Quits s ∨ ∃ e, FailsWith s e := by
  obtain ⟨xs, t, hturns, hlast⟩ := exists_last_turn s
  obtain ⟨-, ms, rfl, -⟩ := hturns.of_serving h
  rcases hlast with ⟨m, hdelivered, hkind⟩ | ⟨e, hfailed, -⟩
  · exact .inl ⟨ms, t, m, hturns, hdelivered, hkind⟩
  · exact .inr ⟨e, ms, t, hturns, hfailed⟩

/-- The loop ends well just where a request to quit comes before any error. -/
theorem Serving.serve_eq_ok_iff {s : Session} (h : Serving s) : s.serve.1 = .ok () ↔ Quits s := by
  refine ⟨fun hok => h.quits_or_failsWith.resolve_right ?_, Quits.serve⟩
  rintro ⟨e, he⟩
  rw [he.serve h] at hok
  cases hok

/-- Otherwise it ends with the first error. -/
theorem Serving.serve_eq_error_iff {s : Session} (h : Serving s) {e : CoordinatorError} :
    s.serve.1 = .error e ↔ FailsWith s e := by
  refine ⟨fun herror => ?_, fun he => he.serve h⟩
  rcases h.quits_or_failsWith with hq | ⟨e', he'⟩
  · rw [hq.serve] at herror
    cases herror
  · obtain rfl : e' = e := Except.error.inj ((he'.serve h).symm.trans herror)
    exact he'

end Session

namespace Program

open Session

/-! ### The exit code -/

/-- The worker that the program starts, once its configuration stands. -/
def launch (a : Arguments) (config : ModuleConfig) (pid : UInt32) (env : Environment) :
    Except CoordinatorError Unit × Session :=
  Session.start config pid (announce a.numericHosts config env)

section Run

variable {a : Arguments} {outside : Option String} {pid : UInt32} {env : Environment}
  {config : ModuleConfig}

theorem serving_launch (h : (launch a config pid env).1 = .ok ()) :
    Serving (launch a config pid env).2 :=
  .started (Prod.ext h rfl)

theorem exitCode_of_refusal {refusal : ConfigRefusal} (h : a.toConfig env.files = .error refusal) :
    (run a outside pid env).exitCode = 2 := by
  rw [run, h]

theorem exitCode_of_config (h : a.toConfig env.files = .ok config) :
    (run a outside pid env).exitCode =
      (work config pid (announce a.numericHosts config env)).1 := by
  rw [run, h]

/-- The worker could not be started. -/
theorem exitCode_of_launch_error (h : a.toConfig env.files = .ok config) {e : CoordinatorError}
    (hl : (launch a config pid env).1 = .error e) : (run a outside pid env).exitCode = 1 := by
  rw [exitCode_of_config h, work]
  rw [launch] at hl
  split
  · rfl
  · rename_i hok
    rw [hok] at hl
    cases hl

/-- The worker was started, and served until the end. -/
theorem exitCode_of_launch_ok (h : a.toConfig env.files = .ok config)
    (hl : (launch a config pid env).1 = .ok ()) :
    (run a outside pid env).exitCode =
      match (launch a config pid env).2.serve.1 with
      | .ok () => 0
      | .error _ => 1 := by
  rw [exitCode_of_config h, work]
  rw [launch] at hl ⊢
  generalize Session.start config pid (announce a.numericHosts config env) = r at hl ⊢
  obtain ⟨x, s⟩ := r
  obtain rfl : x = .ok () := hl
  dsimp only
  generalize s.serve = r
  rcases r with ⟨e | _, t⟩ <;> rfl

/-- All that can become of a run, and its exit code. -/
theorem exitCode_cases (a : Arguments) (outside : Option String) (pid : UInt32)
    (env : Environment) :
    (∃ refusal, a.toConfig env.files = .error refusal ∧ (run a outside pid env).exitCode = 2) ∨
    ∃ config, a.toConfig env.files = .ok config ∧
      ((∃ e, (launch a config pid env).1 = .error e ∧ (run a outside pid env).exitCode = 1) ∨
        (launch a config pid env).1 = .ok () ∧
          ((∃ e, (launch a config pid env).2.serve.1 = .error e ∧
              (run a outside pid env).exitCode = 1) ∨
            (launch a config pid env).2.serve.1 = .ok () ∧
              (run a outside pid env).exitCode = 0)) := by
  cases hc : a.toConfig env.files with
  | error refusal => exact .inl ⟨refusal, rfl, exitCode_of_refusal hc⟩
  | ok config =>
    refine .inr ⟨config, rfl, ?_⟩
    cases hl : (launch a config pid env).1 with
    | error e => exact .inl ⟨e, rfl, exitCode_of_launch_error hc hl⟩
    | ok _ =>
      refine .inr ⟨rfl, ?_⟩
      rw [exitCode_of_launch_ok hc hl]
      cases hserve : (launch a config pid env).2.serve.1 with
      | error e => exact .inl ⟨e, rfl, rfl⟩
      | ok _ => exact .inr ⟨rfl, rfl⟩

/-- **The control loop of a worker that was started ends.**  It serves messages and never passes over
an error; it ends well just where a request to quit is delivered before any error, and otherwise
with the first error, which is fatal.  So the program exits with 2 just where its configuration is
refused, with 1 just where the worker cannot be started or its loop ends with an error, and with 0
just where a request to quit was delivered. -/
theorem control_loop_ends :
    (∀ s, Serving s →
      (∀ xs t, Turns s xs t → xs.length ≤ s.prospects ∧
        (∃ ms : List Message, xs = ms.map .ok ∧ ∀ m ∈ ms, m.kind ≠ .quit) ∧
        ∀ e, t.wait.1 = .error e → e.isFatal = true) ∧
      (s.serve.1 = .ok () ↔ Quits s) ∧
      ∀ e, s.serve.1 = .error e ↔ FailsWith s e) ∧
    ∀ (a : Arguments) (outside : Option String) (pid : UInt32) (env : Environment),
      ((run a outside pid env).exitCode = 2 ↔ ∃ refusal, a.toConfig env.files = .error refusal) ∧
      ((run a outside pid env).exitCode = 1 ↔ ∃ config, a.toConfig env.files = .ok config ∧
        ((∃ e, (launch a config pid env).1 = .error e) ∨
          (launch a config pid env).1 = .ok () ∧
            ∃ e, (launch a config pid env).2.serve.1 = .error e)) ∧
      ((run a outside pid env).exitCode = 0 ↔ ∃ config, a.toConfig env.files = .ok config ∧
        (launch a config pid env).1 = .ok () ∧ Quits (launch a config pid env).2) := by
  refine ⟨fun s hs => ⟨fun xs t hturns => ?_, hs.serve_eq_ok_iff, fun e => hs.serve_eq_error_iff⟩,
    fun a outside pid env => ?_⟩
  · obtain ⟨hserving, hserved⟩ := hturns.of_serving hs
    have hlength := hturns.length_add_le
    exact ⟨by omega, hserved, fun e => hserving.isFatal_of_wait⟩
  · rcases exitCode_cases a outside pid env with ⟨refusal, hc, hexit⟩ |
      ⟨config, hc, ⟨e, hl, hexit⟩ | ⟨hl, ⟨e, hserve, hexit⟩ | ⟨hserve, hexit⟩⟩⟩
    · simp [hexit, hc]
    · simp [hexit, hc, hl]
    · have hquits : ¬ Quits (launch a config pid env).2 := fun hq => by
        rw [hq.serve] at hserve
        cases hserve
      simp [hexit, hc, hl, hserve, hquits]
    · have hquits := (serving_launch hl).serve_eq_ok_iff.1 hserve
      simp [hexit, hc, hl, hserve, hquits]

end Run

end Program

/-- A controller that asks to quit behind its assignment. -/
def Listener.quitting : Listener :=
  { Listener.assigning with
    script := Listener.assigning.script ++ [(0, .data [0, 0, 0, 1, 0, 0, 0, 0])] }

/-- News of the datamanager is served first, and then the request to quit. -/
theorem Program.control_loop_ends_quitting :
    let a : Arguments := { port := some 4000 }
    let env : Environment := { net := { listeners := [.quitting, .supplying] } }
    let s := (launch a (.ofController "127.0.0.1" 4000) 7 env).2
    Session.Serving s ∧ Session.Quits s ∧ s.serve.1 = .ok () ∧ (run a none 7 env).exitCode = 0 := by
  intro a env s
  have hconfig : a.toConfig env.files = .ok (.ofController "127.0.0.1" 4000) := by decide +kernel
  have hok : (launch a (.ofController "127.0.0.1" 4000) 7 env).1 = .ok () := by decide +kernel
  have hserving : Session.Serving s := serving_launch hok
  have hinfo : s.wait.1 = .ok ((Message.ofBytes .info []).withOrigin ⟨1⟩) := by decide +kernel
  have hquit : (s.wait.2.report (.controlMessage .info (some ⟨1⟩) 0)).wait.1 =
      .ok ((Message.ofBytes .quit []).withOrigin ⟨0⟩) := by decide +kernel
  have hquits : Session.Quits s :=
    ⟨[_], _, _, .more (.served hinfo (by decide)) (.none _), hquit, rfl⟩
  obtain ⟨hloop, hprogram⟩ := control_loop_ends
  exact ⟨hserving, hquits, (hloop s hserving).2.1.2 hquits,
    (hprogram a none 7 env).2.2.2 ⟨_, hconfig, hok, hquits⟩⟩

end PipelineWorker
