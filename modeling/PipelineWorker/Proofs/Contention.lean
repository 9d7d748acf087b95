/-
Several processes that map the same file at once.

Each process takes the steps of its own attempt in order, and a schedule says whose step comes next
(`Contest.run`).  Exclusive creation makes the process that comes first the maker of the file; but
the file has no length until the maker's second step, and a joiner that looks at it before then is
turned away (`Hasty`).

* `Contest.run_replicate` — a process that is left alone maps the file as `openOrCreate` does;
* `Contest.Underway.step` — what every step of every process keeps;
* `Contest.run_ends` — **the maker always succeeds, and a joiner succeeds exactly where it does not
  look at the file before the maker's second step**.
-/
import Mathlib.Data.List.Infix
import Mathlib.Logic.Function.Basic
import PipelineWorker.Proofs.Creating

namespace PipelineWorker

namespace FileSystem

/-! ### The file that the processes share -/

/-- The file system after a file was made and mappings were made of it. -/
def shared (fs : FileSystem) (slot : Slot) (f : FileContent) (mappings : Nat) : FileSystem :=
  { fs.addFile slot f with mappings }

variable {fs : FileSystem} {path : String} {slot : Slot}

theorem locate_shared (h : fs.locate path = .ok (.slot slot none)) (f : FileContent) (m : Nat) :
    (fs.shared slot f m).locate path = .ok (.slot slot (some (.file fs.files.length))) := by
  have hsame : (fs.shared slot f m).locate path = (fs.addFile slot f).locate path :=
    @locate_congr (fs.addFile slot f) (fs.shared slot f m) rfl rfl rfl path
  rw [hsame, locate_addFile f h]

@[simp] theorem content_shared (f : FileContent) (m : Nat) :
    (fs.shared slot f m).content fs.files.length = f :=
  content_addFile fs slot f

theorem setContent_shared (f g : FileContent) (m : Nat) :
    (fs.shared slot f m).setContent fs.files.length g = fs.shared slot g m :=
  congrArg (fun made : FileSystem => { made with mappings := m }) (setContent_addFile fs slot f g)

end FileSystem

namespace Opening

/-! ### Single steps -/

/-- How an attempt has ended, if it has. -/
def result? : Opening → Option (Except OsFailure Mapping)
  | finished r => some r
  | _ => none

/-- What a process is told that looks at the file while it is empty. -/
def tooEarly (n : Nat) : OsFailure :=
  .worded .invalidData s!"existing file is {(0 : Nat)} bytes, {n} requested"

theorem run_step (path : String) (n : Nat) (o : Opening) (fs : FileSystem) :
    run path n (o.step path n fs).1 (o.step path n fs).2 = run path n o fs := by
  cases o with
  | finished r => rfl
  | create => rw [run.eq_def path n create]
  | size file => rw [run.eq_def path n (size file)]
  | join => rw [run.eq_def path n join]
  | measure file created => rw [run.eq_def path n (measure file created)]
  | map file length created => rw [run.eq_def path n (map file length created)]

variable {fs : FileSystem} {path : String} {slot : Slot} {n : Nat}

theorem step_create_shared (h : fs.locate path = .ok (.slot slot none)) (f : FileContent)
    (m : Nat) :
    step path n create (fs.shared slot f m) = (join, fs.shared slot f m) := by
  have hkind : (OsFailure.number .exist).kind = .alreadyExists := rfl
  rw [step, FileSystem.createNew, FileSystem.locate_shared h]
  exact if_pos hkind

theorem step_join_shared (h : fs.locate path = .ok (.slot slot none)) (f : FileContent) (m : Nat) :
    step path n join (fs.shared slot f m)
      = (measure fs.files.length false, fs.shared slot f m) := by
  rw [step, FileSystem.openFile, FileSystem.locate_shared h]
  rfl

theorem step_size_shared (hlength : n ≤ fs.maxLength) (f : FileContent) (m : Nat) :
    step path n (size fs.files.length) (fs.shared slot f m)
      = (measure fs.files.length true, fs.shared slot (f.resize n) m) := by
  have hfits : ¬ (fs.shared slot f m).maxLength < n := Nat.not_lt.2 hlength
  rw [step, FileSystem.setLength, if_neg hfits, FileSystem.content_shared,
    FileSystem.setContent_shared]

theorem step_measure_empty (hn : 0 < n) (created : Bool) (m : Nat) :
    step path n (measure fs.files.length created) (fs.shared slot .empty m)
      = (finished (.error (tooEarly n)), fs.shared slot .empty m) := by
  have hshort : FileContent.empty.length < n := hn
  rw [step, FileSystem.content_shared, if_pos hshort]
  rfl

theorem step_measure_sized (f : FileContent) (created : Bool) (m : Nat) :
    step path n (measure fs.files.length created) (fs.shared slot (f.resize n) m)
      = (map fs.files.length n created, fs.shared slot (f.resize n) m) := by
  have hlong : ¬ (f.resize n).length < n := Nat.lt_irrefl n
  rw [step, FileSystem.content_shared, if_neg hlong]
  rfl

theorem step_map_shared (hmapped : n ≤ fs.maxMapped) (file : Nat) (created : Bool)
    (f : FileContent) (m : Nat) :
    step path n (map file n created) (fs.shared slot f m)
      = (finished (.ok { file, length := n, created, serial := m }),
        fs.shared slot f (m + 1)) := by
  have hfits : ¬ (fs.shared slot f m).maxMapped < n := Nat.not_lt.2 hmapped
  rw [step, if_neg hfits]
  rfl

end Opening

/-! ### Schedules -/

/-- Attempts of several processes to map a file, and the file system that they share. -/
structure Contest (ι : Type) where
  attempts : ι → Opening
  fs : FileSystem

namespace Contest

variable {ι : Type} [DecidableEq ι]

/-- Before the first step. -/
def start (fs : FileSystem) : Contest ι := ⟨fun _ => .create, fs⟩

/-- One process takes its next step. -/
def step (path : String) (n : Nat) (c : Contest ι) (i : ι) : Contest ι :=
  ⟨Function.update c.attempts i ((c.attempts i).step path n c.fs).1,
    ((c.attempts i).step path n c.fs).2⟩

/-- The processes take their steps in the order of a schedule. -/
def run (path : String) (n : Nat) (c : Contest ι) (schedule : List ι) : Contest ι :=
  schedule.foldl (step path n) c

theorem run_concat (path : String) (n : Nat) (c : Contest ι) (schedule : List ι) (i : ι) :
    run path n c (schedule ++ [i]) = (run path n c schedule).step path n i :=
  List.foldl_concat ..

@[simp] theorem attempts_step_self (path : String) (n : Nat) (c : Contest ι) (i : ι) :
    (c.step path n i).attempts i = ((c.attempts i).step path n c.fs).1 :=
  Function.update_self ..

theorem attempts_step_ne (path : String) (n : Nat) (c : Contest ι) {i j : ι} (h : j ≠ i) :
    (c.step path n i).attempts j = c.attempts j :=
  Function.update_of_ne h ..

/-- **A process that is left alone maps the file as `openOrCreate` does.** -/
theorem run_replicate {path : String} {n : Nat} (hn : 0 < n) (fs : FileSystem) (i : ι) {k : Nat}
    (hk : 4 ≤ k) :
    let c := run path n (start fs) (List.replicate k i)
    (c.attempts i).result? = some (openOrCreate path n fs).1 ∧
      c.fs = (openOrCreate path n fs).2 := by
  have key : ∀ (k : Nat) (c : Contest ι), (c.attempts i).rank ≤ k →
      ((run path n c (List.replicate k i)).attempts i).result?
        = some (Opening.run path n (c.attempts i) c.fs).1 ∧
      (run path n c (List.replicate k i)).fs = (Opening.run path n (c.attempts i) c.fs).2 := by
    intro k
    induction k with
    | zero =>
      intro c hrank
      cases hattempt : c.attempts i with
      | finished r =>
        rw [Opening.run]
        exact ⟨congrArg Opening.result? hattempt, rfl⟩
      | _ => simp [hattempt, Opening.rank] at hrank
    | succ k ih =>
      intro c hrank
      -- the first step brings the attempt nearer to its end, and leaves the same end to reach
      have hstep : ((c.step path n i).attempts i).rank ≤ k := by
        rw [attempts_step_self]
        rcases Nat.eq_zero_or_pos (c.attempts i).rank with hzero | hpos
        · cases hattempt : c.attempts i with
          | finished r => exact Nat.zero_le k
          | _ => simp [hattempt, Opening.rank] at hzero
        · have := Opening.rank_step_lt path n (c.attempts i) c.fs hpos
          omega
      have hrest := ih (c.step path n i) hstep
      rw [attempts_step_self] at hrest
      have hsame := Opening.run_step path n (c.attempts i) c.fs
      have hfs : (c.step path n i).fs = ((c.attempts i).step path n c.fs).2 := rfl
      rw [hfs, hsame] at hrest
      exact hrest
  have hopen : openOrCreate path n fs = Opening.run path n .create fs :=
    if_neg (Nat.ne_of_gt hn)
  rw [hopen]
  exact key k (start fs) hk

/-! ### The maker and the joiners -/

theorem count_concat_ne {i j : ι} (h : j ≠ i) (schedule : List ι) :
    (schedule ++ [i]).count j = schedule.count j := by
  have hnone : [i].count j = 0 := List.count_eq_zero.2 (by simpa using h)
  rw [List.count_append, hnone, Nat.add_zero]

/-- Process `i` looks at the length of the file, which is its third step, before the maker `w` has
taken its second. -/
def Hasty (w i : ι) (schedule : List ι) : Prop :=
  ∃ early ∈ schedule.inits, early.count w < 2 ∧ early.count i = 3

instance (w i : ι) (schedule : List ι) : Decidable (Hasty w i schedule) :=
  inferInstanceAs (Decidable (∃ early ∈ schedule.inits, _))

theorem hasty_concat {w i j : ι} {schedule : List ι} :
    Hasty w i (schedule ++ [j]) ↔
      Hasty w i schedule ∨
        (schedule ++ [j]).count w < 2 ∧ (schedule ++ [j]).count i = 3 := by
  simp only [Hasty, List.mem_inits, List.prefix_concat_iff]
  constructor
  · rintro ⟨early, rfl | hearly, hcounts⟩
    · exact .inr hcounts
    · exact .inl ⟨early, hearly, hcounts⟩
  · rintro (⟨early, hearly, hcounts⟩ | hcounts)
    · exact ⟨early, .inr hearly, hcounts⟩
    · exact ⟨_, .inl rfl, hcounts⟩

theorem hasty_concat_ne {w i j : ι} {schedule : List ι} (h : j ≠ i) :
    Hasty w i (schedule ++ [j]) ↔ Hasty w i schedule := by
  rw [hasty_concat, or_iff_left_of_imp]
  rintro ⟨hw, hi⟩
  have hfewer : schedule.count w ≤ (schedule ++ [j]).count w :=
    (List.sublist_append_left schedule [j]).count_le w
  rw [count_concat_ne (Ne.symm h)] at hi
  exact ⟨schedule, (List.mem_inits _ _).2 (List.prefix_refl _), by omega, hi⟩

theorem Hasty.three_le {w i : ι} {schedule : List ι} (h : Hasty w i schedule) :
    3 ≤ schedule.count i := by
  obtain ⟨early, hearly, -, hthree⟩ := h
  exact hthree ▸ ((List.mem_inits _ _).1 hearly).sublist.count_le i

/-- How far the maker of the file is after its turns. -/
inductive Making (file n : Nat) : Nat → Opening → Prop
  | size : Making file n 1 (.size file)
  | measure : Making file n 2 (.measure file true)
  | map : Making file n 3 (.map file n true)
  | finished {turns : Nat} (serial : Nat) (done : 4 ≤ turns) :
      Making file n turns (.finished (.ok { file, length := n, created := true, serial }))

/-- How far a process is after its turns that finds the file made by another one. -/
inductive Joining (file n : Nat) (hasty : Prop) : Nat → Opening → Prop
  | create : Joining file n hasty 0 .create
  | join : Joining file n hasty 1 .join
  | measure : Joining file n hasty 2 (.measure file false)
  | refused {turns : Nat} (early : hasty) (done : 3 ≤ turns) :
      Joining file n hasty turns (.finished (.error (Opening.tooEarly n)))
  | map (patient : ¬ hasty) : Joining file n hasty 3 (.map file n false)
  | finished {turns : Nat} (patient : ¬ hasty) (serial : Nat) (done : 4 ≤ turns) :
      Joining file n hasty turns
        (.finished (.ok { file, length := n, created := false, serial }))

/-- What holds while the processes are at work and `w` has come first. -/
structure Underway (fs : FileSystem) (slot : Slot) (n : Nat) (w : ι) (schedule : List ι)
    (c : Contest ι) : Prop where
  first : 1 ≤ schedule.count w
  files : ∃ m, c.fs = fs.shared slot
    (if schedule.count w < 2 then .empty else FileContent.empty.resize n) m
  maker : Making fs.files.length n (schedule.count w) (c.attempts w)
  joiner : ∀ i, i ≠ w →
    Joining fs.files.length n (Hasty w i schedule) (schedule.count i) (c.attempts i)

section

variable {fs : FileSystem} {path : String} {slot : Slot} {n : Nat} {w : ι} {schedule : List ι}
  {c : Contest ι}

/-- The process that comes first makes the file. -/
theorem underway_first (hslot : fs.locate path = .ok (.slot slot none)) (w : ι) :
    Underway fs slot n w [w] ((start fs).step path n w) := by
  have hstep : Opening.step path n .create fs
      = (.size fs.files.length, fs.shared slot .empty fs.mappings) := by
    rw [Opening.step, FileSystem.createNew, hslot]
    rfl
  have hcount : [w].count w = 1 := List.count_singleton_self
  refine ⟨hcount.ge, ⟨fs.mappings, ?_⟩, ?_, fun i hi => ?_⟩
  · rw [hcount]
    exact congrArg Prod.snd hstep
  · rw [hcount, attempts_step_self]
    exact congrArg Prod.fst hstep ▸ .size
  · have hnone : [w].count i = 0 := List.count_eq_zero.2 (by simpa using hi)
    rw [hnone, attempts_step_ne path n _ hi]
    exact .create

/-- A turn of the maker gives the file its length, or does not touch it. -/
theorem Underway.step_maker (hlength : n ≤ fs.maxLength) (hmapped : n ≤ fs.maxMapped)
    (h : Underway fs slot n w schedule c) :
    Underway fs slot n w (schedule ++ [w]) (c.step path n w) := by
  obtain ⟨hfirst, ⟨m, hfs⟩, hmaker, hjoiner⟩ := h
  have hcount : (schedule ++ [w]).count w = schedule.count w + 1 := by simp
  have hsized : ¬ schedule.count w + 1 < 2 := by omega
  have hothers : ∀ i, i ≠ w → Joining fs.files.length n (Hasty w i (schedule ++ [w]))
      ((schedule ++ [w]).count i) ((c.step path n w).attempts i) := by
    intro i hi
    rw [count_concat_ne hi, attempts_step_ne path n c hi, hasty_concat_ne (Ne.symm hi)]
    exact hjoiner i hi
  suffices hown : (∃ m', ((c.attempts w).step path n c.fs).2
        = fs.shared slot (FileContent.empty.resize n) m') ∧
      Making fs.files.length n (schedule.count w + 1) ((c.attempts w).step path n c.fs).1 by
    obtain ⟨hfiles, hmade⟩ := hown
    refine ⟨by omega, ?_, ?_, hothers⟩
    · rw [hcount, if_neg hsized]
      exact hfiles
    · rw [hcount, attempts_step_self]
      exact hmade
  generalize schedule.count w = turns at hfs hmaker
  generalize c.attempts w = attempt at hmaker
  cases hmaker with
  | size =>
    rw [hfs, if_pos (by decide), Opening.step_size_shared hlength]
    exact ⟨⟨m, rfl⟩, .measure⟩
  | measure =>
    rw [hfs, if_neg (by decide), Opening.step_measure_sized]
    exact ⟨⟨m, rfl⟩, .map⟩
  | map =>
    rw [hfs, if_neg (by decide), Opening.step_map_shared hmapped]
    exact ⟨⟨m + 1, rfl⟩, .finished m (by omega)⟩
  | finished serial hdone =>
    rw [hfs, if_neg (by omega)]
    exact ⟨⟨m, rfl⟩, .finished serial (by omega)⟩

/-- A turn of a joiner leaves the file as it is. -/
theorem Underway.step_joiner (hn : 0 < n) (hslot : fs.locate path = .ok (.slot slot none))
    (hmapped : n ≤ fs.maxMapped) {i : ι} (hi : i ≠ w) (h : Underway fs slot n w schedule c) :
    Underway fs slot n w (schedule ++ [i]) (c.step path n i) := by
  obtain ⟨hfirst, ⟨m, hfs⟩, hmaker, hjoiner⟩ := h
  have hcount : (schedule ++ [i]).count i = schedule.count i + 1 := by simp
  have hsame : (schedule ++ [i]).count w = schedule.count w := count_concat_ne (Ne.symm hi) _
  have hhasty : Hasty w i (schedule ++ [i]) ↔
      Hasty w i schedule ∨ schedule.count w < 2 ∧ schedule.count i = 2 := by
    rw [hasty_concat, hsame, hcount, Nat.succ_inj]
  suffices hown : (∃ m', ((c.attempts i).step path n c.fs).2 = fs.shared slot
        (if schedule.count w < 2 then .empty else FileContent.empty.resize n) m') ∧
      Joining fs.files.length n (Hasty w i (schedule ++ [i])) (schedule.count i + 1)
        ((c.attempts i).step path n c.fs).1 by
    obtain ⟨hfiles, hjoined⟩ := hown
    refine ⟨by omega, ?_, ?_, fun j hj => ?_⟩
    · rw [hsame]
      exact hfiles
    · rw [hsame, attempts_step_ne path n c (Ne.symm hi)]
      exact hmaker
    · by_cases hji : j = i
      · subst hji
        rw [hcount, attempts_step_self]
        exact hjoined
      · rw [count_concat_ne hji, attempts_step_ne path n c hji, hasty_concat_ne (Ne.symm hji)]
        exact hjoiner j hj
  rw [hhasty, hfs]
  have hattempt := hjoiner i hi
  have hlooked : Hasty w i schedule → 3 ≤ schedule.count i := Hasty.three_le
  generalize schedule.count i = turns at hattempt hlooked
  generalize c.attempts i = attempt at hattempt
  cases hattempt with
  | create =>
    rw [Opening.step_create_shared hslot]
    exact ⟨⟨m, rfl⟩, .join⟩
  | join =>
    rw [Opening.step_join_shared hslot]
    exact ⟨⟨m, rfl⟩, .measure⟩
  | measure =>
    -- the joiner looks at the length: has the maker taken its second turn?
    by_cases hunsized : schedule.count w < 2
    · rw [if_pos hunsized, Opening.step_measure_empty hn]
      exact ⟨⟨m, rfl⟩, .refused (.inr ⟨hunsized, rfl⟩) (by omega)⟩
    · rw [if_neg hunsized, Opening.step_measure_sized]
      refine ⟨⟨m, rfl⟩, .map ?_⟩
      rintro (hearly | ⟨hcontra, -⟩)
      · exact absurd (hlooked hearly) (by decide)
      · exact hunsized hcontra
  | refused hearly hdone =>
    exact ⟨⟨m, rfl⟩, .refused (.inl hearly) (by omega)⟩
  | map hpatient =>
    rw [Opening.step_map_shared hmapped]
    refine ⟨⟨m + 1, rfl⟩, .finished (fun hearly => hearly.elim hpatient ?_) m (by omega)⟩
    rintro ⟨-, hcontra⟩
    omega
  | finished hpatient serial hdone =>
    refine ⟨⟨m, rfl⟩, .finished (fun hearly => hearly.elim hpatient ?_) serial (by omega)⟩
    rintro ⟨-, hcontra⟩
    omega

/-- **What holds while the processes are at work is kept by every step of every process.** -/
theorem Underway.step (hn : 0 < n) (hslot : fs.locate path = .ok (.slot slot none))
    (hlength : n ≤ fs.maxLength) (hmapped : n ≤ fs.maxMapped)
    (h : Underway fs slot n w schedule c) (i : ι) :
    Underway fs slot n w (schedule ++ [i]) (c.step path n i) := by
  by_cases hi : i = w
  · subst hi
    exact h.step_maker hlength hmapped
  · exact h.step_joiner hn hslot hmapped hi

theorem underway_run (hn : 0 < n) (hslot : fs.locate path = .ok (.slot slot none))
    (hlength : n ≤ fs.maxLength) (hmapped : n ≤ fs.maxMapped) (w : ι) (rest : List ι) :
    Underway fs slot n w (w :: rest) (run path n (start fs) (w :: rest)) := by
  induction rest using List.reverseRecOn with
  | nil => exact underway_first hslot w
  | append_singleton rest i ih =>
    rw [← List.cons_append, run_concat]
    exact ih.step hn hslot hlength hmapped i

theorem Making.result {file n turns : Nat} {attempt : Opening} (h : Making file n turns attempt)
    (hturns : 4 ≤ turns) : ∃ serial,
      attempt.result? = some (.ok { file, length := n, created := true, serial }) := by
  cases h with
  | finished serial _ => exact ⟨serial, rfl⟩
  | _ => omega

theorem Joining.result {file n turns : Nat} {hasty : Prop} {attempt : Opening}
    (h : Joining file n hasty turns attempt) (hturns : 4 ≤ turns) :
    (hasty → attempt.result? = some (.error (Opening.tooEarly n))) ∧
      (¬ hasty → ∃ serial,
        attempt.result? = some (.ok { file, length := n, created := false, serial })) := by
  cases h with
  | refused early _ => exact ⟨fun _ => rfl, fun hpatient => absurd early hpatient⟩
  | finished patient serial _ => exact ⟨fun hearly => absurd hearly patient, fun _ => ⟨serial, rfl⟩⟩
  | _ => omega

/-- **How the processes end that map a missing file at once.**  The one that comes first makes the
file, of zero bytes, and maps it.  Another one maps the same bytes, unless it is hasty: then it
fails, and takes the file of the first for one that is too short. -/
theorem run_ends (hn : 0 < n) (hslot : fs.locate path = .ok (.slot slot none))
    (hlength : n ≤ fs.maxLength) (hmapped : n ≤ fs.maxMapped) (w : ι) (rest : List ι)
    (hturns : 4 ≤ (w :: rest).count w) :
    let c := run path n (start fs) (w :: rest)
    let file := fs.files.length
    c.fs.content file = FileContent.empty.resize n ∧
      (∃ serial, (c.attempts w).result? =
        some (.ok { file, length := n, created := true, serial })) ∧
      ∀ i, i ≠ w → 4 ≤ (w :: rest).count i →
        (Hasty w i (w :: rest) →
          (c.attempts i).result? = some (.error (Opening.tooEarly n))) ∧
        (¬ Hasty w i (w :: rest) → ∃ serial, (c.attempts i).result? =
          some (.ok { file, length := n, created := false, serial })) := by
  intro c file
  obtain ⟨-, ⟨m, hfs⟩, hmaker, hjoiner⟩ := underway_run hn hslot hlength hmapped w rest
  refine ⟨?_, hmaker.result hturns, fun i hi hown => (hjoiner i hi).result hown⟩
  rw [hfs, if_neg (by omega)]
  exact FileSystem.content_shared _ m

end

/-- A joiner that looks at the file late enough maps the bytes of the maker. -/
theorem run_ends_in_turn :
    let c := run "/dev/shm/basalt-seg-00000007" 64 (start {})
      [false, true, true, false, true, true, false, false]
    (∃ serial, (c.attempts false).result? =
        some (.ok { file := 0, length := 64, created := true, serial })) ∧
      ∃ serial, (c.attempts true).result? =
        some (.ok { file := 0, length := 64, created := false, serial }) := by
  intro c
  have hslot : ({} : FileSystem).locate "/dev/shm/basalt-seg-00000007" =
      .ok (.slot ⟨2, "basalt-seg-00000007"⟩ none) := by decide +kernel
  obtain ⟨-, hmaker, hjoiner⟩ := run_ends (n := 64) (by decide) hslot (by decide) (by decide)
    false [true, true, false, true, true, false, false] (by decide)
  exact ⟨hmaker, (hjoiner true (by decide) (by decide)).2 (by decide)⟩

/-- A joiner that looks at the file before the maker's second step fails, although the maker goes on
to finish. -/
theorem turned_away :
    let c := run "/dev/shm/basalt-seg-00000007" 64 (start {})
      [false, true, true, true, false, false, false, true]
    (c.attempts false).result? =
        some (.ok { file := 0, length := 64, created := true, serial := 0 }) ∧
      (c.attempts true).result? = some (.error (Opening.tooEarly 64)) := by
  decide +kernel

end Contest

end PipelineWorker
