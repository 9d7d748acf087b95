/-
Who is attached how often, as the calls tell it.

Segments are attached, or cannot be, and detached, in any order and whatever the files are like at
each call.  What an access then knows is told by what was called and answered.

* `Opening.Ample.run` — what is mapped is as long as was asked for;
* `Did`, `did_make` — all that a call can do;
* `Span`, `Leads` — since when a key is attached, and since when it is the primary one;
* `bookkeeping_of_calls` — **after any calls, every count is that of the attaches less the detaches
  since the key was newly attached, and the primary key is the first that was newly attached since
  there was none.**
-/
import PipelineWorker.Proofs.Diary
import PipelineWorker.Proofs.Joining

namespace PipelineWorker

/-! ### What is mapped is long enough -/

namespace Opening

variable {path : String} {n : Nat} {o : Opening} {fs : FileSystem}

/-- No fewer than `n` bytes are about to be mapped, or were. -/
def Ample (n : Nat) : Opening → Prop
  | map _ length _ => n ≤ length
  | finished (.ok m) => n ≤ m.length
  | _ => True

theorem Ample.step (h : o.Ample n) : (o.step path n fs).1.Ample n := by
  cases o with
  | create =>
    rw [Opening.step]
    split
    · trivial
    · split <;> trivial
  | size file =>
    rw [Opening.step]
    split <;> trivial
  | join =>
    rw [Opening.step]
    split <;> trivial
  | measure file created =>
    rw [Opening.step]
    split
    · trivial
    · exact Nat.not_lt.1 ‹_›
  | map file length created =>
    rw [Opening.step]
    split
    · trivial
    · exact h
  | finished r => exact h

theorem ample_create (n : Nat) : create.Ample n := trivial

/-- **What is mapped is as long as was asked for.** -/
theorem Ample.run (h : o.Ample n) {m : Mapping} {gs : FileSystem}
    (hrun : Opening.run path n o fs = (.ok m, gs)) : n ≤ m.length := by
  fun_induction Opening.run path n o fs with
  | case1 fs r =>
    cases hrun
    exact h
  | case2 fs ih => exact ih h.step hrun
  | case3 fs file ih => exact ih h.step hrun
  | case4 fs ih => exact ih h.step hrun
  | case5 fs file created ih => exact ih h.step hrun
  | case6 fs file length created ih => exact ih h.step hrun

end Opening

theorem le_length_of_openOrCreate {path : String} {n : Nat} {fs gs : FileSystem} {m : Mapping}
    (h : openOrCreate path n fs = (.ok m, gs)) : n ≤ m.length := by
  rw [openOrCreate] at h
  split at h
  · cases h
  · exact (Opening.ample_create n).run h

namespace SegmentAccess

/-! ### Calls -/

/-- A call on an access. -/
inductive Call
  | attach (key : SegmentKey) (size : Nat)
  | detach (key : SegmentKey)
  | detachAll

/-- What came of a call. -/
inductive Entry
  | attached (key : SegmentKey) (size : Nat) (handle : SegmentHandle)
  | failed (key : SegmentKey) (size : Nat) (e : SegmentError)
  | detached (key : SegmentKey) (last : Bool)
  | cleared

namespace Entry

/-- Whether the key was attached. -/
def attaches (key : SegmentKey) : Entry → Bool
  | attached k _ _ => k = key
  | _ => false

/-- Whether the key was to be detached. -/
def detaches (key : SegmentKey) : Entry → Bool
  | detached k _ => k = key
  | _ => false

/-- Whether the key is attached no more since then, be it for itself or with all others. -/
def frees (key : SegmentKey) : Entry → Bool
  | detached k last => k = key && last
  | cleared => true
  | _ => false

theorem attaches_of_ne {key k : SegmentKey} (h : key ≠ k) (size : Nat) (handle : SegmentHandle) :
    (attached k size handle).attaches key = false :=
  decide_eq_false h.symm

theorem detaches_of_ne {key k : SegmentKey} (h : key ≠ k) (last : Bool) :
    (detached k last).detaches key = false :=
  decide_eq_false h.symm

end Entry

/-- Makes a call. -/
def Call.make : Call → FileSystem → SegmentAccess → Entry × SegmentAccess
  | .attach key size, fs, s =>
    match s.attach key size fs with
    | (.ok handle, t, _, _) => (.attached key size handle, t)
    | (.error e, t, _, _) => (.failed key size e, t)
  | .detach key, _, s => (.detached key (s.detach key).1, (s.detach key).2.1)
  | .detachAll, _, s => (.cleared, s.detachAll.1)

/-- Makes calls on an access that has nothing attached at first.  What the files are like may change
from call to call. -/
def Call.run (dir : String) (calls : List (Call × FileSystem)) : Diary SegmentAccess Entry :=
  Diary.run (fun c => c.1.make c.2) calls { dir }

/-- What a call did to `s`, which is now `t`. -/
inductive Did (s : SegmentAccess) : Entry → SegmentAccess → Prop
  | failed (key : SegmentKey) (size : Nat) (e : SegmentError) : Did s (.failed key size e) s
  | again {key : SegmentKey} {size : Nat} {a : Attachment} {t : SegmentAccess}
      (found : s.attachment? key = some a)
      (entries : ∀ k, t.attachment? k =
        if k = key then some { a with count := a.count + 1 } else s.attachment? k)
      (primary : t.primaryKey = s.primaryKey) : Did s (.attached key size a.handle) t
  | created {key : SegmentKey} {size : Nat} {handle : SegmentHandle} {t : SegmentAccess}
      (free : s.attachment? key = none) (ample : size ≤ handle.length)
      (entries : ∀ k, t.attachment? k =
        if k = key then some { handle, count := 1 } else s.attachment? k)
      (primary : t.primaryKey = s.primaryKey.or (some key)) : Did s (.attached key size handle) t
  | absent {key : SegmentKey} (free : s.attachment? key = none) : Did s (.detached key false) s
  | lowered {key : SegmentKey} {a : Attachment} {t : SegmentAccess}
      (found : s.attachment? key = some a) (more : 1 < a.count)
      (entries : ∀ k, t.attachment? k =
        if k = key then some { a with count := a.count - 1 } else s.attachment? k)
      (primary : t.primaryKey = s.primaryKey) : Did s (.detached key false) t
  | removed {key : SegmentKey} {a : Attachment} {t : SegmentAccess}
      (found : s.attachment? key = some a) (last : a.count ≤ 1)
      (entries : ∀ k, t.attachment? k = if k = key then none else s.attachment? k)
      (primary : t.primaryKey = if s.primaryKey = some key then none else s.primaryKey) :
      Did s (.detached key true) t
  | cleared {t : SegmentAccess} (entries : ∀ k, t.attachment? k = none)
      (primary : t.primaryKey = none) : Did s .cleared t

theorem did_attach (key : SegmentKey) (size : Nat) (fs : FileSystem) (s : SegmentAccess) :
    Did s ((Call.attach key size).make fs s).1 ((Call.attach key size).make fs s).2 := by
  rw [Call.make, attach]
  cases ha : s.attachment? key with
  | some a => exact .again ha (fun k => lookup_insert key k _ s.entries) rfl
  | none =>
    dsimp only
    rcases ho : openOrCreate (key.path s.dir) size fs with ⟨f | m, gs⟩
    · exact .failed key size _
    · exact .created ha (le_length_of_openOrCreate ho)
        (fun k => lookup_insert key k _ s.entries) rfl

theorem did_detach (key : SegmentKey) (s : SegmentAccess) :
    Did s (.detached key (s.detach key).1) (s.detach key).2.1 := by
  rw [detach]
  cases ha : s.attachment? key with
  | none => exact .absent ha
  | some a =>
    dsimp only
    by_cases hmore : 0 < a.count - 1
    · rw [if_pos hmore]
      exact .lowered ha (Nat.lt_of_sub_pos hmore) (fun k => lookup_insert key k _ s.entries) rfl
    · rw [if_neg hmore]
      exact .removed ha (Nat.le_of_sub_eq_zero (Nat.eq_zero_of_not_pos hmore))
        (fun k => lookup_filter_ne key k s.entries) rfl

/-- **All that a call can do.** -/
theorem did_make (c : Call) (fs : FileSystem) (s : SegmentAccess) :
    Did s (c.make fs s).1 (c.make fs s).2 := by
  cases c with
  | attach key size => exact did_attach key size fs s
  | detach key => exact did_detach key s
  | detachAll => exact .cleared (fun _ => rfl) rfl

section

variable {s t : SegmentAccess} {entry : Entry} {key k : SegmentKey} {a b : Attachment}

/-! ### The entry of one key -/

/-- From `a` to `b` the count of the key follows what is entered, and the handle stays. -/
structure Follows (key : SegmentKey) (entry : Entry) (a b : Attachment) : Prop where
  handle : b.handle = a.handle
  shared : ∀ size handle, entry = .attached key size handle → handle = a.handle
  counted : b.count + (if entry.detaches key then 1 else 0)
    = a.count + if entry.attaches key then 1 else 0
  positive : 1 ≤ a.count → 1 ≤ b.count

/-- What is entered of other keys changes nothing. -/
theorem follows_of_other (ha : entry.attaches key = false) (hd : entry.detaches key = false)
    (a : Attachment) : Follows key entry a a := by
  refine ⟨rfl, fun size handle he => ?_, by rw [ha, hd], id⟩
  subst he
  exact absurd rfl (of_decide_eq_false ha)

/-- **A key that is attached was newly attached by the call, or it was attached before and its count
follows.** -/
theorem Did.attachment? (h : Did s entry t) (ht : t.attachment? key = some b) :
    (s.attachment? key = none ∧ b.count = 1 ∧
      ∃ size ≤ b.handle.length, entry = .attached key size b.handle) ∨
    ∃ a, s.attachment? key = some a ∧ Follows key entry a b := by
  cases h with
  | failed k size e => exact .inr ⟨b, ht, follows_of_other rfl rfl b⟩
  | @again k size a t found entries primary =>
    rw [entries] at ht
    by_cases hk : key = k
    · subst hk
      rw [if_pos rfl, Option.some_inj] at ht
      subst ht
      refine .inr ⟨a, found, rfl, fun size handle he => ?_, ?_, fun h => Nat.le_succ_of_le h⟩
      · exact (Entry.attached.inj he).2.2.symm
      · simp [Entry.attaches, Entry.detaches]
    · rw [if_neg hk] at ht
      exact .inr ⟨b, ht, follows_of_other (Entry.attaches_of_ne hk _ _) rfl b⟩
  | @created k size handle t free ample entries primary =>
    rw [entries] at ht
    by_cases hk : key = k
    · subst hk
      rw [if_pos rfl, Option.some_inj] at ht
      subst ht
      exact .inl ⟨free, rfl, size, ample, rfl⟩
    · rw [if_neg hk] at ht
      exact .inr ⟨b, ht, follows_of_other (Entry.attaches_of_ne hk _ _) rfl b⟩
  | @absent k free =>
    have hk : key ≠ k := by
      rintro rfl
      rw [free] at ht
      cases ht
    exact .inr ⟨b, ht, follows_of_other rfl (Entry.detaches_of_ne hk _) b⟩
  | @lowered k a t found more entries primary =>
    rw [entries] at ht
    by_cases hk : key = k
    · subst hk
      rw [if_pos rfl, Option.some_inj] at ht
      subst ht
      refine .inr ⟨a, found, rfl, fun _ _ => Entry.noConfusion, ?_,
        fun _ => Nat.le_sub_one_of_lt more⟩
      simp only [Entry.detaches, Entry.attaches, decide_true, Bool.false_eq_true, if_true, if_false]
      omega
    · rw [if_neg hk] at ht
      exact .inr ⟨b, ht, follows_of_other rfl (Entry.detaches_of_ne hk _) b⟩
  | @removed k a t found last entries primary =>
    rw [entries] at ht
    by_cases hk : key = k
    · rw [if_pos hk] at ht
      cases ht
    · rw [if_neg hk] at ht
      exact .inr ⟨b, ht, follows_of_other rfl (Entry.detaches_of_ne hk _) b⟩
  | cleared entries primary =>
    rw [entries] at ht
    cases ht

/-- A key that is not attached was freed by the call, or it was not attached before either. -/
theorem Did.attachment?_eq_none (h : Did s entry t) (ht : t.attachment? key = none) :
    entry.frees key = true ∨ (s.attachment? key = none ∧ entry.attaches key = false) := by
  cases h with
  | failed k size e => exact .inr ⟨ht, rfl⟩
  | @again k size a t found entries primary =>
    rw [entries] at ht
    split at ht
    · cases ht
    · exact .inr ⟨ht, Entry.attaches_of_ne ‹_› _ _⟩
  | @created k size handle t free ample entries primary =>
    rw [entries] at ht
    split at ht
    · cases ht
    · exact .inr ⟨ht, Entry.attaches_of_ne ‹_› _ _⟩
  | absent free => exact .inr ⟨ht, rfl⟩
  | lowered found more entries primary =>
    rw [entries] at ht
    split at ht
    · cases ht
    · exact .inr ⟨ht, rfl⟩
  | @removed k a t found last entries primary =>
    rw [entries] at ht
    split at ht
    · rename_i hk
      refine .inl ?_
      rw [hk, Entry.frees, Bool.and_true]
      exact decide_eq_true rfl
    · exact .inr ⟨ht, rfl⟩
  | cleared entries primary => exact .inl rfl

/-! ### Detaching -/

/-- The answer to a detach is yes exactly if there was one attachment left. -/
theorem Did.detached_iff {last : Bool} (h : Did s (.detached key last) t)
    (hs : ∀ a, s.attachment? key = some a → 1 ≤ a.count) :
    last = true ↔ s.attachCount key = 1 := by
  cases h with
  | absent free =>
    rw [attachCount, free]
    simp
  | lowered found more =>
    rw [attachCount, found]
    simp only [Option.map_some, Option.getD_some, Bool.false_eq_true, false_iff]
    exact Nat.ne_of_gt more
  | removed found last =>
    rw [attachCount, found]
    exact iff_of_true rfl (Nat.le_antisymm last (hs _ found))

/-- It is yes exactly if the key was attached and is so no more. -/
theorem Did.detached_iff_attachment? {last : Bool} (h : Did s (.detached key last) t) :
    last = true ↔ (s.attachment? key).isSome ∧ t.attachment? key = none := by
  cases h with
  | absent free =>
    rw [free]
    simp
  | lowered found more entries =>
    rw [entries, if_pos rfl]
    simp
  | removed found last entries =>
    rw [entries, if_pos rfl, found]
    simp

/-- A detach counts the one key down, and no other. -/
theorem Did.attachCount_detached {last : Bool} (h : Did s (.detached key last) t)
    (k : SegmentKey) : t.attachCount k = s.attachCount k - if k = key then 1 else 0 := by
  cases h with
  | absent free =>
    by_cases hk : k = key
    · rw [hk, attachCount, free]
      exact (Nat.zero_sub _).symm
    · rw [if_neg hk]
      rfl
  | lowered found more entries =>
    rw [attachCount, entries]
    by_cases hk : k = key
    · rw [if_pos hk, if_pos hk, hk, attachCount, found]
      rfl
    · rw [if_neg hk, if_neg hk]
      rfl
  | removed found last entries =>
    rw [attachCount, entries]
    by_cases hk : k = key
    · rw [if_pos hk, if_pos hk, hk, attachCount, found]
      exact (Nat.sub_eq_zero_of_le last).symm
    · rw [if_neg hk, if_neg hk]
      rfl

theorem detach_of_absent (h : s.attachment? key = none) : s.detach key = (false, s, []) := by
  rw [detach, h]

end

/-! ### The deeds so far -/

/-- By this deed the key was newly attached. -/
def Creates (key : SegmentKey) (x : Deed SegmentAccess Entry) : Prop :=
  x.found.attachment? key = none ∧ ∃ size handle, x.entry = .attached key size handle

/-- The key has been attached since the deed `first` attached it newly, and its entry is `a` now. -/
structure Span (key : SegmentKey) (a : Attachment) (since : List (Deed SegmentAccess Entry))
    (first : Deed SegmentAccess Entry) : Prop where
  free : first.found.attachment? key = none
  created : ∃ size ≤ a.handle.length, first.entry = .attached key size a.handle
  held : ∀ x ∈ since, x.found.get? key = some a.handle
  /-- Whatever the size that was asked for, the answer was the one handle. -/
  shared : ∀ x ∈ since, ∀ size handle, x.entry = .attached key size handle → handle = a.handle
  counted : a.count + since.countP (·.entry.detaches key)
    = 1 + since.countP (·.entry.attaches key)
  positive : 1 ≤ a.count

/-- Since the key was last freed, it was not attached. -/
def Unattached (key : SegmentKey) (deeds : List (Deed SegmentAccess Entry)) : Prop :=
  ∀ x ∈ deeds.takeWhile (!·.entry.frees key), x.entry.attaches key = false

/-- By the latest deeds, those that all found no primary key, nothing was newly attached. -/
def Idle (deeds : List (Deed SegmentAccess Entry)) : Prop :=
  ∀ x ∈ deeds.takeWhile (·.found.primaryKey.isNone), ∀ key, ¬ Creates key x

/-- The key has been the primary one since the deed `first`, by which it was newly attached when
there was no primary key, as the first one since then. -/
structure Leads (key : SegmentKey) (since : List (Deed SegmentAccess Entry))
    (first : Deed SegmentAccess Entry) (older : List (Deed SegmentAccess Entry)) : Prop where
  creates : Creates key first
  vacant : first.found.primaryKey = none
  idle : Idle older
  kept : ∀ x ∈ since, x.found.primaryKey = some key

section

variable {s t : SegmentAccess} {entry : Entry} {key : SegmentKey} {a b : Attachment}
  {first : Deed SegmentAccess Entry} {since older deeds : List (Deed SegmentAccess Entry)}

theorem span_first (hfree : s.attachment? key = none) (hcount : a.count = 1)
    (hcreated : ∃ size ≤ a.handle.length, entry = .attached key size a.handle) :
    Span key a [] ⟨s, entry⟩ :=
  ⟨hfree, hcreated, (fun _ h => nomatch h), (fun _ h => nomatch h), by rw [hcount]; rfl,
    Nat.le_of_eq hcount.symm⟩

theorem Span.cons (h : Span key a since first) (hs : s.attachment? key = some a)
    (hf : Follows key entry a b) : Span key b (⟨s, entry⟩ :: since) first := by
  have hget : s.get? key = some a.handle := by
    rw [get?, hs]
    rfl
  refine ⟨h.free, hf.handle ▸ h.created, fun x hx => ?_, fun x hx size handle he => ?_, ?_,
    hf.positive h.positive⟩
  · rw [hf.handle]
    rcases List.mem_cons.1 hx with rfl | hx
    · exact hget
    · exact h.held x hx
  · rw [hf.handle]
    rcases List.mem_cons.1 hx with rfl | hx
    · exact hf.shared size handle he
    · exact h.shared x hx size handle he
  · have hcounted := h.counted
    have hstep := hf.counted
    rw [List.countP_cons, List.countP_cons]
    dsimp only
    omega

theorem forall_mem_takeWhile_cons {α : Type} {p : α → Bool} {q : α → Prop} {x : α} {l : List α} :
    (∀ y ∈ (x :: l).takeWhile p, q y) ↔ (p x = true → q x ∧ ∀ y ∈ l.takeWhile p, q y) := by
  by_cases hp : p x = true
  · rw [List.takeWhile_cons_of_pos hp, List.forall_mem_cons]
    exact ⟨fun h _ => h, fun h => h hp⟩
  · rw [List.takeWhile_cons_of_neg hp]
    exact ⟨fun _ h => absurd h hp, fun _ _ hy => nomatch hy⟩

theorem Unattached.cons (h : s.attachment? key = none → Unattached key deeds)
    (hcall : entry.frees key = true ∨ (s.attachment? key = none ∧ entry.attaches key = false)) :
    Unattached key (⟨s, entry⟩ :: deeds) := by
  refine forall_mem_takeWhile_cons.2 fun hkept => ?_
  rcases hcall with hfrees | ⟨hfree, hattaches⟩
  · rw [hfrees] at hkept
    cases hkept
  · exact ⟨hattaches, h hfree⟩

/-! ### The primary key -/

/-- The primary key was so before, or it was newly attached by the call when there was none. -/
theorem Did.primaryKey_eq_some (h : Did s entry t) (ht : t.primaryKey = some key) :
    s.primaryKey = some key ∨ (s.primaryKey = none ∧ Creates key ⟨s, entry⟩) := by
  cases h with
  | failed => exact .inl ht
  | again found entries primary => exact .inl (primary ▸ ht)
  | created free ample entries primary =>
    rw [primary] at ht
    cases hp : s.primaryKey with
    | none =>
      rw [hp, Option.none_or, Option.some_inj] at ht
      subst ht
      exact .inr ⟨rfl, free, _, _, rfl⟩
    | some k =>
      rw [hp, Option.some_or] at ht
      exact .inl ht
  | absent => exact .inl ht
  | lowered found more entries primary => exact .inl (primary ▸ ht)
  | removed found last entries primary =>
    rw [primary] at ht
    split at ht
    · cases ht
    · exact .inl ht
  | cleared entries primary =>
    rw [primary] at ht
    cases ht

/-- A call that newly attaches a key leaves a primary key. -/
theorem Did.not_creates (h : Did s entry t) (ht : t.primaryKey = none) (key : SegmentKey) :
    ¬ Creates key ⟨s, entry⟩ := by
  rintro ⟨hfree, size, handle, rfl⟩
  dsimp only at hfree
  cases h with
  | again found =>
    rw [found] at hfree
    cases hfree
  | created free ample entries primary =>
    rw [primary] at ht
    cases hp : s.primaryKey <;> rw [hp] at ht <;> cases ht

/-- The primary key stays attached. -/
theorem Did.isSome_of_primaryKey (h : Did s entry t)
    (hs : ∀ k, s.primaryKey = some k → (s.attachment? k).isSome = true)
    (ht : t.primaryKey = some key) : (t.attachment? key).isSome = true := by
  cases h with
  | failed => exact hs key ht
  | again found entries primary =>
    rw [entries]
    split
    · rfl
    · exact hs key (primary ▸ ht)
  | created free ample entries primary =>
    rw [entries]
    split
    · rfl
    · rename_i hk
      rw [primary] at ht
      cases hp : s.primaryKey with
      | none =>
        rw [hp, Option.none_or, Option.some_inj] at ht
        exact absurd ht.symm hk
      | some k =>
        rw [hp, Option.some_or] at ht
        exact hs key (hp.trans ht)
  | absent => exact hs key ht
  | lowered found more entries primary =>
    rw [entries]
    split
    · rfl
    · exact hs key (primary ▸ ht)
  | removed found last entries primary =>
    rw [primary] at ht
    split at ht
    · cases ht
    · rename_i hne
      rw [entries, if_neg (fun hk => hne (ht.trans (congrArg some hk)))]
      exact hs key ht
  | cleared entries primary =>
    rw [primary] at ht
    cases ht

theorem idle_nil : Idle [] := fun _ h => nomatch h

/-- While there is a primary key, nothing is to be said. -/
theorem Idle.cons
    (h : s.primaryKey = none → (∀ key, ¬ Creates key ⟨s, entry⟩) ∧ Idle deeds) :
    Idle (⟨s, entry⟩ :: deeds) :=
  forall_mem_takeWhile_cons.2 fun hnone => h (Option.isNone_iff_eq_none.1 hnone)

end

/-! ### Runs -/

/-- What is attached, and what is primary, is what the deeds so far tell. -/
structure Told (d : Diary SegmentAccess Entry) : Prop where
  entries : ∀ key a, d.now.attachment? key = some a →
    ∃ since first older, d.deeds = since ++ first :: older ∧ Span key a since first
  unattached : ∀ key, d.now.attachment? key = none → Unattached key d.deeds
  attached : ∀ key, d.now.primaryKey = some key → (d.now.attachment? key).isSome = true
  primary : ∀ key, d.now.primaryKey = some key →
    ∃ since first older, d.deeds = since ++ first :: older ∧ Leads key since first older
  idle : d.now.primaryKey = none → Idle d.deeds

theorem told_new (dir : String) : Told { now := { dir } } :=
  ⟨(fun _ _ h => nomatch h), (fun _ _ _ h => nomatch h), (fun _ h => nomatch h),
    (fun _ h => nomatch h), fun _ => idle_nil⟩

/-- **Every call keeps to it.** -/
theorem Told.enter {d : Diary SegmentAccess Entry} (h : Told d)
    {call : SegmentAccess → Entry × SegmentAccess}
    (hcall : Did d.now (call d.now).1 (call d.now).2) : Told (d.enter call) := by
  obtain ⟨entries, unattached, attached, primary, idle⟩ := h
  refine ⟨fun key b hb => ?_,
    fun key hnone => .cons (unattached key) (hcall.attachment?_eq_none hnone),
    fun key => hcall.isSome_of_primaryKey attached, fun key hkey => ?_,
    fun hnone => .cons fun hs => ⟨hcall.not_creates hnone, idle hs⟩⟩
  · rcases hcall.attachment? hb with ⟨hfree, hcount, hcreated⟩ | ⟨a, ha, hf⟩
    · exact ⟨[], _, d.deeds, rfl, span_first hfree hcount hcreated⟩
    · obtain ⟨since, first, older, hdeeds, hspan⟩ := entries key a ha
      refine ⟨_ :: since, first, older, ?_, hspan.cons ha hf⟩
      rw [Diary.enter, hdeeds, List.cons_append]
  · rcases hcall.primaryKey_eq_some hkey with hs | ⟨hs, hcreates⟩
    · obtain ⟨since, first, older, hdeeds, hleads⟩ := primary key hs
      refine ⟨_ :: since, first, older, congrArg (_ :: ·) hdeeds,
        { hleads with kept := fun x hx => ?_ }⟩
      rcases List.mem_cons.1 hx with rfl | hx
      · exact hs
      · exact hleads.kept x hx
    · exact ⟨[], _, d.deeds, rfl, hcreates, hs, idle hs, fun _ h => nomatch h⟩

theorem told_run (dir : String) (calls : List (Call × FileSystem)) : Told (Call.run dir calls) :=
  Diary.run_induction (told_new dir) (fun _ c h => h.enter (did_make c.1 c.2 _)) calls

/-- What an access knows is what the deeds so far tell, and a detach answers what it does. -/
structure Bookkeeping (d : Diary SegmentAccess Entry) : Prop extends Told d where
  /-- A detach says yes exactly if it takes back the only attachment that is left. -/
  last : ∀ key, (d.now.detach key).1 = true ↔ d.now.attachCount key = 1
  removed : ∀ key, (d.now.detach key).1 = true ↔
    (d.now.attachment? key).isSome = true ∧ (d.now.detach key).2.1.attachment? key = none
  lowered : ∀ key k, (d.now.detach key).2.1.attachCount k
    = d.now.attachCount k - if k = key then 1 else 0
  absent : ∀ key, d.now.attachment? key = none → d.now.detach key = (false, d.now, [])

/-- **After any calls, every count is that of the attaches less the detaches since the key was newly
attached, all that time the key has had one handle, and the primary key is the first that was newly
attached since there was none.** -/
theorem bookkeeping_of_calls (dir : String) (calls : List (Call × FileSystem)) :
    Bookkeeping (Call.run dir calls) := by
  have htold := told_run dir calls
  refine
    { htold with
      last := fun key => (did_detach key _).detached_iff fun a ha => ?_
      removed := fun key => (did_detach key _).detached_iff_attachment?
      lowered := fun key => (did_detach key _).attachCount_detached
      absent := fun key => detach_of_absent }
  obtain ⟨since, first, older, -, hspan⟩ := htold.entries key a ha
  exact hspan.positive

end SegmentAccess

end PipelineWorker
