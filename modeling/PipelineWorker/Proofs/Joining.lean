/-
What an attempt to map a file does to the file system.

A file is made under a name that is free, and it is blank; all other names and all contents stay.
A file that is there is mapped as it is.

* `FileSystem.Proper` — every file has one name at most;
* `FileSystem.Extends` — all that an attempt to map a file can change;
* `opened_openOrCreate` — **an attempt maps the whole file that its path leads to, or fails; either
  way no file that was there changes**;
* `SegmentAccess.attaching_attach`, `SegmentAccess.get?_of_get?_detach` — what becomes of the
  handles that an access holds.
-/
import PipelineWorker.Proofs.Naming

namespace PipelineWorker

namespace FileSystem

variable {fs gs : FileSystem} {s : Slot} {f : FileContent}

/-! ### Names of files -/

theorem nodeAt?_of_locate {path : String} {slot : Slot} {node : Option Node}
    (h : fs.locate path = .ok (.slot slot node)) : fs.nodeAt? slot = node := by
  rw [locate] at h
  split at h
  · cases h
  · dsimp only at h
    split at h
    · cases h
    · obtain rfl : _ = Place.slot slot node := Except.ok.inj h
      exact nodeAt?_of_walk ‹_›

/-- What a name stands for exists, and no file has two names: nothing here makes a second one. -/
structure Proper (fs : FileSystem) : Prop where
  existing : ∀ s n, fs.nodeAt? s = some (.file n) → n < fs.files.length
  unique : ∀ s t n, fs.nodeAt? s = some (.file n) → fs.nodeAt? t = some (.file n) → s = t

/-- At first there are no files. -/
theorem proper_initial : Proper {} := by
  have hnone : ∀ s n, ({} : FileSystem).nodeAt? s ≠ some (.file n) := by
    intro s n
    have hnil : ([] : List (Slot × Node)).lookup s = none := rfl
    rw [nodeAt?, lookup_cons_slot, lookup_cons_slot, lookup_cons_slot, hnil]
    split
    · simp
    split
    · simp
    split <;> simp
  exact ⟨fun s n h => absurd h (hnone s n), fun s _ n h => absurd h (hnone s n)⟩

theorem length_addFile (fs : FileSystem) (s : Slot) (f : FileContent) :
    (fs.addFile s f).files.length = fs.files.length + 1 := by
  simp [addFile]

theorem Proper.addFile (h : fs.Proper) (s : Slot) (f : FileContent) : (fs.addFile s f).Proper := by
  refine ⟨fun t n ht => ?_, fun t u n ht hu => ?_⟩
  · rw [nodeAt?_addFile] at ht
    rw [length_addFile]
    split at ht
    · cases ht
      exact Nat.lt_succ_self _
    · exact Nat.lt_succ_of_lt (h.existing t n ht)
  · rw [nodeAt?_addFile] at ht hu
    -- the number of the new file is not in use
    split at ht
    · cases ht
      split at hu
      · rw [‹t = s›, ‹u = s›]
      · exact absurd (h.existing u _ hu) (Nat.lt_irrefl _)
    · split at hu
      · cases hu
        exact absurd (h.existing t _ ht) (Nat.lt_irrefl _)
      · exact h.unique t u n ht hu

theorem Proper.unlink (h : fs.Proper) (s : Slot) : (fs.unlink s).Proper := by
  have hnode : ∀ t n, (fs.unlink s).nodeAt? t = some (.file n) → fs.nodeAt? t = some (.file n) := by
    intro t n ht
    rw [nodeAt?_unlink] at ht
    split at ht
    · cases ht
    · exact ht
  exact ⟨fun t n ht => h.existing t n (hnode t n ht),
    fun t u n ht hu => h.unique t u n (hnode t n ht) (hnode u n hu)⟩

theorem Proper.setContent (h : fs.Proper) (n : Nat) (f : FileContent) :
    (fs.setContent n f).Proper := by
  refine ⟨fun s k hs => ?_, h.unique⟩
  have hlength : (fs.setContent n f).files.length = fs.files.length := List.length_set
  rw [hlength]
  exact h.existing s k hs

theorem Proper.writeFile (h : fs.Proper) (text : String) (f : FileContent) :
    (fs.writeFile text f).Proper := by
  rw [FileSystem.writeFile]
  split
  · exact h.addFile _ f
  · exact h.setContent _ f
  · exact h

theorem content_setContent {n : Nat} (hn : n < fs.files.length) (f : FileContent) (k : Nat) :
    (fs.setContent n f).content k = if k = n then f else fs.content k := by
  rw [content, setContent, List.getD_eq_getElem?_getD]
  by_cases hk : k = n
  · rw [hk, List.getElem?_set_self hn, if_pos rfl, Option.getD_some]
  · rw [List.getElem?_set_ne (Ne.symm hk), if_neg hk, content,
      List.getD_eq_getElem?_getD]

/-! ### New files -/

/-- From `fs` to `gs` blank files were made under names that were free, and that is all that a path
or a mapping could tell. -/
structure Extends (fs gs : FileSystem) : Prop where
  parents : gs.parents = fs.parents
  workingDir : gs.workingDir = fs.workingDir
  kept : ∀ t node, fs.nodeAt? t = some node → gs.nodeAt? t = some node
  made : ∀ t node, gs.nodeAt? t = some node →
    fs.nodeAt? t = some node ∨ ∃ n, fs.files.length ≤ n ∧ node = .file n
  grows : fs.files.length ≤ gs.files.length
  content : ∀ n < fs.files.length, gs.content n = fs.content n
  blank : ∀ n, fs.files.length ≤ n → ∀ i, (gs.content n).byte i = 0
  proper : fs.Proper → gs.Proper

theorem content_of_le {n : Nat} (h : fs.files.length ≤ n) : fs.content n = .empty := by
  rw [FileSystem.content, List.getD_eq_getElem?_getD, List.getElem?_eq_none h, Option.getD_none]

theorem Extends.refl (fs : FileSystem) : Extends fs fs where
  parents := rfl
  workingDir := rfl
  kept _ _ h := h
  made _ _ h := .inl h
  grows := Nat.le_refl _
  content _ _ := rfl
  blank n hn i := by
    rw [content_of_le hn]
    rfl
  proper h := h

theorem extends_addFile (hfree : fs.nodeAt? s = none) (hblank : ∀ i, f.byte i = 0) :
    Extends fs (fs.addFile s f) where
  parents := rfl
  workingDir := rfl
  kept t node h := by
    rw [nodeAt?_addFile, if_neg]
    · exact h
    · rintro rfl
      rw [hfree] at h
      cases h
  made t node h := by
    rw [nodeAt?_addFile] at h
    split at h
    · exact .inr ⟨_, Nat.le_refl _, (Option.some.inj h).symm⟩
    · exact .inl h
  grows := by
    rw [length_addFile]
    exact Nat.le_succ _
  content n hn := by simp [FileSystem.content, addFile, List.getElem?_append_left hn]
  blank n hn i := by
    rcases Nat.eq_or_lt_of_le hn with rfl | hlt
    · rw [content_addFile]
      exact hblank i
    · rw [content_of_le (by rw [length_addFile]; exact hlt)]
      rfl
  proper h := h.addFile s f

/-- How many mappings there are does not matter. -/
theorem Extends.counted (h : Extends fs gs) (mappings : Nat) : Extends fs { gs with mappings } where
  parents := h.parents
  workingDir := h.workingDir
  kept := h.kept
  made := h.made
  grows := h.grows
  content := h.content
  blank := h.blank
  proper hfs := ⟨(h.proper hfs).existing, (h.proper hfs).unique⟩

/-- No directory comes or goes. -/
theorem Extends.directory_iff (h : Extends fs gs) (t : Slot) (n : Nat) :
    gs.nodeAt? t = some (.directory n) ↔ fs.nodeAt? t = some (.directory n) := by
  refine ⟨fun hg => (h.made t _ hg).resolve_right ?_, h.kept t _⟩
  rintro ⟨k, -, hk⟩
  cases hk

theorem Extends.home {dir : String} (h : Extends fs gs) : gs.home dir = fs.home dir :=
  home_congr h.directory_iff h.parents h.workingDir

/-- No byte of any file changes, be it there or not. -/
theorem Extends.byte (h : Extends fs gs) (n i : Nat) :
    (gs.content n).byte i = (fs.content n).byte i := by
  rcases Nat.lt_or_ge n fs.files.length with hn | hn
  · rw [h.content n hn]
  · rw [h.blank n hn, content_of_le hn]
    rfl

/-- No file that was there gets another name. -/
theorem Extends.file_of_lt (h : Extends fs gs) {t : Slot} {n : Nat} (hn : n < fs.files.length)
    (ht : gs.nodeAt? t = some (.file n)) : fs.nodeAt? t = some (.file n) := by
  refine (h.made t _ ht).resolve_right ?_
  rintro ⟨k, hk, heq⟩
  cases heq
  exact absurd hn (Nat.not_lt.2 hk)

end FileSystem

/-! ### Attempts -/

/-- How an attempt to map the file at `path` can end. -/
inductive Opened (path : String) (fs : FileSystem) : Except OsFailure Mapping × FileSystem → Prop
  | failed (e : OsFailure) {gs : FileSystem} (grown : fs.Extends gs) : Opened path fs (.error e, gs)
  /-- The whole file is mapped that the path leads to. -/
  | mapped {m : Mapping} {gs : FileSystem} {slot : Slot} {node : Option Node}
      (grown : fs.Extends gs) (found : fs.locate path = .ok (.slot slot node))
      (named : gs.nodeAt? slot = some (.file m.file))
      (whole : (gs.content m.file).length = m.length)
      (made : m.created = true → fs.files.length ≤ m.file) : Opened path fs (.ok m, gs)

section

variable {path : String} {n : Nat} {fs : FileSystem}

/-- What is not a file cannot be mapped. -/
theorem openOrCreate_of_other (hmissing : ∀ slot, fs.locate path ≠ .ok (.slot slot none))
    (hfile : ∀ slot k, fs.locate path ≠ .ok (.slot slot (some (.file k)))) :
    ∃ e, openOrCreate path n fs = (.error e, fs) := by
  have hopen : ∃ e, fs.openFile path = .error e := by
    rw [FileSystem.openFile]
    rcases hl : fs.locate path with e | d | ⟨slot, _ | d | k⟩
    · exact ⟨e, rfl⟩
    · exact ⟨_, rfl⟩
    · exact absurd hl (hmissing slot)
    · exact ⟨_, rfl⟩
    · exact absurd hl (hfile slot k)
  obtain ⟨e, hopen⟩ := hopen
  rw [openOrCreate]
  by_cases hn : n = 0
  · rw [if_pos hn]
    exact ⟨_, rfl⟩
  · obtain ⟨g, hcreate⟩ := createNew_of_present hmissing
    rw [if_neg hn, Opening.run, Opening.step, hcreate]
    dsimp only
    by_cases hexists : g.kind = .alreadyExists
    · rw [if_pos hexists, Opening.run, Opening.step, hopen]
      dsimp only
      rw [Opening.run]
      exact ⟨e, rfl⟩
    · rw [if_neg hexists, Opening.run]
      exact ⟨g, rfl⟩

/-- **An attempt maps the whole file that its path leads to, or fails; either way no file that was
there changes.** -/
theorem opened_openOrCreate (path : String) (n : Nat) (fs : FileSystem) :
    Opened path fs (openOrCreate path n fs) := by
  rcases Nat.eq_zero_or_pos n with rfl | hn
  · exact .failed _ (.refl fs)
  by_cases hmissing : ∃ slot, fs.locate path = .ok (.slot slot none)
  · obtain ⟨slot, hslot⟩ := hmissing
    have hfree := FileSystem.nodeAt?_of_locate hslot
    have hempty : ∀ i, FileContent.empty.byte i = 0 := fun i => rfl
    have hblank : ∀ i, (FileContent.empty.resize n).byte i = 0 := fun i => by
      simp [FileContent.resize, FileContent.empty]
    rw [openOrCreate_of_missing_eq hn hslot]
    by_cases hlong : fs.maxLength < n
    · rw [if_pos hlong]
      exact .failed _ (FileSystem.extends_addFile hfree hempty)
    rw [if_neg hlong]
    by_cases hwide : fs.maxMapped < n
    · rw [if_pos hwide]
      exact .failed _ (FileSystem.extends_addFile hfree hblank)
    rw [if_neg hwide]
    have hnamed : (fs.addFile slot (FileContent.empty.resize n)).nodeAt? slot =
        some (.file fs.files.length) := by
      rw [FileSystem.nodeAt?_addFile, if_pos rfl]
    have hwhole := congrArg FileContent.length
      (FileSystem.content_addFile fs slot (FileContent.empty.resize n))
    exact .mapped ((FileSystem.extends_addFile hfree hblank).counted _) hslot hnamed hwhole
      fun _ => Nat.le_refl _
  by_cases hfile : ∃ slot k, fs.locate path = .ok (.slot slot (some (.file k)))
  · obtain ⟨slot, k, hslot⟩ := hfile
    rw [openOrCreate_of_file hn hslot, run_measure]
    by_cases hshort : (fs.content k).length < n
    · rw [if_pos hshort]
      exact .failed _ (.refl fs)
    rw [if_neg hshort]
    by_cases hwide : fs.maxMapped < (fs.content k).length
    · rw [if_pos hwide]
      exact .failed _ (.refl fs)
    rw [if_neg hwide]
    have hnamed : fs.nodeAt? slot = some (.file k) := FileSystem.nodeAt?_of_locate hslot
    exact .mapped ((FileSystem.Extends.refl fs).counted _) hslot hnamed rfl (by simp)
  · obtain ⟨e, hfailed⟩ := openOrCreate_of_other (n := n)
      (fun slot h => hmissing ⟨slot, h⟩) (fun slot k h => hfile ⟨slot, k, h⟩)
    rw [hfailed]
    exact .failed e (.refl fs)

end

/-! ### Attaching and detaching -/

namespace SegmentAccess

variable {key k : SegmentKey} {s : SegmentAccess} {fs : FileSystem}

/-- How an attach can end. -/
inductive Attaching (key : SegmentKey) (s : SegmentAccess) (fs : FileSystem) :
    Except SegmentError SegmentHandle × SegmentAccess × FileSystem × List Event → Prop
  /-- The segment was attached before. -/
  | again {handle : SegmentHandle} {t : SegmentAccess} {events : List Event}
      (found : s.get? key = some handle) (dir : t.dir = s.dir) (kept : ∀ k, t.get? k = s.get? k) :
      Attaching key s fs (.ok handle, t, fs, events)
  | failed {e : SegmentError} {f : OsFailure} {gs : FileSystem}
      (opened : Opened (key.path s.dir) fs (.error f, gs)) :
      Attaching key s fs (.error e, s, gs, [])
  | mapped {m : Mapping} {t : SegmentAccess} {gs : FileSystem} {events : List Event}
      (opened : Opened (key.path s.dir) fs (.ok m, gs)) (dir : t.dir = s.dir)
      (kept : ∀ k, t.get? k = if k = key then some { key, mapping := m } else s.get? k) :
      Attaching key s fs (.ok { key, mapping := m }, t, gs, events)

theorem attaching_attach (key : SegmentKey) (size : Nat) (s : SegmentAccess) (fs : FileSystem) :
    Attaching key s fs (s.attach key size fs) := by
  rw [attach]
  cases hfound : s.attachment? key with
  | some a =>
    have hget : s.get? key = some a.handle := by
      rw [get?, hfound]
      rfl
    refine .again hget rfl fun k => ?_
    rw [get?, attachment?, lookup_insert]
    split
    · rw [‹k = key›, hget]
      rfl
    · rfl
  | none =>
    have hopened := opened_openOrCreate (key.path s.dir) size fs
    dsimp only
    generalize openOrCreate (key.path s.dir) size fs = r at hopened ⊢
    rcases r with ⟨f | m, gs⟩
    · exact .failed hopened
    · refine .mapped hopened rfl fun k => ?_
      rw [get?, attachment?, lookup_insert]
      split <;> rfl

theorem lookup_filter_ne (key k : SegmentKey) (entries : List (SegmentKey × Attachment)) :
    (entries.filter (·.1 ≠ key)).lookup k = if k = key then none else entries.lookup k := by
  induction entries with
  | nil => simp
  | cons e rest ih =>
    obtain ⟨l, a⟩ := e
    by_cases hl : l = key
    · subst hl
      rw [List.filter_cons_of_neg (by simp), ih, List.lookup_cons]
      split
      · rfl
      · rename_i hk
        rw [show (k == l) = false from beq_false_of_ne hk]
    · rw [List.filter_cons_of_pos (by simpa using hl), List.lookup_cons, List.lookup_cons, ih]
      by_cases hk : k = l
      · subst hk
        rw [beq_self_eq_true]
        exact (if_neg hl).symm
      · rw [beq_false_of_ne hk]

/-- A detach takes handles away only. -/
theorem get?_of_get?_detach {handle : SegmentHandle}
    (h : (s.detach key).2.1.get? k = some handle) : s.get? k = some handle := by
  rw [detach] at h
  cases hfound : s.attachment? key with
  | none =>
    rw [hfound] at h
    exact h
  | some a =>
    rw [hfound] at h
    dsimp only at h
    split at h
    · rw [get?, attachment?, lookup_insert] at h
      split at h
      · rename_i hk
        rw [get?, hk, hfound]
        exact h
      · exact h
    · rw [get?, attachment?, lookup_filter_ne] at h
      split at h
      · cases h
      · exact h

theorem dir_detach (key : SegmentKey) (s : SegmentAccess) : (s.detach key).2.1.dir = s.dir := by
  rw [detach]
  split
  · rfl
  · dsimp only
    split <;> rfl

end SegmentAccess

namespace SegmentHandle

theorem read_eq (h : SegmentHandle) (offset n : Nat) (fs : FileSystem) :
    h.read offset n fs = if offset + n ≤ h.length then
        .ok ((List.range n).map fun i => (fs.content h.mapping.file).byte (offset + i))
      else .error (.outOfBounds offset n h.length) := by
  rw [read, check]
  split <;> rfl

theorem write_eq (h : SegmentHandle) (offset : Nat) (bs : Bytes) (fs : FileSystem) :
    h.write offset bs fs = if offset + bs.length ≤ h.length then
        (.ok (), fs.setContent h.mapping.file ((fs.content h.mapping.file).write offset bs))
      else (.error (.outOfBounds offset bs.length h.length), fs) := by
  rw [write, check]
  by_cases hle : offset + bs.length ≤ h.length
  · rw [if_pos hle, if_pos hle]
  · rw [if_neg hle, if_neg hle]

end SegmentHandle

end PipelineWorker
