/-
A file made where its name stood for nothing, and how an attempt to map it ends.

* `FileSystem.locate_addFile` — the new file is found under its name;
* `run_measure` — a file that is open is mapped whole if it is long enough;
* `openOrCreate_of_missing_eq` — where the file is missing, the limits of the system decide how the
  attempt ends, and what has been made by then stays;
* `openOrCreate_of_present` — **where the file is not missing, a failed attempt changes nothing**.
-/
import PipelineWorker.Segment.Mapping

namespace PipelineWorker

namespace FileSystem

/-! ### Finding a new file -/

theorem nodeAt?_of_walk {fs : FileSystem} {here : Nat} {names : List String} {s : Slot}
    {node : Option Node} (h : fs.walk here names = .ok (.slot s node)) : fs.nodeAt? s = node := by
  induction names generalizing here with
  | nil => cases h
  | cons name names ih =>
    simp only [walk] at h
    split at h
    · exact ih h
    · split at h
      · exact ih h
      · split at h
        · cases h
        · split at h
          · obtain ⟨rfl, rfl⟩ := Place.slot.inj (Except.ok.inj h)
            rfl
          · cases h
          · cases h
          · exact ih h

theorem nodeAt?_addFile (fs : FileSystem) (s t : Slot) (f : FileContent) :
    (fs.addFile s f).nodeAt? t = if t = s then some (.file fs.files.length) else fs.nodeAt? t :=
  nodeAt?_link fs s t _

theorem walk_addFile {fs : FileSystem} {here : Nat} {names : List String} {s : Slot}
    (f : FileContent) (h : fs.walk here names = .ok (.slot s none)) :
    (fs.addFile s f).walk here names = .ok (.slot s (some (.file fs.files.length))) := by
  have hfree : fs.nodeAt? s = none := nodeAt?_of_walk h
  induction names generalizing here with
  | nil => cases h
  | cons name names ih =>
    have hparent : (fs.addFile s f).parent here = fs.parent here := rfl
    simp only [walk, nodeAt?_addFile, hparent] at h ⊢
    split at h
    · rw [if_pos ‹_›]
      exact ih h
    · rw [if_neg ‹_›]
      split at h
      · rw [if_pos ‹_›]
        exact ih h
      · rw [if_neg ‹_›]
        split at h
        · cases h
        · rw [if_neg ‹_›]
          split at h
          · obtain ⟨rfl, -⟩ := Place.slot.inj (Except.ok.inj h)
            rw [if_pos rfl]
          · cases h
          · cases h
          · rename_i n hdir
            -- a directory on the way is not the name that was free
            have hne : (⟨here, name⟩ : Slot) ≠ s := by
              rintro rfl
              rw [hfree] at hdir
              cases hdir
            rw [if_neg hne, hdir]
            exact ih h

/-- **A new file is found under its name.** -/
theorem locate_addFile {fs : FileSystem} {text : String} {s : Slot} (f : FileContent)
    (h : fs.locate text = .ok (.slot s none)) :
    (fs.addFile s f).locate text = .ok (.slot s (some (.file fs.files.length))) := by
  rw [locate] at h ⊢
  split at h
  · cases h
  · dsimp only at h ⊢
    split at h
    · cases h
    · rename_i place hwalk
      obtain rfl : place = .slot s none := Except.ok.inj h
      have hstart : (fs.addFile s f).start (Path.ofText text) = fs.start (Path.ofText text) := rfl
      rw [hstart, walk_addFile f hwalk]

theorem walk_congr {fs gs : FileSystem} (hentries : gs.entries = fs.entries)
    (hparents : gs.parents = fs.parents) (here : Nat) (names : List String) :
    gs.walk here names = fs.walk here names := by
  have hnode : ∀ t, gs.nodeAt? t = fs.nodeAt? t := fun t => by rw [nodeAt?, hentries, nodeAt?]
  have hparent : ∀ d, gs.parent d = fs.parent d := fun d => by rw [parent, hparents, parent]
  induction names generalizing here with
  | nil => rfl
  | cons name names ih => simp only [walk, hnode, hparent, ih]

/-- Where a path leads depends on the directories alone. -/
theorem locate_congr {fs gs : FileSystem} (hentries : gs.entries = fs.entries)
    (hparents : gs.parents = fs.parents) (hworking : gs.workingDir = fs.workingDir)
    (text : String) : gs.locate text = fs.locate text := by
  simp only [locate, start, hworking, walk_congr hentries hparents]

@[simp] theorem content_addFile (fs : FileSystem) (s : Slot) (f : FileContent) :
    (fs.addFile s f).content fs.files.length = f := by
  simp [content, addFile]

@[simp] theorem setContent_addFile (fs : FileSystem) (s : Slot) (f g : FileContent) :
    (fs.addFile s f).setContent fs.files.length g = fs.addFile s g := by
  simp [setContent, addFile, link]

theorem addFile_ne (fs : FileSystem) (s : Slot) (f : FileContent) : fs.addFile s f ≠ fs := by
  intro h
  have hlength := congrArg (fun gs : FileSystem => gs.files.length) h
  simp [addFile] at hlength

end FileSystem

/-! ### Mapping a file that is open -/

/-- **A file that is open is mapped whole if it is long enough, and not too long for the system.** -/
theorem run_measure (path : String) (n k : Nat) (created : Bool) (fs : FileSystem) :
    Opening.run path n (.measure k created) fs =
      if (fs.content k).length < n then
        (.error (.worded .invalidData
          s!"existing file is {(fs.content k).length} bytes, {n} requested"), fs)
      else if fs.maxMapped < (fs.content k).length then (.error (.number .noMem), fs)
      else
        (.ok { file := k, length := (fs.content k).length, created, serial := fs.mappings },
          { fs with mappings := fs.mappings + 1 }) := by
  rw [Opening.run, Opening.step]
  by_cases hshort : (fs.content k).length < n
  · rw [if_pos hshort, if_pos hshort]
    dsimp only
    rw [Opening.run]
  · rw [if_neg hshort, if_neg hshort]
    dsimp only
    rw [Opening.run, Opening.step]
    by_cases hwide : fs.maxMapped < (fs.content k).length
    · rw [if_pos hwide, if_pos hwide]
      dsimp only
      rw [Opening.run]
    · rw [if_neg hwide, if_neg hwide]
      dsimp only
      rw [Opening.run]

/-- Only a mapping that is granted changes anything. -/
theorem run_measure_of_error {path : String} {n k : Nat} {created : Bool} {fs : FileSystem}
    {e : OsFailure} (h : (Opening.run path n (.measure k created) fs).1 = .error e) :
    (Opening.run path n (.measure k created) fs).2 = fs := by
  rw [run_measure] at h ⊢
  by_cases hshort : (fs.content k).length < n
  · rw [if_pos hshort]
  · rw [if_neg hshort] at h ⊢
    by_cases hwide : fs.maxMapped < (fs.content k).length
    · rw [if_pos hwide]
    · rw [if_neg hwide] at h
      cases h

/-! ### Mapping a file that is missing -/

/-- **Where the file is missing, the limits of the system decide how the attempt ends.**  What has
been made by then stays. -/
theorem openOrCreate_of_missing_eq {path : String} {n : Nat} {fs : FileSystem} {slot : Slot}
    (hn : 0 < n) (hslot : fs.locate path = .ok (.slot slot none)) :
    openOrCreate path n fs =
      if fs.maxLength < n then
        (.error (.worded .invalidInput "number too large to fit in target type"),
          fs.addFile slot .empty)
      else if fs.maxMapped < n then
        (.error (.number .noMem), fs.addFile slot (FileContent.empty.resize n))
      else
        (.ok { file := fs.files.length, length := n, created := true, serial := fs.mappings },
          { fs.addFile slot (FileContent.empty.resize n) with mappings := fs.mappings + 1 }) := by
  have hcreate : fs.createNew path = (.ok fs.files.length, fs.addFile slot .empty) := by
    rw [FileSystem.createNew, hslot]
  have hmaxLength : (fs.addFile slot .empty).maxLength = fs.maxLength := rfl
  rw [openOrCreate, if_neg (Nat.ne_of_gt hn), Opening.run, Opening.step, hcreate]
  dsimp only
  rw [Opening.run, Opening.step, FileSystem.setLength, hmaxLength]
  by_cases hlong : fs.maxLength < n
  · rw [if_pos hlong, if_pos hlong]
    dsimp only
    rw [Opening.run]
  · rw [if_neg hlong, if_neg hlong, FileSystem.content_addFile, FileSystem.setContent_addFile]
    dsimp only
    have hlength : (FileContent.empty.resize n).length = n := rfl
    rw [run_measure, FileSystem.content_addFile, hlength, if_neg (Nat.lt_irrefl n)]
    rfl

/-! ### Mapping a file that is not missing -/

theorem openOrCreate_of_file {path : String} {n k : Nat} {fs : FileSystem} {slot : Slot}
    (hn : 0 < n) (hslot : fs.locate path = .ok (.slot slot (some (.file k)))) :
    openOrCreate path n fs = Opening.run path n (.measure k false) fs := by
  have hcreate : fs.createNew path = (.error (.number .exist), fs) := by
    rw [FileSystem.createNew, hslot]
  have hopen : fs.openFile path = .ok k := by
    rw [FileSystem.openFile, hslot]
    rfl
  have hkind : (OsFailure.number .exist).kind = .alreadyExists := rfl
  rw [openOrCreate, if_neg (Nat.ne_of_gt hn), Opening.run, Opening.step, hcreate]
  dsimp only
  rw [if_pos hkind, Opening.run, Opening.step, hopen]

theorem run_join_of_error {path : String} {n : Nat} {fs : FileSystem} {e : OsFailure}
    (h : (Opening.run path n .join fs).1 = .error e) :
    (Opening.run path n .join fs).2 = fs := by
  rw [Opening.run, Opening.step] at h ⊢
  cases hopen : fs.openFile path with
  | error f => rw [Opening.run]
  | ok k =>
    rw [hopen] at h
    exact run_measure_of_error h

theorem createNew_of_present {path : String} {fs : FileSystem}
    (hpresent : ∀ slot, fs.locate path ≠ .ok (.slot slot none)) :
    ∃ f, fs.createNew path = (.error f, fs) := by
  rw [FileSystem.createNew]
  split
  · exact ⟨_, rfl⟩
  · exact absurd ‹_› (hpresent _)
  · exact ⟨_, rfl⟩

/-- **Where the file is not missing, a failed attempt changes nothing.** -/
theorem openOrCreate_of_present {path : String} {n : Nat} {fs : FileSystem} {e : OsFailure}
    (hpresent : ∀ slot, fs.locate path ≠ .ok (.slot slot none))
    (h : (openOrCreate path n fs).1 = .error e) : (openOrCreate path n fs).2 = fs := by
  rw [openOrCreate] at h ⊢
  by_cases hn : n = 0
  · rw [if_pos hn]
  · rw [if_neg hn] at h ⊢
    obtain ⟨f, hcreate⟩ := createNew_of_present hpresent
    rw [Opening.run, Opening.step, hcreate] at h ⊢
    dsimp only at h ⊢
    by_cases hexists : f.kind = .alreadyExists
    · rw [if_pos hexists] at h ⊢
      exact run_join_of_error h
    · rw [if_neg hexists, Opening.run]

end PipelineWorker
