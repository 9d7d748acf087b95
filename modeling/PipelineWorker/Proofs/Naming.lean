/-
Where the file of a segment is.

All segments of a directory have their files in that directory, each under its own name.  The
directory is found by following its path; as long as no directory comes or goes, it stays the same,
whatever becomes of the files.

* `SegmentKey.fileName_injective` — different keys have different file names;
* `FileSystem.home` — the directory that a text leads to;
* `FileSystem.locate_path_eq_ok`, `FileSystem.openFile_path_eq_ok` — where the file of a segment is
  found;
* `FileSystem.home_congr` — the directory depends on directories alone.
-/
import PipelineWorker.Proofs.Creating
import PipelineWorker.Segment.Access

namespace PipelineWorker

/-! ### Names -/

namespace SegmentKey

/-- What a hexadecimal digit stands for. -/
def digitValue (c : Char) : Nat := if c.isDigit then c.toNat - 48 else c.toNat - 87

/-- The number that hexadecimal digits stand for. -/
def hexValue (digits : List Char) : Nat := digits.foldl (fun n c => 16 * n + digitValue c) 0

theorem digitValue_digitChar {d : Nat} (h : d < 16) : digitValue d.digitChar = d := by
  have hall : ∀ d < 16, digitValue d.digitChar = d := by decide
  exact hall d h

theorem hexValue_concat (digits : List Char) (c : Char) :
    hexValue (digits ++ [c]) = 16 * hexValue digits + digitValue c := by
  rw [hexValue, List.foldl_append]
  rfl

theorem hexValue_replicate_zero (k : Nat) (digits : List Char) :
    hexValue (List.replicate k '0' ++ digits) = hexValue digits := by
  induction k with
  | zero => rfl
  | succ k ih => exact ih

/-- The digits of a number are those of its sixteenth and one more. -/
theorem toDigits_eq_concat {n : Nat} (h : 16 ≤ n) :
    Nat.toDigits 16 n = Nat.toDigits 16 (n / 16) ++ [(n % 16).digitChar] := by
  have hlast : n % 16 < 16 := Nat.mod_lt n (by decide)
  rw [← Nat.toDigits_of_lt_base hlast, Nat.toDigits_append_toDigits (by decide) (by omega) hlast,
    Nat.div_add_mod]

theorem hexValue_toDigits (n : Nat) : hexValue (Nat.toDigits 16 n) = n := by
  induction n using Nat.strongRecOn with
  | ind n ih =>
    by_cases h : n < 16
    · have hone : hexValue [n.digitChar] = 0 + digitValue n.digitChar := rfl
      rw [Nat.toDigits_of_lt_base h, hone, Nat.zero_add, digitValue_digitChar h]
    · rw [toDigits_eq_concat (Nat.not_lt.1 h), hexValue_concat,
        digitValue_digitChar (Nat.mod_lt n (by decide)), ih (n / 16) (by omega), Nat.div_add_mod]

theorem slash_not_mem_toDigits (n : Nat) : '/' ∉ Nat.toDigits 16 n := by
  have hdigit : ∀ d < 16, '/' ≠ d.digitChar := by decide
  induction n using Nat.strongRecOn with
  | ind n ih =>
    by_cases h : n < 16
    · rw [Nat.toDigits_of_lt_base h, List.mem_singleton]
      exact hdigit n h
    · rw [toDigits_eq_concat (Nat.not_lt.1 h), List.mem_append, List.mem_singleton, not_or]
      exact ⟨ih (n / 16) (by omega), hdigit _ (Nat.mod_lt n (by decide))⟩

theorem toList_fileName (k : SegmentKey) : ∃ zeros, k.fileName.toList =
    "basalt-seg-".toList ++
      (List.replicate zeros '0' ++ Nat.toDigits 16 k.number.toUInt32.toNat) := by
  refine ⟨8 - (Nat.toDigits 16 k.number.toUInt32.toNat).length, ?_⟩
  rw [fileName, String.toList_append, String.toList_ofList, String.toList_ofList]

/-- **Different keys have different file names.** -/
theorem fileName_injective {k l : SegmentKey} (h : k.fileName = l.fileName) : k = l := by
  obtain ⟨i, hk⟩ := k.toList_fileName
  obtain ⟨j, hl⟩ := l.toList_fileName
  rw [h, hl] at hk
  have hvalue := congrArg hexValue (List.append_cancel_left hk)
  rw [hexValue_replicate_zero, hexValue_replicate_zero, hexValue_toDigits,
    hexValue_toDigits] at hvalue
  have hword : l.number.toUInt32 = k.number.toUInt32 := UInt32.toNat_inj.1 hvalue
  have hnumber : l.number = k.number := congrArg Int32.ofUInt32 hword
  cases k
  cases l
  rw [SegmentKey.mk.injEq]
  exact hnumber.symm

theorem slash_not_mem_fileName (k : SegmentKey) : '/' ∉ k.fileName.toList := by
  obtain ⟨zeros, h⟩ := k.toList_fileName
  rw [h, List.mem_append, List.mem_append, not_or, not_or]
  refine ⟨by decide, fun hmem => ?_, slash_not_mem_toDigits _⟩
  exact absurd (List.eq_of_mem_replicate hmem) (by decide)

theorem fileName_ne (k : SegmentKey) {name : String} (h : name.toList.head? ≠ some 'b') :
    k.fileName ≠ name := by
  rintro rfl
  obtain ⟨zeros, hlist⟩ := k.toList_fileName
  rw [hlist] at h
  exact h rfl

end SegmentKey

/-! ### Directories -/

namespace Path

/-- A name that is joined to a directory does not change where the path begins. -/
theorem absolute_join (dir : String) {name : String} (h : '/' ∉ name.toList) :
    (ofText (join dir name)).absolute = decide (dir.toList.head? = some '/') := by
  have hname : name.toList.head? ≠ some '/' := fun hhead => h (List.mem_of_mem_head? hhead)
  rw [join]
  split
  · have hempty : dir = "" := by simpa using ‹dir.isEmpty = true›
    subst hempty
    simpa [ofText] using hname
  · have hne : dir.toList ≠ [] := by
      intro hnil
      have : dir = "" := by simpa using hnil
      simp_all
    obtain ⟨c, cs, hcs⟩ := List.exists_cons_of_ne_nil hne
    split <;> simp [ofText, hcs]

end Path

namespace FileSystem

variable {fs gs : FileSystem}

/-- The directory at the end of `names`, followed from the directory `here`. -/
def descend (fs : FileSystem) (here : Nat) : List String → Option Nat
  | [] => some here
  | name :: names =>
    if name = "." then descend fs here names
    else if name = ".." then descend fs (fs.parent here) names
    else if maxName < name.utf8ByteSize then none
    else
      match fs.nodeAt? ⟨here, name⟩ with
      | some (.directory n) => descend fs n names
      | _ => none

/-- The directory that a text leads to. -/
def home (dir : String) (fs : FileSystem) : Option Nat :=
  fs.descend (if dir.toList.head? = some '/' then 0 else fs.workingDir) (Path.parts dir.toList)

/-- A name before others must stand for a directory. -/
theorem walk_cons_cons (fs : FileSystem) (here : Nat) (first next : String) (more : List String) :
    fs.walk here (first :: next :: more) =
      if first = "." then fs.walk here (next :: more)
      else if first = ".." then fs.walk (fs.parent here) (next :: more)
      else if maxName < first.utf8ByteSize then .error .nameTooLong
      else
        match fs.nodeAt? ⟨here, first⟩ with
        | none => .error .noEnt
        | some (.file _) => .error .notDir
        | some (.directory n) => fs.walk n (next :: more) := by
  simp only [walk]
  cases fs.nodeAt? ⟨here, first⟩ with
  | none => rfl
  | some node => cases node <;> rfl

/-- A name behind others is looked up in the directory at their end. -/
theorem walk_concat_eq_ok {here : Nat} {front : List String} {name : String} {place : Place}
    (dot : name ≠ ".") (up : name ≠ "..") :
    fs.walk here (front ++ [name]) = .ok place ↔ ¬ maxName < name.utf8ByteSize ∧
      ∃ d, fs.descend here front = some d ∧ place = .slot ⟨d, name⟩ (fs.nodeAt? ⟨d, name⟩) := by
  induction front generalizing here with
  | nil =>
    rw [List.nil_append, walk, if_neg dot, if_neg up, descend]
    by_cases hlong : maxName < name.utf8ByteSize
    · rw [if_pos hlong]
      exact iff_of_false (by simp) fun h => h.1 hlong
    · rw [if_neg hlong]
      refine ⟨fun h => ⟨hlong, here, rfl, (Except.ok.inj h).symm⟩, ?_⟩
      rintro ⟨-, d, hd, rfl⟩
      cases hd
      rfl
  | cons first rest ih =>
    obtain ⟨next, more, hmore⟩ : ∃ next more, rest ++ [name] = next :: more :=
      List.exists_cons_of_ne_nil (by simp)
    rw [List.cons_append, descend]
    rw [hmore] at ih ⊢
    rw [walk_cons_cons]
    by_cases hdot : first = "."
    · rw [if_pos hdot, if_pos hdot]
      exact ih
    rw [if_neg hdot, if_neg hdot]
    by_cases hup : first = ".."
    · rw [if_pos hup, if_pos hup]
      exact ih
    rw [if_neg hup, if_neg hup]
    by_cases hlong : maxName < first.utf8ByteSize
    · rw [if_pos hlong, if_pos hlong]
      refine iff_of_false (by simp) ?_
      rintro ⟨-, d, hd, -⟩
      cases hd
    rw [if_neg hlong, if_neg hlong]
    have hnone : ∀ {P : Nat → Prop}, ¬ ∃ d, (none : Option Nat) = some d ∧ P d := by
      rintro P ⟨d, hd, -⟩
      cases hd
    -- what stands on the way must be a directory
    rcases fs.nodeAt? ⟨here, first⟩ with _ | n | n
    · exact iff_of_false (by simp) fun h => hnone h.2
    · exact ih
    · exact iff_of_false (by simp) fun h => hnone h.2

/-- **A name in a directory is found where the directory is.** -/
theorem locate_join_eq_ok {dir name : String} {place : Place} (ne : name ≠ "")
    (slash : '/' ∉ name.toList) (dot : name ≠ ".") (up : name ≠ "..") :
    fs.locate (Path.join dir name) = .ok place ↔
      flaw? (Path.join dir name) = none ∧ ¬ maxName < name.utf8ByteSize ∧
        ∃ d, fs.home dir = some d ∧ place = .slot ⟨d, name⟩ (fs.nodeAt? ⟨d, name⟩) := by
  have hstart : fs.start (Path.ofText (Path.join dir name)) =
      if dir.toList.head? = some '/' then 0 else fs.workingDir := by
    rw [start, Path.absolute_join dir slash]
    by_cases hhead : dir.toList.head? = some '/'
    · rw [if_pos hhead, if_pos (decide_eq_true hhead)]
    · rw [if_neg hhead, if_neg (by simpa using hhead)]
  have hwalk := @walk_concat_eq_ok fs (fs.start (Path.ofText (Path.join dir name)))
    (Path.parts dir.toList) name place dot up
  rw [← Path.names_join dir ne slash, hstart] at hwalk
  rw [home, ← hwalk, locate]
  cases flaw? (Path.join dir name) with
  | some f =>
    exact iff_of_false (by simp) (by simp)
  | none =>
    dsimp only
    rw [hstart]
    cases fs.walk _ (Path.ofText (Path.join dir name)).names with
    | error e => exact iff_of_false (by simp) (by simp)
    | ok p =>
      exact ⟨fun h => ⟨rfl, congrArg Except.ok (Except.ok.inj h)⟩,
        fun h => congrArg Except.ok (Except.ok.inj h.2)⟩

theorem descend_congr (hdirs : ∀ t n, gs.nodeAt? t = some (.directory n) ↔
    fs.nodeAt? t = some (.directory n)) (hparents : gs.parents = fs.parents) (here : Nat)
    (names : List String) : gs.descend here names = fs.descend here names := by
  induction names generalizing here with
  | nil => rfl
  | cons name names ih =>
    have hparent : gs.parent here = fs.parent here := by rw [parent, hparents, parent]
    rw [descend, descend, ih, ih, hparent]
    split
    · rfl
    split
    · rfl
    split
    · rfl
    by_cases hdir : ∃ n, fs.nodeAt? ⟨here, name⟩ = some (.directory n)
    · obtain ⟨n, hn⟩ := hdir
      rw [hn, (hdirs _ n).2 hn]
      exact ih n
    · -- nothing else is followed
      split
      · exact absurd ⟨_, (hdirs _ _).1 ‹_›⟩ hdir
      · split
        · exact absurd ⟨_, ‹_›⟩ hdir
        · rfl

/-- **Where a directory is depends on the directories alone.** -/
theorem home_congr {dir : String} (hdirs : ∀ t n, gs.nodeAt? t = some (.directory n) ↔
    fs.nodeAt? t = some (.directory n)) (hparents : gs.parents = fs.parents)
    (hworking : gs.workingDir = fs.workingDir) : gs.home dir = fs.home dir := by
  rw [home, home, hworking, descend_congr hdirs hparents]

theorem home_unlink {t : Slot} {n : Nat} (ht : fs.nodeAt? t = some (.file n)) (dir : String) :
    (fs.unlink t).home dir = fs.home dir := by
  refine home_congr (fun u k => ?_) rfl rfl
  rw [nodeAt?_unlink]
  split
  · -- what was taken away was a file
    rename_i hu
    rw [hu, ht]
    exact iff_of_false (by simp) (by simp)
  · exact Iff.rfl

theorem home_setContent (n : Nat) (f : FileContent) (dir : String) (fs : FileSystem) :
    (fs.setContent n f).home dir = fs.home dir :=
  home_congr (fun _ _ => Iff.rfl) rfl rfl

/-! ### Segments -/

/-- **The file of a segment is found under its name, in the directory of all segments.** -/
theorem locate_path_eq_ok {key : SegmentKey} {dir : String} {place : Place} :
    fs.locate (key.path dir) = .ok place ↔
      flaw? (key.path dir) = none ∧ ¬ maxName < key.fileName.utf8ByteSize ∧
        ∃ d, fs.home dir = some d ∧
          place = .slot ⟨d, key.fileName⟩ (fs.nodeAt? ⟨d, key.fileName⟩) :=
  locate_join_eq_ok (key.fileName_ne (by decide)) key.slash_not_mem_fileName
    (key.fileName_ne (by decide)) (key.fileName_ne (by decide))

theorem openFile_path_eq_ok {key : SegmentKey} {dir : String} {n : Nat} :
    fs.openFile (key.path dir) = .ok n ↔
      flaw? (key.path dir) = none ∧ ¬ maxName < key.fileName.utf8ByteSize ∧
        ∃ d, fs.home dir = some d ∧ fs.nodeAt? ⟨d, key.fileName⟩ = some (.file n) := by
  have hopen : fs.openFile (key.path dir) = .ok n ↔
      ∃ place, fs.locate (key.path dir) = .ok place ∧ place.node? = some (.file n) := by
    rw [openFile]
    cases fs.locate (key.path dir) with
    | error e => exact iff_of_false (by simp) (by simp)
    | ok place =>
      have hplace : (∃ p, Except.ok place = (Except.ok p : Except OsFailure Place) ∧
          p.node? = some (.file n)) ↔ place.node? = some (.file n) := by
        refine ⟨?_, fun h => ⟨place, rfl, h⟩⟩
        rintro ⟨p, hp, h⟩
        cases hp
        exact h
      rw [hplace]
      dsimp only
      rcases place.node? with _ | d | k
      · exact iff_of_false (by simp) (by simp)
      · exact iff_of_false (by simp) (by simp)
      · exact ⟨fun h => by rw [Except.ok.inj h], fun h => by cases h; rfl⟩
  rw [hopen]
  constructor
  · rintro ⟨place, hlocate, hnode⟩
    obtain ⟨hflaw, hname, d, hd, rfl⟩ := locate_path_eq_ok.1 hlocate
    exact ⟨hflaw, hname, d, hd, hnode⟩
  · rintro ⟨hflaw, hname, d, hd, hnode⟩
    exact ⟨_, locate_path_eq_ok.2 ⟨hflaw, hname, d, hd, rfl⟩, hnode⟩

end FileSystem

/-- A segment is removed by taking the name of its file away. -/
theorem removeSegment_cases (dir : String) (key : SegmentKey) (fs : FileSystem) :
    (removeSegment dir key fs).2 = fs ∨ ∃ d n, fs.home dir = some d ∧
      fs.nodeAt? ⟨d, key.fileName⟩ = some (.file n) ∧
      (removeSegment dir key fs).2 = fs.unlink ⟨d, key.fileName⟩ := by
  rw [removeSegment, FileSystem.remove]
  rcases hlocate : fs.locate (key.path dir) with e | n | ⟨s, _ | n | n⟩
  · exact .inl rfl
  · exact .inl rfl
  · exact .inl rfl
  · exact .inl rfl
  · obtain ⟨-, -, d, hd, hplace⟩ := FileSystem.locate_path_eq_ok.1 hlocate
    obtain ⟨rfl, hnode⟩ := Place.slot.inj hplace
    exact .inr ⟨d, n, hd, hnode.symm, rfl⟩

end PipelineWorker
