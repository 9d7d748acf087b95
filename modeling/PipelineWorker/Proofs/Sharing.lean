/-
What the holders of segments see of each other.

Any number of accesses to one directory attach and detach segments, come and go, and remove
files, while others read and write through the handles that they were given, which they may keep
for as long as they like.  To all of them a segment is one array of bytes.

* `Commons`, `Commons.Act` — the accesses, the handles, the files, and all that can be done;
* `byteAt` — the byte that was written last at a place, through whatever handle;
* `Upheld` — the invariant: every handle maps a whole file, which is that of its key alone;
* `Effect`, `Upheld.effect_run` — all that an act can change;
* `Upheld.run` — whatever is done keeps the invariant;
* `faithful_of_run` — **every handle reads what was written last to its file, up to the end of its
  mapping and not beyond it, and nothing else that is done changes a byte of it**.
-/
import PipelineWorker.Proofs.Joining

namespace PipelineWorker

/-! ### What can be done -/

/-- A write that was not refused. -/
structure Write where
  handle : SegmentHandle
  offset : Nat
  bytes : Bytes

/-- What the write put at a place of a file, if anything. -/
def Write.at? (w : Write) (file place : Nat) : Option UInt8 :=
  if w.handle.mapping.file = file ∧ w.offset ≤ place then w.bytes[place - w.offset]? else none

theorem Write.byte (w : Write) (f : FileContent) (place : Nat) :
    (f.write w.offset w.bytes).byte place =
      (w.at? w.handle.mapping.file place).getD (f.byte place) := by
  rw [FileContent.byte_write]
  by_cases hfrom : w.offset ≤ place
  · have hat : w.at? w.handle.mapping.file place = w.bytes[place - w.offset]? :=
      if_pos ⟨rfl, hfrom⟩
    rw [hat]
    by_cases hto : place < w.offset + w.bytes.length
    · have hin : place - w.offset < w.bytes.length := by omega
      rw [if_pos ⟨hfrom, hto⟩, List.getD_eq_getElem?_getD, List.getElem?_eq_getElem hin]
      rfl
    · have hout : w.bytes.length ≤ place - w.offset := by omega
      rw [if_neg (fun hin => hto hin.2), List.getElem?_eq_none hout]
      rfl
  · have hat : w.at? w.handle.mapping.file place = none := if_neg fun hin => hfrom hin.2
    rw [hat, if_neg fun hin => hfrom hin.1]
    rfl

/-- The byte at a place of a file after the writes, which are told latest first.  Where nothing was
written it is the one from before; the files that are new by then are blank. -/
def byteAt (before : FileSystem) (written : List Write) (file place : Nat) : UInt8 :=
  (written.findSome? (·.at? file place)).getD
    (if file < before.files.length then (before.content file).byte place else 0)

/-- A directory of segments, the accesses to it and all handles that were ever obtained. -/
structure Commons where
  files : FileSystem
  accesses : List SegmentAccess := []
  handles : List SegmentHandle := []
  /-- The writes so far, latest first. -/
  written : List Write := []

namespace Commons

/-- What can be done.  Accesses and handles are told by their places. -/
inductive Act
  /-- Makes a new access. -/
  | enter
  | attach (access : Nat) (key : SegmentKey) (size : Nat)
  | get (access : Nat) (key : SegmentKey)
  | primary (access : Nat)
  | detach (access : Nat) (key : SegmentKey)
  | detachAll (access : Nat)
  /-- Drops an access. -/
  | leave (access : Nat)
  | remove (key : SegmentKey)
  | read (handle offset n : Nat)
  | write (handle offset : Nat) (bytes : Bytes)

/-- Does something with an access, if it is there. -/
def withAccess (i : Nat) (f : SegmentAccess → Commons) (s : Commons) : Commons :=
  (s.accesses[i]?).elim s f

/-- Hands out a handle, if there is one. -/
def hand (x : Option SegmentHandle) (s : Commons) : Commons :=
  { s with handles := s.handles ++ x.toList }

/-- After it was done.  What is asked of something that is not there changes nothing. -/
def Act.run (dir : String) (act : Act) (s : Commons) : Commons :=
  match act with
  | enter => { s with accesses := s.accesses ++ [{ dir }] }
  | attach i key size => s.withAccess i fun a =>
    let (x, a, files, _) := a.attach key size s.files
    ({ s with files, accesses := s.accesses.set i a } : Commons).hand x.toOption
  | get i key => s.withAccess i fun a => s.hand (a.get? key)
  | primary i => s.withAccess i fun a => s.hand a.primary?
  | detach i key => s.withAccess i fun a =>
    { s with accesses := s.accesses.set i (a.detach key).2.1 }
  | detachAll i => s.withAccess i fun a => { s with accesses := s.accesses.set i a.detachAll.1 }
  | leave i => { s with accesses := s.accesses.eraseIdx i }
  | remove key => { s with files := (removeSegment dir key s.files).2 }
  | read .. => s
  | write i offset bytes => (s.handles[i]?).elim s fun handle =>
    match handle.write offset bytes s.files with
    | (.error _, files) => { s with files }
    | (.ok (), files) => { s with files, written := { handle, offset, bytes } :: s.written }

/-- After all of it was done, in order. -/
def run (dir : String) (acts : List Act) (s : Commons) : Commons :=
  acts.foldl (fun s act => act.run dir s) s

/-! ### What holds of every handle -/

/-- The access is one to the directory, and has handles of its own keys that were handed out. -/
structure Fits (dir : String) (handles : List SegmentHandle) (a : SegmentAccess) : Prop where
  dir : a.dir = dir
  handed : ∀ key h, a.get? key = some h → h ∈ handles ∧ h.key = key

/-- The handle maps a whole file, which is that of its key, if it has a name at all. -/
structure Backed (dir : String) (before now : FileSystem) (h : SegmentHandle) : Prop where
  existing : h.mapping.file < now.files.length
  whole : (now.content h.mapping.file).length = h.length
  named : ∀ t, now.nodeAt? t = some (.file h.mapping.file) →
    ∃ d, now.home dir = some d ∧ t = ⟨d, h.key.fileName⟩
  made : h.mapping.created = true → before.files.length ≤ h.mapping.file

/-- What is upheld, whatever is done. -/
structure Upheld (dir : String) (before : FileSystem) (s : Commons) : Prop where
  proper : s.files.Proper
  grows : before.files.length ≤ s.files.files.length
  accesses : ∀ a ∈ s.accesses, Fits dir s.handles a
  backed : ∀ h ∈ s.handles, Backed dir before s.files h
  apart : ∀ g ∈ s.handles, ∀ h ∈ s.handles, g.mapping.file = h.mapping.file → g.key = h.key
  byte : ∀ file place, (s.files.content file).byte place = byteAt before s.written file place

/-- The handle is on the file that its key leads to, and no other key has handles on that. -/
structure Fresh (dir : String) (before : FileSystem) (s : Commons) (h : SegmentHandle) :
    Prop where
  backed : Backed dir before s.files h
  apart : ∀ g ∈ s.handles, g.mapping.file = h.mapping.file → g.key = h.key
  found : s.files.openFile (h.key.path dir) = .ok h.mapping.file

/-- All that an act can change, with the key whose file is removed, if any. -/
inductive Effect (dir : String) (before : FileSystem) (s : Commons) :
    Option SegmentKey → Commons → Prop
  | nothing (removed : Option SegmentKey) : Effect dir before s removed s
  /-- Accesses come and go, and let go of handles. -/
  | rearranged (accesses : List SegmentAccess) (fit : ∀ a ∈ accesses, Fits dir s.handles a) :
      Effect dir before s none { s with accesses }
  /-- A handle is handed out, or none if there was a failure.  Files may be made for it. -/
  | handed (accesses : List SegmentAccess) {x : Option SegmentHandle} {gs : FileSystem}
      (grown : s.files.Extends gs)
      (due : ∀ h, x = some h → h ∈ s.handles ∨ Fresh dir before { s with files := gs } h)
      (fit : ∀ a ∈ accesses, Fits dir (s.handles ++ x.toList) a) :
      Effect dir before s none { ({ s with files := gs } : Commons).hand x with accesses }
  | unlinked (key : SegmentKey) {d n : Nat}
      (node : s.files.nodeAt? ⟨d, key.fileName⟩ = some (.file n)) :
      Effect dir before s (some key) { s with files := s.files.unlink ⟨d, key.fileName⟩ }
  | written {h : SegmentHandle} (held : h ∈ s.handles) (offset : Nat) (bytes : Bytes) :
      Effect dir before s none { s with
        files := s.files.setContent h.mapping.file
          ((s.files.content h.mapping.file).write offset bytes)
        written := { handle := h, offset, bytes } :: s.written }

/-- The key whose file is removed. -/
def Act.removed? : Act → Option SegmentKey
  | remove key => some key
  | _ => none

section

variable {dir : String} {before fs gs : FileSystem} {handles handles' : List SegmentHandle}
  {a : SegmentAccess} {key : SegmentKey} {h : SegmentHandle} {s : Commons}

/-! ### Accesses -/

theorem fits_fresh (dir : String) (handles : List SegmentHandle) : Fits dir handles { dir } :=
  ⟨rfl, fun _ _ h => nomatch h⟩

theorem Fits.mono (hf : Fits dir handles a) (hsub : ∀ h ∈ handles, h ∈ handles') :
    Fits dir handles' a :=
  ⟨hf.dir, fun key h hget => ⟨hsub h (hf.handed key h hget).1, (hf.handed key h hget).2⟩⟩

theorem Fits.detach (hf : Fits dir handles a) (key : SegmentKey) :
    Fits dir handles (a.detach key).2.1 :=
  ⟨(SegmentAccess.dir_detach key a).trans hf.dir,
    fun k h hget => hf.handed k h (SegmentAccess.get?_of_get?_detach hget)⟩

theorem Fits.detachAll (hf : Fits dir handles a) : Fits dir handles a.detachAll.1 :=
  ⟨hf.dir, fun _ _ h => nomatch h⟩

/-! ### Files -/

/-- A handle stays backed where its file stays as long and gets no other name. -/
theorem Backed.of_kept (hb : Backed dir before fs h) (hgrows : fs.files.length ≤ gs.files.length)
    (hlength : (gs.content h.mapping.file).length = (fs.content h.mapping.file).length)
    (hnamed : ∀ t, gs.nodeAt? t = some (.file h.mapping.file) →
      fs.nodeAt? t = some (.file h.mapping.file))
    (hhome : gs.home dir = fs.home dir) : Backed dir before gs h := by
  refine ⟨Nat.lt_of_lt_of_le hb.existing hgrows, hlength.trans hb.whole, fun t ht => ?_, hb.made⟩
  rw [hhome]
  exact hb.named t (hnamed t ht)

theorem Backed.extends (hb : Backed dir before fs h) (hg : fs.Extends gs) :
    Backed dir before gs h :=
  hb.of_kept hg.grows (congrArg FileContent.length (hg.content _ hb.existing))
    (fun _ ht => hg.file_of_lt hb.existing ht) hg.home

theorem Backed.unlink (hb : Backed dir before fs h) {t : Slot} {n : Nat}
    (ht : fs.nodeAt? t = some (.file n)) : Backed dir before (fs.unlink t) h := by
  refine hb.of_kept (Nat.le_refl _) rfl (fun u hu => ?_) (FileSystem.home_unlink ht dir)
  rw [FileSystem.nodeAt?_unlink] at hu
  split at hu
  · cases hu
  · exact hu

/-- Writing does not change the length of a file. -/
theorem Backed.write (hb : Backed dir before fs h) {n : Nat} (hn : n < fs.files.length)
    (offset : Nat) (bs : Bytes) :
    Backed dir before (fs.setContent n ((fs.content n).write offset bs)) h := by
  have hlength : (fs.setContent n ((fs.content n).write offset bs)).files.length =
      fs.files.length := List.length_set
  refine hb.of_kept (Nat.le_of_eq hlength.symm) ?_ (fun t ht => ht)
    (FileSystem.home_setContent _ _ dir fs)
  rw [FileSystem.content_setContent hn]
  split
  · rename_i hk
    rw [hk, FileContent.length_write]
  · rfl

/-! ### Single acts -/

/-- An access may change for one that fits, too. -/
theorem Upheld.fits_set (hs : Upheld dir before s) (hsub : ∀ h ∈ s.handles, h ∈ handles)
    (i : Nat) (hfit : Fits dir handles a) : ∀ b ∈ s.accesses.set i a, Fits dir handles b := by
  intro b hb
  rcases List.mem_or_eq_of_mem_set hb with hb | rfl
  · exact (hs.accesses b hb).mono hsub
  · exact hfit

/-- A handle from before may be handed out once more. -/
theorem Upheld.effect_hand (hs : Upheld dir before s) {x : Option SegmentHandle}
    (hx : ∀ h, x = some h → h ∈ s.handles) : Effect dir before s none (s.hand x) :=
  .handed s.accesses (.refl _) (fun h hh => .inl (hx h hh)) fun a ha =>
    (hs.accesses a ha).mono fun _ => List.mem_append_left _

/-- A file that an attach maps is that of its key alone. -/
theorem Upheld.fresh (hs : Upheld dir before s) {m : Mapping} (hg : s.files.Extends gs)
    {slot : Slot} {node : Option Node}
    (hfound : s.files.locate (key.path dir) = .ok (.slot slot node))
    (hnamed : gs.nodeAt? slot = some (.file m.file))
    (hwhole : (gs.content m.file).length = m.length)
    (hmade : m.created = true → s.files.files.length ≤ m.file) :
    Fresh dir before { s with files := gs } { key, mapping := m } := by
  obtain ⟨hflaw, hname, d, hd, hplace⟩ := FileSystem.locate_path_eq_ok.1 hfound
  obtain ⟨rfl, -⟩ := Place.slot.inj hplace
  have hproper := hg.proper hs.proper
  have hhome : gs.home dir = some d := hg.home.trans hd
  refine ⟨⟨hproper.existing _ _ hnamed, hwhole, fun t ht => ⟨d, hhome, ?_⟩,
    fun hc => Nat.le_trans hs.grows (hmade hc)⟩, fun h hh heq => ?_, ?_⟩
  · exact hproper.unique _ _ _ ht hnamed
  · rw [← heq] at hnamed
    obtain ⟨d', -, hslot⟩ := ((hs.backed h hh).extends hg).named _ hnamed
    exact (SegmentKey.fileName_injective (congrArg Slot.name hslot)).symm
  · exact FileSystem.openFile_path_eq_ok.2 ⟨hflaw, hname, d, hhome, hnamed⟩

theorem Upheld.effect_attach (hs : Upheld dir before s) (i : Nat) (ha : a ∈ s.accesses)
    (key : SegmentKey) (size : Nat) : Effect dir before s none
      (({ s with
          files := (a.attach key size s.files).2.2.1
          accesses := s.accesses.set i (a.attach key size s.files).2.1 } : Commons).hand
        (a.attach key size s.files).1.toOption) := by
  have hfit := hs.accesses a ha
  have hattach := SegmentAccess.attaching_attach key size a s.files
  generalize a.attach key size s.files = r at hattach ⊢
  have hold : ∀ {x : Option SegmentHandle}, ∀ h ∈ s.handles, h ∈ s.handles ++ x.toList :=
    fun h hh => List.mem_append_left _ hh
  cases hattach with
  | @again handle t events found hdir kept =>
    have hmem := (hfit.handed key handle found).1
    refine .handed _ (.refl _) (x := some handle) (fun h hh => .inl (Option.some.inj hh ▸ hmem))
      (hs.fits_set hold i ⟨hdir.trans hfit.dir, fun k h hget => ?_⟩)
    obtain ⟨hh, hk⟩ := hfit.handed k h (kept k ▸ hget)
    exact ⟨hold h hh, hk⟩
  | failed opened =>
    cases opened with
    | failed f grown =>
      exact .handed _ grown (x := none) (fun h hh => nomatch hh)
        (hs.fits_set hold i (hfit.mono hold))
  | @mapped m t gs events opened hdir kept =>
    cases opened with
    | mapped grown found named whole made =>
      rw [hfit.dir] at found
      have hfresh := hs.fresh grown found named whole made
      refine .handed _ grown (x := some { key, mapping := m })
        (fun h hh => .inr (Option.some.inj hh ▸ hfresh))
        (hs.fits_set hold i ⟨hdir.trans hfit.dir, fun k h hget => ?_⟩)
      rw [kept k] at hget
      split at hget
      · obtain rfl := Option.some.inj hget
        exact ⟨List.mem_append_right _ List.mem_cons_self, ‹k = key›.symm⟩
      · obtain ⟨hh, hk⟩ := hfit.handed k h hget
        exact ⟨hold h hh, hk⟩

/-- What is asked of an access that is not there changes nothing. -/
theorem effect_withAccess {i : Nat} {f : SegmentAccess → Commons}
    (hf : ∀ a ∈ s.accesses, Effect dir before s none (f a)) :
    Effect dir before s none (s.withAccess i f) := by
  rw [withAccess]
  cases hi : s.accesses[i]? with
  | none => exact .nothing none
  | some a => exact hf a (List.mem_of_getElem? hi)

/-- **Whatever is done has one of a few effects.** -/
theorem Upheld.effect_run (hs : Upheld dir before s) (act : Act) :
    Effect dir before s act.removed? (act.run dir s) := by
  have hsame : ∀ h ∈ s.handles, h ∈ s.handles := fun h hh => hh
  cases act with
  | enter =>
    refine .rearranged _ fun a ha => ?_
    rcases List.mem_append.1 ha with ha | ha
    · exact hs.accesses a ha
    · rw [List.mem_singleton.1 ha]
      exact fits_fresh dir s.handles
  | attach i key size => exact effect_withAccess fun a ha => hs.effect_attach i ha key size
  | get i key =>
    exact effect_withAccess fun a ha =>
      hs.effect_hand fun h hh => ((hs.accesses a ha).handed key h hh).1
  | primary i =>
    refine effect_withAccess fun a ha => hs.effect_hand fun h hh => ?_
    obtain ⟨key, -, hget⟩ := Option.bind_eq_some_iff.1 hh
    exact ((hs.accesses a ha).handed key h hget).1
  | detach i key =>
    exact effect_withAccess fun a ha =>
      .rearranged _ (hs.fits_set hsame i ((hs.accesses a ha).detach key))
  | detachAll i =>
    exact effect_withAccess fun a ha =>
      .rearranged _ (hs.fits_set hsame i (hs.accesses a ha).detachAll)
  | leave i => exact .rearranged _ fun a ha => hs.accesses a (List.mem_of_mem_eraseIdx ha)
  | remove key =>
    rw [Act.run]
    rcases removeSegment_cases dir key s.files with hsame | ⟨d, n, -, hnode, hremoved⟩
    · rw [hsame]
      exact .nothing _
    · rw [hremoved]
      exact .unlinked key hnode
  | read handle offset n => exact .nothing none
  | write i offset bytes =>
    rw [Act.run]
    cases hi : s.handles[i]? with
    | none => exact .nothing none
    | some h =>
      rw [Option.elim_some, SegmentHandle.write_eq]
      by_cases hle : offset + bytes.length ≤ h.length
      · rw [if_pos hle]
        exact .written (List.mem_of_getElem? hi) offset bytes
      · rw [if_neg hle]
        exact .nothing none

/-! ### What is upheld -/

theorem byteAt_cons (before : FileSystem) (w : Write) (written : List Write) (file place : Nat) :
    byteAt before (w :: written) file place =
      (w.at? file place).getD (byteAt before written file place) := by
  rw [byteAt, List.findSome?_cons]
  cases w.at? file place <;> rfl

/-- At first there is nobody, and all bytes are those from before. -/
theorem upheld_start (dir : String) (hproper : before.Proper) :
    Upheld dir before { files := before } := by
  refine ⟨hproper, Nat.le_refl _, fun a ha => absurd ha List.not_mem_nil,
    fun h hh => absurd hh List.not_mem_nil, fun g hg => absurd hg List.not_mem_nil,
    fun file place => ?_⟩
  show (before.content file).byte place = if file < before.files.length then _ else 0
  split
  · rfl
  · rename_i hfile
    rw [FileSystem.content_of_le (Nat.not_lt.1 hfile)]
    rfl

theorem Upheld.extends (hs : Upheld dir before s) (hg : s.files.Extends gs) :
    Upheld dir before { s with files := gs } :=
  ⟨hg.proper hs.proper, Nat.le_trans hs.grows hg.grows, hs.accesses,
    fun h hh => (hs.backed h hh).extends hg, hs.apart,
    fun file place => (hg.byte file place).trans (hs.byte file place)⟩

/-- A handle may be handed out that was before, or that is on the file of its key. -/
theorem Upheld.hand (hs : Upheld dir before s) {x : Option SegmentHandle}
    (hdue : ∀ h, x = some h → h ∈ s.handles ∨ Fresh dir before s h)
    {accesses : List SegmentAccess}
    (hfit : ∀ a ∈ accesses, Fits dir (s.handles ++ x.toList) a) :
    Upheld dir before { s.hand x with accesses } := by
  have hcases : ∀ h ∈ s.handles ++ x.toList, h ∈ s.handles ∨ x = some h ∧ Fresh dir before s h := by
    intro h hh
    rcases List.mem_append.1 hh with hh | hh
    · exact .inl hh
    · have hx := Option.mem_toList.1 hh
      exact (hdue h hx).imp_right fun hfresh => ⟨hx, hfresh⟩
  refine ⟨hs.proper, hs.grows, hfit, fun h hh => ?_, fun g hg h hh heq => ?_, hs.byte⟩
  · exact (hcases h hh).elim (hs.backed h) fun hnew => hnew.2.backed
  · rcases hcases g hg with hg | ⟨hxg, hg⟩ <;> rcases hcases h hh with hh | ⟨hxh, hh⟩
    · exact hs.apart g hg h hh heq
    · exact hh.apart g hg heq
    · exact (hg.apart h hh heq.symm).symm
    · rw [Option.some.inj (hxg.symm.trans hxh)]

theorem Upheld.write (hs : Upheld dir before s) (hh : h ∈ s.handles) (offset : Nat)
    (bytes : Bytes) :
    Upheld dir before { s with
      files := s.files.setContent h.mapping.file
        ((s.files.content h.mapping.file).write offset bytes)
      written := { handle := h, offset, bytes } :: s.written } := by
  have hexisting := (hs.backed h hh).existing
  refine ⟨hs.proper.setContent _ _, ?_, hs.accesses,
    fun g hg => (hs.backed g hg).write hexisting offset bytes, hs.apart, fun file place => ?_⟩
  · rw [FileSystem.setContent, List.length_set]
    exact hs.grows
  · rw [FileSystem.content_setContent hexisting, byteAt_cons, ← hs.byte]
    by_cases hfile : file = h.mapping.file
    · subst hfile
      rw [if_pos rfl]
      exact Write.byte { handle := h, offset, bytes } _ place
    · rw [if_neg hfile, Write.at?, if_neg fun hin => hfile hin.1.symm, Option.getD_none]

/-- **Whatever is done keeps what is upheld.** -/
theorem Upheld.effect {removed : Option SegmentKey} {t : Commons} (hs : Upheld dir before s)
    (he : Effect dir before s removed t) : Upheld dir before t := by
  cases he with
  | nothing => exact hs
  | rearranged accesses fit => exact ⟨hs.proper, hs.grows, fit, hs.backed, hs.apart, hs.byte⟩
  | handed accesses grown due fit => exact (hs.extends grown).hand due fit
  | unlinked key node =>
    exact ⟨hs.proper.unlink _, hs.grows, hs.accesses, fun h hh => (hs.backed h hh).unlink node,
      hs.apart, hs.byte⟩
  | written held offset bytes => exact hs.write held offset bytes

theorem Upheld.run (hs : Upheld dir before s) (acts : List Act) :
    Upheld dir before (s.run dir acts) := by
  induction acts generalizing s with
  | nil => exact hs
  | cons act acts ih => exact ih (hs.effect (hs.effect_run act))

end

/-! ### What the holders see -/

/-- What holds of all handles that were ever handed out, `before` being the files from before. -/
structure Faithful (before : FileSystem) (s : Commons) : Prop where
  /-- Where it is allowed, a read gives what was written last. -/
  read : ∀ h ∈ s.handles, ∀ offset n, h.read offset n s.files =
    if offset + n ≤ h.length then
      .ok ((List.range n).map fun i => byteAt before s.written h.mapping.file (offset + i))
    else .error (.outOfBounds offset n h.length)
  write : ∀ h ∈ s.handles, ∀ offset bytes, (h.write offset bytes s.files).1 =
    if offset + bytes.length ≤ h.length then .ok ()
    else .error (.outOfBounds offset bytes.length h.length)
  /-- The file behind a mapping stays as long as the mapping. -/
  whole : ∀ h ∈ s.handles, (s.files.content h.mapping.file).length = h.length
  /-- Handles of different keys are on different files. -/
  apart : ∀ g ∈ s.handles, ∀ h ∈ s.handles, g.key ≠ h.key → g.mapping.file ≠ h.mapping.file
  /-- A file that an attach made is none of those from before, and so was blank. -/
  made : ∀ h ∈ s.handles, h.mapping.created = true → before.files.length ≤ h.mapping.file

/-- From `s` to `t` no harm was done to anybody, `removed` being the key whose file was removed, if
any. -/
structure Confined (dir : String) (removed : Option SegmentKey) (s t : Commons) : Prop where
  /-- Handles stay good. -/
  handles : ∀ h ∈ s.handles, h ∈ t.handles
  /-- Length and bytes of a file change only where something is written through a handle of its
  key. -/
  content : ∀ h ∈ s.handles, (∀ w, t.written = w :: s.written → w.handle.key ≠ h.key) →
    t.files.content h.mapping.file = s.files.content h.mapping.file
  /-- A key leads to the same file until that is removed. -/
  named : ∀ key file, s.files.openFile (key.path dir) = .ok file → removed ≠ some key →
    t.files.openFile (key.path dir) = .ok file
  /-- A handle that is new is one on the file that its key leads to. -/
  mapped : ∀ h ∈ t.handles, h ∉ s.handles →
    t.files.openFile (h.key.path dir) = .ok h.mapping.file

section

variable {dir : String} {before gs : FileSystem} {s t : Commons} {h : SegmentHandle}

theorem Upheld.faithful (hs : Upheld dir before s) : Faithful before s where
  read h hh offset n := by
    rw [SegmentHandle.read_eq]
    simp only [hs.byte]
  write h hh offset bytes := by
    rw [SegmentHandle.write_eq]
    split <;> rfl
  whole h hh := (hs.backed h hh).whole
  apart g hg h hh hkey heq := hkey (hs.apart g hg h hh heq)
  made h hh := (hs.backed h hh).made

/-- The file of a key is found as before where the directory and the name still stand. -/
theorem openFile_of_kept {fs : FileSystem} {key : SegmentKey} {file : Nat}
    (hhome : gs.home dir = fs.home dir)
    (hkept : ∀ d, fs.nodeAt? ⟨d, key.fileName⟩ = some (.file file) →
      gs.nodeAt? ⟨d, key.fileName⟩ = some (.file file))
    (h : fs.openFile (key.path dir) = .ok file) : gs.openFile (key.path dir) = .ok file := by
  obtain ⟨hflaw, hname, d, hd, hnode⟩ := FileSystem.openFile_path_eq_ok.1 h
  exact FileSystem.openFile_path_eq_ok.2 ⟨hflaw, hname, d, hhome.trans hd, hkept d hnode⟩

/-- Where no more than new files are made, only new handles need a reason. -/
theorem Upheld.confined_of_extends (hs : Upheld dir before s) (hg : s.files.Extends t.files)
    (handles : ∀ h ∈ s.handles, h ∈ t.handles)
    (mapped : ∀ h ∈ t.handles, h ∈ s.handles ∨
      t.files.openFile (h.key.path dir) = .ok h.mapping.file) : Confined dir none s t where
  handles := handles
  content h hh _ := hg.content _ (hs.backed h hh).existing
  named _ _ hopen _ := openFile_of_kept hg.home (fun _ => hg.kept _ _) hopen
  mapped h hh hnew := (mapped h hh).resolve_left hnew

/-- **Whatever is done, it does no harm.** -/
theorem Upheld.confined {removed : Option SegmentKey} (hs : Upheld dir before s)
    (he : Effect dir before s removed t) : Confined dir removed s t := by
  cases he with
  | nothing => exact ⟨fun _ h => h, fun _ _ _ => rfl, fun _ _ h _ => h, fun h hh hn => absurd hh hn⟩
  | rearranged accesses fit =>
    exact hs.confined_of_extends (.refl _) (fun _ h => h) fun _ h => .inl h
  | handed accesses grown due fit =>
    refine hs.confined_of_extends grown (fun h hh => List.mem_append_left _ hh) fun h hh => ?_
    rcases List.mem_append.1 hh with hh | hh
    · exact .inl hh
    · exact (due h (Option.mem_toList.1 hh)).imp_right fun hfresh => hfresh.found
  | unlinked key node =>
    refine ⟨fun h hh => hh, fun h hh _ => rfl, fun k file hopen hne => ?_,
      fun h hh hnew => absurd hh hnew⟩
    -- the file of the key is that of no other key
    refine openFile_of_kept (FileSystem.home_unlink node dir) (fun d' hfile => ?_) hopen
    rw [FileSystem.nodeAt?_unlink, if_neg]
    · exact hfile
    · intro hslot
      exact hne (congrArg some (SegmentKey.fileName_injective (congrArg Slot.name hslot)).symm)
  | @written h held offset bytes =>
    refine ⟨fun g hg => hg, fun g hg hother => ?_, fun key file hopen _ => ?_,
      fun g hg hnew => absurd hg hnew⟩
    · have hne : g.mapping.file ≠ h.mapping.file := fun heq =>
        hother _ rfl (hs.apart h held g hg heq.symm)
      rw [FileSystem.content_setContent (hs.backed h held).existing, if_neg hne]
    · exact openFile_of_kept (FileSystem.home_setContent _ _ dir s.files) (fun _ hnode => hnode)
        hopen

/-- **Whatever was done, every handle reads what was written last to its file, up to the end of its
mapping and not beyond it; handles of different keys are on different files; and nothing that is
done next changes a byte or the length of a file but a write through a handle of its key.** -/
theorem faithful_of_run (dir : String) (hproper : before.Proper) (acts : List Act) :
    Faithful before (({ files := before } : Commons).run dir acts) ∧
      ∀ act : Act, Confined dir act.removed? (({ files := before } : Commons).run dir acts)
        (act.run dir (({ files := before } : Commons).run dir acts)) :=
  have hupheld := (upheld_start dir hproper).run acts
  ⟨hupheld.faithful, fun act => hupheld.confined (hupheld.effect_run act)⟩

/-- Two accesses attach a segment, one of them also one that was there before.  That one writes,
detaches, and removes the file; the other one reads. -/
theorem faithful_of_run_removed :
    let before := ({} : FileSystem).writeFile "/dev/shm/basalt-seg-00000009" (.ofBytes [5, 6, 7, 8])
    let acts : List Act := [.enter, .enter, .attach 0 ⟨7⟩ 16, .attach 0 ⟨9⟩ 2, .attach 1 ⟨7⟩ 8,
      .write 0 3 [1, 2], .write 1 1 [0], .write 1 3 [4, 4], .detach 0 ⟨7⟩, .remove ⟨7⟩]
    let s := ({ files := before } : Commons).run "/dev/shm" acts
    before.Proper ∧ Faithful before s ∧
      (s.handles.map fun h => (h.key.number, (h.read 0 4 s.files).toOption,
        (h.read 4 2 s.files).toOption)) =
        [(7, some [0, 0, 0, 1], some [2, 0]), (9, some [5, 0, 7, 8], none),
          (7, some [0, 0, 0, 1], some [2, 0])] ∧
      ∀ act : Act, Confined "/dev/shm" act.removed? s (act.run "/dev/shm" s) := by
  intro before acts s
  have hproper : before.Proper := FileSystem.proper_initial.writeFile _ _
  obtain ⟨hfaithful, hconfined⟩ := faithful_of_run "/dev/shm" hproper acts
  exact ⟨hproper, hfaithful, by decide +kernel, hconfined⟩

end

end Commons

end PipelineWorker
