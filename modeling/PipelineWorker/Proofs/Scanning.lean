/-
Going through a stream for an answer.

A `Scan` of a stream passes its first messages over and ends with a verdict on the next one.  The
announcements of segments among the messages that were passed over have been taken up (`takeUp`), in
their order.

* `takeAnnouncement_eq` — what the coordinator does with one announcement;
* `Scan.cons` — one more message in front is passed over;
* `Scan.unique` — a stream has one answer at most, and there is one way to get there.
-/
import PipelineWorker.Coordinator.Waiting
import PipelineWorker.Proofs.Framing

namespace PipelineWorker

/-- Messages without the announcements of segments. -/
def proper (ms : List Message) : List Message := ms.filter fun m => m.kind ≠ .newSharedSegment

@[simp] theorem proper_nil : proper [] = [] := rfl

@[simp] theorem proper_append (ms ns : List Message) : proper (ms ++ ns) = proper ms ++ proper ns :=
  List.filter_append ..

theorem proper_cons_announcement {m : Message} (h : m.kind = .newSharedSegment)
    (ms : List Message) : proper (m :: ms) = proper ms :=
  List.filter_cons_of_neg (by rw [h]; decide)

theorem proper_cons {m : Message} (h : m.kind ≠ .newSharedSegment) (ms : List Message) :
    proper (m :: ms) = m :: proper ms :=
  List.filter_cons_of_pos (decide_eq_true h)

/-- The attached segments, and the files. -/
abbrev Holding := Option SegmentAccess × FileSystem

namespace Holding

/-- Attaches an announced segment; without an access, to a fresh one. -/
def attach (dir : String) (a : SegmentAnnouncement) (h : Holding) :
    Except SegmentError Unit × Holding :=
  let r := (h.1.getD { dir }).attach a.key a.size.toNat h.2
  (r.1.map fun _ => (), some r.2.1, r.2.2.1)

/-- Attaches announced segments, one after the other. -/
def takeUp (dir : String) : List SegmentAnnouncement → Holding → Except SegmentError Holding
  | [], h => .ok h
  | a :: as, h =>
    match h.attach dir a with
    | (.ok (), h) => takeUp dir as h
    | (.error e, _) => .error e

theorem takeUp_append (dir : String) (as bs : List SegmentAnnouncement) (h : Holding) :
    takeUp dir (as ++ bs) h = (takeUp dir as h).bind (takeUp dir bs) := by
  induction as generalizing h with
  | nil => rfl
  | cons a as ih =>
    rw [List.cons_append, takeUp, takeUp]
    generalize h.attach dir a = r
    rcases r with ⟨e | u, h'⟩
    · rfl
    · exact ih h'

end Holding

/-- The segment that a message announces, if it is a well-formed announcement. -/
def Message.announcement? (m : Message) : Option SegmentAnnouncement :=
  if m.kind = .newSharedSegment then (SegmentAnnouncement.decode m.payload.toList).toOption
  else none

/-- The segments that these messages announce. -/
def announcements (ms : List Message) : List SegmentAnnouncement :=
  ms.filterMap Message.announcement?

theorem announcements_append (ms ns : List Message) :
    announcements (ms ++ ns) = announcements ms ++ announcements ns := List.filterMap_append

theorem announcements_of_none {m : Message} (hm : m.announcement? = none) :
    announcements [m] = [] := by
  rw [announcements, List.filterMap_cons_none hm]
  rfl

theorem announcements_of_some {m : Message} {a : SegmentAnnouncement}
    (hm : m.announcement? = some a) : announcements [m] = [a] := by
  rw [announcements, List.filterMap_cons_some hm]
  rfl

/-- Where nothing is announced, nothing is attached. -/
theorem Holding.takeUp_of_none {m : Message} (hm : m.announcement? = none) (dir : String)
    (h : Holding) : h.takeUp dir (announcements [m]) = .ok h := by
  rw [announcements_of_none hm]
  rfl

namespace Session

/-- The segments of the worker, and the files. -/
def holding (s : Session) : Holding := (s.worker.segments, s.env.files)

/-- **A malformed announcement changes nothing but the report; a well-formed one is attached.** -/
theorem takeAnnouncement_eq {m : Message} (hm : m.kind = .newSharedSegment) (s : Session) :
    match m.announcement? with
    | none => (s.takeAnnouncement m).1 = .ok () ∧ (s.takeAnnouncement m).2.holding = s.holding
    | some a =>
      (s.takeAnnouncement m).1
        = ((s.holding.attach s.worker.config.segmentDir a).1.mapError .segment) ∧
      (s.takeAnnouncement m).2.holding = (s.holding.attach s.worker.config.segmentDir a).2 := by
  rw [Message.announcement?, if_pos hm, takeAnnouncement]
  cases SegmentAnnouncement.decode m.payload.toList with
  | error e => exact ⟨rfl, rfl⟩
  | ok a =>
    have hattach : s.holding.attach s.worker.config.segmentDir a
        = ((s.access.attach a.key a.size.toNat s.env.files).1.map fun _ => (),
          some (s.access.attach a.key a.size.toNat s.env.files).2.1,
          (s.access.attach a.key a.size.toNat s.env.files).2.2.1) := rfl
    show (s.attachAnnounced a).1 = (s.holding.attach _ a).1.mapError _ ∧
      (s.attachAnnounced a).2.holding = (s.holding.attach _ a).2
    rw [hattach, attachAnnounced]
    generalize s.access.attach a.key a.size.toNat s.env.files = r
    rcases r with ⟨e | h, access, files, events⟩
    · exact ⟨rfl, rfl⟩
    · exact ⟨rfl, rfl⟩

/-- An announcement after which the coordinator goes on has been taken up. -/
theorem takeAnnouncement_ok {m : Message} (hm : m.kind = .newSharedSegment) {s t : Session}
    (h : s.takeAnnouncement m = (.ok (), t)) :
    s.holding.takeUp s.worker.config.segmentDir (announcements [m]) = .ok t.holding := by
  have heq := takeAnnouncement_eq hm s
  rw [h] at heq
  cases ha : m.announcement? with
  | none =>
    rw [ha] at heq
    rw [heq.2]
    exact Holding.takeUp_of_none ha ..
  | some a =>
    rw [ha] at heq
    rw [announcements_of_some ha, Holding.takeUp]
    dsimp only at heq
    generalize s.holding.attach s.worker.config.segmentDir a = r at heq ⊢
    rcases r with ⟨e | u, h'⟩
    · cases heq.1
    · rw [heq.2]
      rfl

/-- An announcement after which the coordinator gives up announces a segment that cannot be
attached. -/
theorem takeAnnouncement_error {m : Message} (hm : m.kind = .newSharedSegment) {s t : Session}
    {e : CoordinatorError} (h : s.takeAnnouncement m = (.error e, t)) :
    ∃ a f, m.announcement? = some a ∧ e = .segment f ∧
      s.holding.attach s.worker.config.segmentDir a = (.error f, t.holding) := by
  have heq := takeAnnouncement_eq hm s
  rw [h] at heq
  cases ha : m.announcement? with
  | none =>
    rw [ha] at heq
    cases heq.1
  | some a =>
    rw [ha] at heq
    dsimp only at heq
    cases hattach : s.holding.attach s.worker.config.segmentDir a with
    | mk x h' =>
      rw [hattach] at heq
      cases x with
      | ok u => cases heq.1
      | error f =>
        have he : e = .segment f := Except.error.inj heq.1
        exact ⟨a, f, rfl, he, by rw [hattach, heq.2]⟩

end Session

/-! ### Scans -/

/-- Whether the scan goes on behind the message: it announces a segment, or it is neither wanted nor
tells that the other end goes away. -/
def PassedOver (wanted : Kind → Prop) (m : Message) : Prop :=
  m.kind = .newSharedSegment ∨ (¬ wanted m.kind ∧ m.kind ≠ .socketClosed)

/-- How a scan ends in front of the bytes `bs`.  Stated are the answer, the segments at the end and
the bytes that are still to come. -/
inductive Verdict (id : ConnectionId) (role : Role) (wanted : Kind → Prop) (dir : String)
    (bs : Bytes) (held : Holding) : Except CoordinatorError Message → Holding → Bytes → Prop
  /-- A wanted message is the answer. -/
  | answer {m : Message} {n : Nat} (frame : Frame.decode bs = .ok (m, n))
      (kind : m.kind ≠ .newSharedSegment) (kind_wanted : wanted m.kind) :
      Verdict id role wanted dir bs held (.ok (m.withOrigin id)) held (bs.drop n)
  /-- The other end says that it goes away. -/
  | closed {m : Message} {n : Nat} (frame : Frame.decode bs = .ok (m, n))
      (kind : m.kind = .socketClosed) (unwanted : ¬ wanted m.kind) :
      Verdict id role wanted dir bs held (.error (.peerDisconnected role)) held (bs.drop n)
  /-- An announced segment cannot be attached. -/
  | unattachable {m : Message} {n : Nat} {a : SegmentAnnouncement} {e : SegmentError}
      {held' : Holding} (frame : Frame.decode bs = .ok (m, n))
      (announces : m.announcement? = some a)
      (failed : held.attach dir a = (.error e, held')) :
      Verdict id role wanted dir bs held (.error (.segment e)) held' (bs.drop n)
  /-- A header announces a payload that is over the limit; only the header is taken. -/
  | oversized {n : Nat} {e : CoordinatorError}
      (header : Frame.decode bs = .error (.payloadTooLarge n Frame.maxPayload)) :
      Verdict id role wanted dir bs held (.error e) held (bs.drop Frame.headerLength)
  /-- The stream ends or fails before a frame is complete. -/
  | ended {needed : Nat} {e : CoordinatorError} {left : Bytes}
      (short : Frame.decode bs = .error (.truncated needed bs.length)) :
      Verdict id role wanted dir bs held (.error e) held left

/-- A scan of the stream `bs` on connection `id` that passes the messages `passed` over. -/
structure Scan (id : ConnectionId) (role : Role) (wanted : Kind → Prop) (dir : String) (bs : Bytes)
    (held : Holding) (passed : List Message) (x : Except CoordinatorError Message)
    (held' : Holding) (left : Bytes) : Prop where
  /-- They are the first messages of the stream, told where they came from. -/
  front : passed <+: (Frame.messages bs).map (·.withOrigin id)
  skipped : ∀ m ∈ passed, PassedOver wanted m
  /-- The segments that they announce have been attached, and the next message decides. -/
  verdict : ∃ mid, held.takeUp dir (announcements passed) = .ok mid ∧
    Verdict id role wanted dir (bs.drop (Frame.span passed)) mid x held' left

section Scans

variable {id : ConnectionId} {role : Role} {wanted : Kind → Prop} {dir : String} {bs left : Bytes}
  {held held' : Holding} {x : Except CoordinatorError Message}

/-- Nothing is passed over. -/
theorem Verdict.scan (h : Verdict id role wanted dir bs held x held' left) :
    Scan id role wanted dir bs held [] x held' left :=
  ⟨List.nil_prefix, fun _ hm => absurd hm List.not_mem_nil, held, rfl, h⟩

/-- A scan that ends at once leaves the deferred messages as they are. -/
theorem Verdict.scans {deferred deferred' : List Message}
    (h : Verdict id role wanted dir bs held x held' left) (hq : deferred' = deferred) :
    ∃ passed, Scan id role wanted dir bs held passed x held' left ∧
      deferred' = deferred ++ proper passed := by
  refine ⟨[], h.scan, ?_⟩
  rw [hq]
  exact (List.append_nil _).symm

/-- A scan that passes nothing over ends at once. -/
theorem Scan.of_nil (h : Scan id role wanted dir bs held [] x held' left) :
    Verdict id role wanted dir bs held x held' left := by
  obtain ⟨mid, hmid, hv⟩ := h.verdict
  obtain rfl : held = mid := Except.ok.inj hmid
  exact hv

/-- One more message in front is passed over. -/
theorem Scan.cons {m : Message} {n : Nat} {mid : Holding} {passed : List Message}
    (frame : Frame.decode bs = .ok (m, n)) (hskipped : PassedOver wanted m)
    (taken : held.takeUp dir (announcements [m.withOrigin id]) = .ok mid)
    (h : Scan id role wanted dir (bs.drop n) mid passed x held' left) :
    Scan id role wanted dir bs held (m.withOrigin id :: passed) x held' left := by
  have hn := (Frame.length_of_decode frame).1
  refine ⟨?_, ?_, ?_⟩
  · rw [Frame.messages_eq_cons frame, List.map_cons]
    exact List.cons_prefix_cons.2 ⟨rfl, h.front⟩
  · intro m' hm'
    rcases List.mem_cons.1 hm' with rfl | hm'
    · exact hskipped
    · exact h.skipped m' hm'
  · obtain ⟨mid', hmid, hv⟩ := h.verdict
    refine ⟨mid', ?_, ?_⟩
    · have hsplit : announcements (m.withOrigin id :: passed)
          = announcements [m.withOrigin id] ++ announcements passed :=
        announcements_append [m.withOrigin id] passed
      rw [hsplit, Holding.takeUp_append, taken]
      exact hmid
    · rw [Frame.span_cons, Message.payload_withOrigin, ← hn, ← List.drop_drop]
      exact hv

/-- A scan that passes messages over passes the first one over, then the others. -/
theorem Scan.uncons {m : Message} {passed : List Message}
    (h : Scan id role wanted dir bs held (m :: passed) x held' left) :
    ∃ m₀ n mid, m = m₀.withOrigin id ∧ Frame.decode bs = .ok (m₀, n) ∧ PassedOver wanted m₀ ∧
      held.takeUp dir (announcements [m]) = .ok mid ∧
      Scan id role wanted dir (bs.drop n) mid passed x held' left := by
  obtain ⟨rest, hrest⟩ := h.front
  obtain ⟨m₀, ms, hms, hm, htail⟩ := List.map_eq_cons_iff.1 hrest.symm
  obtain ⟨hd, hdrop⟩ := Frame.decode_of_messages_eq_cons hms
  obtain ⟨mid', htaken, hv⟩ := h.verdict
  have hsplit : announcements (m :: passed) = announcements [m] ++ announcements passed :=
    announcements_append [m] passed
  rw [hsplit, Holding.takeUp_append] at htaken
  subst hm
  cases hmid : held.takeUp dir (announcements [m₀.withOrigin id]) with
  | error e =>
    rw [hmid] at htaken
    cases htaken
  | ok mid =>
    rw [hmid] at htaken
    have hover : PassedOver wanted (m₀.withOrigin id) := h.skipped _ List.mem_cons_self
    refine ⟨m₀, _, mid, rfl, hd, hover, rfl, ?_, ?_, mid', htaken, ?_⟩
    · rw [hdrop, htail]
      exact List.prefix_append ..
    · exact fun m' hm' => h.skipped m' (List.mem_cons_of_mem _ hm')
    · rw [List.drop_drop]
      exact hv

/-- Where a message is passed over, and taken up if it announces a segment, no scan ends. -/
theorem Verdict.not_of_passedOver {m₀ : Message} {n : Nat} {mid : Holding}
    (h : Verdict id role wanted dir bs held x held' left) (hd : Frame.decode bs = .ok (m₀, n))
    (hover : PassedOver wanted m₀)
    (htaken : held.takeUp dir (announcements [m₀.withOrigin id]) = .ok mid) : False := by
  cases h with
  | answer frame kind kind_wanted =>
    obtain ⟨rfl, -⟩ := Frame.decode_unique hd frame
    rcases hover with hk | ⟨hw, -⟩
    · exact kind hk
    · exact hw kind_wanted
  | closed frame kind unwanted =>
    obtain ⟨rfl, -⟩ := Frame.decode_unique hd frame
    rcases hover with hk | ⟨-, hk⟩
    · rw [kind] at hk
      cases hk
    · exact hk kind
  | unattachable frame announces failed =>
    obtain ⟨rfl, -⟩ := Frame.decode_unique hd frame
    have hsome : (m₀.withOrigin id).announcement? = some _ := announces
    rw [announcements_of_some hsome, Holding.takeUp, failed] at htaken
    cases htaken
  | oversized header =>
    rw [hd] at header
    cases header
  | ended short =>
    rw [hd] at short
    cases short

/-- An answer leaves no room for another verdict. -/
theorem Verdict.unique {m : Message} {held'' : Holding} {left' : Bytes}
    (h : Verdict id role wanted dir bs held (.ok m) held' left)
    (h' : Verdict id role wanted dir bs held x held'' left') :
    x = .ok m ∧ held'' = held' ∧ left' = left := by
  cases h with
  | answer frame kind kind_wanted =>
    cases h' with
    | answer frame' =>
      obtain ⟨rfl, rfl⟩ := Frame.decode_unique frame frame'
      exact ⟨rfl, rfl, rfl⟩
    | closed frame' kind' unwanted =>
      obtain ⟨rfl, -⟩ := Frame.decode_unique frame frame'
      exact absurd kind_wanted unwanted
    | unattachable frame' announces =>
      obtain ⟨rfl, -⟩ := Frame.decode_unique frame frame'
      rw [Message.announcement?, if_neg kind] at announces
      cases announces
    | oversized header =>
      rw [frame] at header
      cases header
    | ended short =>
      rw [frame] at short
      cases short

/-- **A stream has one answer at most, and there is one way to get there.** -/
theorem Scan.unique {m : Message} {passed passed' : List Message} {held'' : Holding}
    {left' : Bytes} (h : Scan id role wanted dir bs held passed (.ok m) held' left)
    (h' : Scan id role wanted dir bs held passed' x held'' left') :
    passed' = passed ∧ x = .ok m ∧ held'' = held' ∧ left' = left := by
  -- The scans pass over the same messages, since neither can end where the other goes on; what is
  -- attached is the same after each of them.
  induction passed generalizing bs held passed' with
  | nil =>
    have hv := h.of_nil
    cases passed' with
    | nil => exact ⟨rfl, hv.unique h'.of_nil⟩
    | cons m' passed' =>
      obtain ⟨m₀, n, mid, rfl, hd, hover, htaken, -⟩ := h'.uncons
      exact absurd htaken fun htaken => hv.not_of_passedOver hd hover htaken
  | cons m₁ passed ih =>
    obtain ⟨m₀, n, mid, rfl, hd, hover, htaken, hrest⟩ := h.uncons
    cases passed' with
    | nil => exact absurd htaken fun htaken => h'.of_nil.not_of_passedOver hd hover htaken
    | cons m' passed' =>
      obtain ⟨m₀', n', mid', rfl, hd', -, htaken', hrest'⟩ := h'.uncons
      obtain ⟨rfl, rfl⟩ := Frame.decode_unique hd hd'
      rw [htaken, Except.ok.injEq] at htaken'
      subst htaken'
      obtain ⟨rfl, hx⟩ := ih hrest hrest'
      exact ⟨rfl, hx⟩

end Scans

end PipelineWorker
