/-
Reading one frame from a link.

Bytes are collected until they are a frame, so that a deadline which passes in the middle leaves
the stream in step: the bytes are kept, and the next reading goes on from there.  Interrupted
receives are tried again.  Past its deadline a reading still takes what has already arrived.  The
socket's limit on waiting is set before every receive that has a deadline, and lifted before the
first one that has none.

* `readFrame_weight_le` — what is read is taken from the link and from the buffer;
* `readFrame_weight_lt` — a message takes at least its header.
-/
import PipelineWorker.Net.Link

namespace PipelineWorker

/-- Where a reading stands. -/
structure Reading where
  /-- The bytes of a frame that is not complete yet. -/
  buffered : Bytes
  now : Nat
  link : Link
  /-- Whether the socket's limit on waiting was set and not lifted since. -/
  timeoutSet : Bool := false

namespace Reading

/-- The shortest time that a receive waits, in microseconds; it is what is left past a deadline. -/
def shortestWindow : Nat := 1000

/-- Points the socket's limit on waiting at the deadline, if there is one. -/
def arm (deadline : Option Nat) (r : Reading) : Reading :=
  match deadline with
  | some d =>
    { r with
      link := { r.link with readTimeout := some (max (d - r.now) shortestWindow) }
      timeoutSet := true }
  | none =>
    if r.timeoutSet then
      { r with link := { r.link with readTimeout := none }, timeoutSet := false }
    else r

@[simp] theorem buffered_arm (deadline : Option Nat) (r : Reading) :
    (r.arm deadline).buffered = r.buffered := by
  unfold arm
  split
  · rfl
  · split <;> rfl

@[simp] theorem now_arm (deadline : Option Nat) (r : Reading) :
    (r.arm deadline).now = r.now := by
  unfold arm
  split
  · rfl
  · split <;> rfl

@[simp] theorem incoming_arm (deadline : Option Nat) (r : Reading) :
    (r.arm deadline).link.incoming = r.link.incoming := by
  unfold arm
  split
  · rfl
  · split <;> rfl

@[simp] theorem weight_link_arm (deadline : Option Nat) (r : Reading) :
    (r.arm deadline).link.weight = r.link.weight := by
  simp [Link.weight]

/-- How many bytes are missing, as far as that is known. -/
def missing (buffered : Bytes) (total : Option Nat) : Nat :=
  total.getD Frame.headerLength - buffered.length

/-- Whether a receive that failed like this ran out of time. -/
def isTimeout (e : Errno) : Bool := e.kind = .wouldBlock || e.kind = .timedOut

/-- The bytes that a reading can still come by, and one more for every failure on the way. -/
def weight (r : Reading) : Nat := r.link.weight + r.buffered.length

/-- Receives some of the missing bytes, at most as many as are known to be missing.  They are not
yet in the buffer. -/
def pull (deadline : Option Nat) (total : Option Nat) (r : Reading) : Except Errno Bytes × Reading :=
  let armed := r.arm deadline
  let got := armed.link.recv (missing r.buffered total) armed.now
  (got.result, { armed with now := got.now, link := got.link })

@[simp] theorem buffered_pull (deadline total : Option Nat) (r : Reading) :
    (r.pull deadline total).2.buffered = r.buffered := buffered_arm deadline r

/-- What a pull hands out is taken from the link. -/
theorem pull_weight_le {deadline total : Option Nat} {r g : Reading} {bs : Bytes}
    (h : r.pull deadline total = (.ok bs, g)) : g.link.weight + bs.length ≤ r.link.weight := by
  have hle := Link.recv_weight_le (missing r.buffered total) (r.arm deadline).now
    (r.arm deadline).link
  have hr := congrArg Prod.fst h
  have hg := congrArg (·.2.link) h
  simp only [pull] at hr hg
  rw [weight_link_arm] at hle
  simpa only [Link.Received.bytes, hr, hg] using hle

/-- A pull that fails brings no bytes; unless it ran out of time, the failure is used up. -/
theorem pull_weight_of_error {deadline total : Option Nat} {r g : Reading} {e : Errno}
    (h : r.pull deadline total = (.error e, g)) :
    g.link.weight ≤ r.link.weight ∧ (e ≠ .again → g.link.weight < r.link.weight) := by
  have hle := Link.recv_weight_le (missing r.buffered total) (r.arm deadline).now
    (r.arm deadline).link
  have hr := congrArg Prod.fst h
  have hg := congrArg (·.2.link) h
  simp only [pull] at hr hg
  rw [weight_link_arm, hg] at hle
  refine ⟨by omega, fun he => ?_⟩
  have hlt := Link.recv_weight_lt hr he
  rwa [weight_link_arm, hg] at hlt

/-- Reads until a frame is complete, or until the deadline passes: then there is no message. -/
def readFrame (deadline : Option Nat) (r : Reading) :
    Except CodecError (Option Message) × Reading :=
  match Frame.length? r.buffered with
  | .error e => (.error e, { r with buffered := [] })
  | .ok total =>
    if total = some r.buffered.length then
      (((Frame.decode r.buffered).map fun m => some m.1), { r with buffered := [] })
    else
      match _hp : r.pull deadline total with
      | (.ok [], g) => (.error (.stream (.plain .unexpectedEof)), { g with buffered := [] })
      | (.ok (b :: bs), g) => readFrame deadline { g with buffered := g.buffered ++ b :: bs }
      | (.error e, g) =>
        if _he : e = .intr then readFrame deadline g
        else if deadline.isSome && isTimeout e then (.ok none, g)
        else (.error (.stream (.number e)), { g with buffered := [] })
termination_by r.link.weight
decreasing_by
  · have key := pull_weight_le _hp
    simp only [List.length_cons] at key
    show g.link.weight < r.link.weight
    omega
  · exact (pull_weight_of_error _hp).2 (by simp [_he])

/-- A reading goes on as its next receive has it. -/
theorem readFrame_eq_pull (deadline : Option Nat) {total : Option Nat} {r : Reading}
    (hl : Frame.length? r.buffered = .ok total) (hn : total ≠ some r.buffered.length) :
    readFrame deadline r =
      match r.pull deadline total with
      | (.ok [], g) => (.error (.stream (.plain .unexpectedEof)), { g with buffered := [] })
      | (.ok (b :: bs), g) => readFrame deadline { g with buffered := g.buffered ++ b :: bs }
      | (.error e, g) =>
        if e = .intr then readFrame deadline g
        else if deadline.isSome && isTimeout e then (.ok none, g)
        else (.error (.stream (.number e)), { g with buffered := [] }) := by
  rw [readFrame, hl]
  dsimp only
  rw [if_neg hn]
  split <;> rename_i hp <;> rw [hp]
  rfl

/-- What is read is taken from the link and from the buffer. -/
theorem readFrame_weight_le (deadline : Option Nat) (r : Reading) :
    (readFrame deadline r).2.weight ≤ r.weight := by
  have kept {total : Option Nat} {r g : Reading} {x : Except Errno Bytes}
      (h : r.pull deadline total = (x, g)) : g.buffered = r.buffered := by
    have := r.buffered_pull deadline total
    rwa [h] at this
  -- The induction follows the receives; bytes move from the link into the buffer.
  fun_induction readFrame deadline r with
  | case1 => simp [weight]
  | case2 => simp [weight]
  | case3 r total _ _ g hp =>
    have key := pull_weight_le hp
    show g.link.weight + 0 ≤ r.link.weight + r.buffered.length
    omega
  | case4 r total _ _ b bs g hp ih =>
    have key := pull_weight_le hp
    simp only [weight, List.length_append, kept hp] at ih ⊢
    omega
  | case5 r total _ _ g hp ih =>
    have key := (pull_weight_of_error hp).1
    simp only [weight, kept hp] at ih ⊢
    omega
  | case6 r total _ _ e g hp =>
    have key := (pull_weight_of_error hp).1
    simp only [weight, kept hp]
    omega
  | case7 r total _ _ e g hp =>
    have key := (pull_weight_of_error hp).1
    show g.link.weight + 0 ≤ r.link.weight + r.buffered.length
    omega

/-- A message takes at least its header. -/
theorem readFrame_weight_lt {deadline : Option Nat} {r : Reading} {m : Message}
    (h : (readFrame deadline r).1 = .ok (some m)) :
    (readFrame deadline r).2.weight < r.weight := by
  have kept {total : Option Nat} {r g : Reading} {x : Except Errno Bytes}
      (h : r.pull deadline total = (x, g)) : g.buffered = r.buffered := by
    have := r.buffered_pull deadline total
    rwa [h] at this
  -- The induction follows the receives; the buffer is emptied of a header at least in the end.
  fun_induction readFrame deadline r with
  | case1 => simp at h
  | case2 r hl =>
    -- the frame is complete
    have := Frame.headerLength_le_of_length? hl
    simp [weight, Frame.headerLength] at this ⊢
    omega
  | case3 => simp at h
  | case4 r total _ _ b bs g hp ih =>
    have key := pull_weight_le hp
    have := ih h
    simp only [weight, List.length_append, kept hp] at this ⊢
    omega
  | case5 r total _ _ g hp ih =>
    have key := (pull_weight_of_error hp).1
    have := ih h
    simp only [weight, kept hp] at this ⊢
    omega
  | case6 => simp at h
  | case7 => simp at h

end Reading

end PipelineWorker
