/-
What a reading does.

A reading sees its stream, the bytes it has kept and the bytes that its link still carries, and
`Outcome` lists all that can come of it: the first message of the stream, a refused header, the end
of the stream inside a frame, or a deadline that passes with nothing lost.

* `readFrame_outcome` — every reading ends in one of these, however the stream is cut into receives
  and whenever its parts arrive;
* `limitKnown_readFrame` — a limit on waiting is never left armed without being known.
-/
import PipelineWorker.Net.Reading
import PipelineWorker.Proofs.Framing
import PipelineWorker.Proofs.Arrivals

namespace PipelineWorker

namespace Reading

/-- The bytes that were kept, and those that are still coming. -/
def stream (r : Reading) : Bytes := r.buffered ++ r.link.coming

/-- The socket limits a receive only where that is remembered. -/
def LimitKnown (r : Reading) : Prop := r.timeoutSet = false → r.link.readTimeout = none

/-- What can come of a reading, and where it leaves the stream. -/
inductive Outcome (deadline : Option Nat) (r : Reading) :
    Except CodecError (Option Message) → Reading → Prop
  /-- The first message of the stream is taken off it. -/
  | message {m : Message} {n : Nat} {g : Reading} (frame : Frame.decode r.stream = .ok (m, n))
      (emptied : g.buffered = []) (rest : g.link.coming = r.stream.drop n)
      (ending : g.link.ending = r.link.ending) : Outcome deadline r (.ok (some m)) g
  /-- The stream goes on with a header that is not allowed. -/
  | refused {e : CodecError} {g : Reading} (header : Frame.length? r.stream = .error e)
      (emptied : g.buffered = []) (rest : g.link.coming = r.stream.drop Frame.headerLength) :
      Outcome deadline r (.error e) g
  /-- The stream ends before a frame is complete. -/
  | ended {needed : Nat} {g : Reading}
      (short : Frame.decode r.stream = .error (.truncated needed r.stream.length))
      (emptied : g.buffered = []) : Outcome deadline r (.error (.stream r.link.ending)) g
  /-- The deadline passes inside of a frame. -/
  | late {g : Reading} (limited : deadline.isSome) (begun : Frame.IsPartial g.buffered)
      (kept : r.link.IsClean → g.stream = r.stream ∧ g.link.ending = r.link.ending) :
      Outcome deadline r (.ok none) g

/-- A reading that goes on with the same stream has the same outcomes. -/
theorem Outcome.of_same_stream {deadline : Option Nat} {r r' g : Reading}
    {x : Except CodecError (Option Message)} (hs : r'.stream = r.stream)
    (he : r'.link.ending = r.link.ending) (hc : r.link.IsClean → r'.link.IsClean)
    (h : Outcome deadline r' x g) : Outcome deadline r x g := by
  cases h with
  | message frame emptied rest ending =>
    exact .message (by rw [← hs]; exact frame) emptied (by rw [← hs]; exact rest)
      (ending.trans he)
  | refused header emptied rest =>
    exact .refused (by rw [← hs]; exact header) emptied (by rw [← hs]; exact rest)
  | ended short emptied =>
    rw [he]
    exact .ended (by rw [← hs]; exact short) emptied
  | late limited begun kept =>
    refine .late limited begun fun hclean => ?_
    rw [← hs, ← he]
    exact kept (hc hclean)

/-! ### One receive -/

@[simp] theorem arrivals_arm (deadline : Option Nat) (r : Reading) :
    (r.arm deadline).link.arrivals = r.link.arrivals := by
  rw [Link.arrivals, Link.arrivals, incoming_arm]

@[simp] theorem coming_arm (deadline : Option Nat) (r : Reading) :
    (r.arm deadline).link.coming = r.link.coming := by
  rw [Link.coming, Link.coming, arrivals_arm]

@[simp] theorem ending_arm (deadline : Option Nat) (r : Reading) :
    (r.arm deadline).link.ending = r.link.ending := by
  rw [Link.ending, Link.ending, arrivals_arm]

theorem isClean_arm {deadline : Option Nat} {r : Reading} (h : r.link.IsClean) :
    (r.arm deadline).link.IsClean := by
  intro e he
  rw [arrivals_arm] at he
  exact h e he

/-- Without a deadline the socket does not limit the receive. -/
theorem readTimeout_arm_none {r : Reading} (h : r.LimitKnown) :
    (r.arm none).link.readTimeout = none := by
  cases hs : r.timeoutSet with
  | true => rw [arm, if_pos hs]
  | false =>
    rw [arm, if_neg (by rw [hs]; exact Bool.false_ne_true)]
    exact h hs

theorem limitKnown_arm {deadline : Option Nat} {r : Reading} (h : r.LimitKnown) :
    (r.arm deadline).LimitKnown := by
  cases deadline with
  | none => exact fun _ => readTimeout_arm_none h
  | some d =>
    intro hs
    cases hs

theorem limitKnown_pull {deadline total : Option Nat} {r g : Reading} {x : Except Errno Bytes}
    (hp : r.pull deadline total = (x, g)) (h : r.LimitKnown) : g.LimitKnown := by
  obtain rfl : (r.pull deadline total).2 = g := congrArg Prod.snd hp
  intro hs
  show ((r.arm deadline).link.recv _ _).link.readTimeout = none
  rw [Link.recv_link]
  exact limitKnown_arm h hs

theorem isClean_pull {deadline total : Option Nat} {r g : Reading} {x : Except Errno Bytes}
    (hp : r.pull deadline total = (x, g)) (h : r.link.IsClean) : g.link.IsClean := by
  obtain rfl : (r.pull deadline total).2 = g := congrArg Prod.snd hp
  exact Link.isClean_recv _ _ (isClean_arm h)

/-- Bytes that are pulled come off the front of the stream. -/
theorem pull_ok {deadline total : Option Nat} {r g : Reading} {bs : Bytes} (hne : bs ≠ [])
    (hp : r.pull deadline total = (.ok bs, g)) :
    bs.length ≤ missing r.buffered total ∧ g.buffered = r.buffered ∧
      r.link.coming = bs ++ g.link.coming ∧ g.link.ending = r.link.ending := by
  have hr : ((r.arm deadline).link.recv _ _).result = .ok bs := congrArg Prod.fst hp
  obtain rfl : (r.pull deadline total).2 = g := congrArg Prod.snd hp
  obtain ⟨hle, hc, he⟩ := Link.coming_recv hne hr
  rw [coming_arm] at hc
  rw [ending_arm] at he
  exact ⟨hle, buffered_pull .., hc, he⟩

/-- Where no bytes are pulled, though some are missing, the stream has ended. -/
theorem pull_ok_nil {deadline total : Option Nat} {r g : Reading}
    (hpos : 0 < missing r.buffered total) (hp : r.pull deadline total = (.ok [], g)) :
    r.link.coming = [] ∧ r.link.ending = .plain .unexpectedEof := by
  have hr : ((r.arm deadline).link.recv _ _).result = .ok [] := congrArg Prod.fst hp
  obtain ⟨hc, he⟩ := Link.coming_eq_nil_of_recv hpos hr
  rw [coming_arm] at hc
  rw [ending_arm] at he
  exact ⟨hc, he⟩

/-- An interruption takes nothing off the stream. -/
theorem pull_intr {deadline total : Option Nat} {r g : Reading}
    (hp : r.pull deadline total = (.error .intr, g)) :
    g.buffered = r.buffered ∧ g.link.coming = r.link.coming ∧
      g.link.ending = r.link.ending := by
  have hr : ((r.arm deadline).link.recv _ _).result = .error .intr := congrArg Prod.fst hp
  obtain rfl : (r.pull deadline total).2 = g := congrArg Prod.snd hp
  obtain ⟨hc, he⟩ := Link.coming_recv_intr hr
  rw [coming_arm] at hc
  rw [ending_arm] at he
  exact ⟨buffered_pull .., hc, he⟩

/-- A pull that fails otherwise ran out of time, and left the stream alone, or the stream has
ended with a failure. -/
theorem pull_failure {deadline total : Option Nat} {r g : Reading} {e : Errno} (he : e ≠ .intr)
    (hp : r.pull deadline total = (.error e, g)) :
    ((r.arm deadline).link.readTimeout.isSome ∧ e = .again ∧ g.stream = r.stream ∧
        g.link.ending = r.link.ending) ∨
      (r.link.coming = [] ∧ r.link.ending = .number e ∧ ¬ r.link.IsClean) := by
  have hr : ((r.arm deadline).link.recv _ _).result = .error e := congrArg Prod.fst hp
  obtain rfl : (r.pull deadline total).2 = g := congrArg Prod.snd hp
  rcases Link.recv_failure hr he with ⟨hlimit, hagain, hsame⟩ | ⟨hc, hend, hdirty⟩
  · have hlink : (r.pull deadline total).2.link = (r.arm deadline).link := hsame
    refine .inl ⟨hlimit, hagain, ?_, ?_⟩
    · rw [stream, stream, buffered_pull, hlink, coming_arm]
    · rw [hlink, ending_arm]
  · rw [coming_arm] at hc
    rw [ending_arm] at hend
    exact .inr ⟨hc, hend, fun hclean => hdirty (isClean_arm hclean)⟩

/-- Of a frame that is not complete something is missing. -/
theorem missing_pos {bs : Bytes} {total : Option Nat} (hf : Frame.Fits bs)
    (hl : Frame.length? bs = .ok total) (hn : total ≠ some bs.length) :
    0 < missing bs total := by
  rw [missing]
  cases total with
  | none =>
    have := Frame.length?_eq_none_iff.1 hl
    rw [Option.getD_none]
    omega
  | some n =>
    rw [Option.getD_some]
    have hne : n ≠ bs.length := fun h => hn (by rw [h])
    have h8 := Frame.headerLength_le_of_length? hl
    rcases hf with hf | ⟨k, hk, hle⟩
    · omega
    · rw [hl, Except.ok.injEq, Option.some_inj] at hk
      omega

/-- A frame that is not complete has begun. -/
theorem isPartial_of_incomplete {bs : Bytes} {total : Option Nat} (hf : Frame.Fits bs)
    (hl : Frame.length? bs = .ok total) (hn : total ≠ some bs.length) : Frame.IsPartial bs := by
  have hpos := missing_pos hf hl hn
  refine ⟨total, hl, fun n h => ?_⟩
  rw [missing, h, Option.getD_some] at hpos
  omega

/-- No more is received than is missing, so that nothing behind the frame is taken. -/
theorem fits_append {bs got : Bytes} {total : Option Nat}
    (hl : Frame.length? bs = .ok total) (hle : got.length ≤ missing bs total) (hg : got ≠ []) :
    Frame.Fits (bs ++ got) := by
  have hpos : 0 < got.length := List.length_pos_iff.2 hg
  rw [missing] at hle
  cases total with
  | none =>
    rw [Option.getD_none] at hle
    refine .inl ?_
    rw [List.length_append]
    omega
  | some n =>
    rw [Option.getD_some] at hle
    have h8 : Frame.headerLength ≤ bs.length := by
      have hne : ¬ bs.length < Frame.headerLength := fun h => by
        rw [Frame.length?_eq_none_iff.2 h] at hl
        simp at hl
      omega
    refine .inr ⟨n, by rw [Frame.length?_append h8, hl], ?_⟩
    rw [List.length_append]
    omega

/-! ### A whole reading -/

/-- A complete frame is taken out of the buffer, and the link is left alone. -/
theorem outcome_complete {deadline : Option Nat} {r : Reading}
    (hl : Frame.length? r.buffered = .ok (some r.buffered.length)) :
    Outcome deadline r ((Frame.decode r.buffered).map fun m => some m.1)
      { r with buffered := [] } := by
  have hd := Frame.decode_of_length?_some hl
  rw [if_neg (Nat.lt_irrefl _)] at hd
  obtain ⟨m, hd⟩ := hd
  rw [hd]
  refine .message (Frame.decode_append hd _) rfl ?_ rfl
  rw [stream, List.drop_left]

/-- A header that is not allowed is refused as soon as it is there. -/
theorem outcome_refused {deadline : Option Nat} {r : Reading} {e : CodecError}
    (hf : Frame.Fits r.buffered) (hl : Frame.length? r.buffered = .error e) :
    Outcome deadline r (.error e) { r with buffered := [] } := by
  have h8 : ¬ r.buffered.length < Frame.headerLength := fun h => by
    rw [Frame.length?_eq_none_iff.2 h] at hl
    simp at hl
  have hlen : r.buffered.length = Frame.headerLength := by
    rcases hf with hf | ⟨n, hn, _⟩
    · omega
    · rw [hl] at hn
      simp at hn
  refine .refused ?_ rfl ?_
  · rw [stream, Frame.length?_append (by omega), hl]
  · rw [stream, ← hlen, List.drop_left]

/-- The end of the stream inside of a frame. -/
theorem outcome_ended {deadline : Option Nat} {r g : Reading} {f : OsFailure}
    (hb : Frame.IsPartial r.buffered) (hc : r.link.coming = []) (he : r.link.ending = f)
    (hg : g.buffered = []) : Outcome deadline r (.error (.stream f)) g := by
  have hs : r.stream = r.buffered := by rw [stream, hc, List.append_nil]
  obtain ⟨needed, hd⟩ := hb.decode
  rw [← he]
  exact .ended (by rw [hs]; exact hd) hg

/-- **Every reading takes the first message off its stream, or says why there is none.** -/
theorem readFrame_outcome {deadline : Option Nat} {r : Reading} (hf : Frame.Fits r.buffered)
    (hk : r.LimitKnown) :
    Outcome deadline r (readFrame deadline r).1 (readFrame deadline r).2 := by
  -- The induction follows the receives; the buffer never holds more than one frame.
  fun_induction readFrame deadline r with
  | case1 r e hl => exact outcome_refused hf hl
  | case2 r hl => exact outcome_complete hl
  | case3 r total hl hn g hp =>
    -- the stream ends
    obtain ⟨hc, he⟩ := pull_ok_nil (missing_pos hf hl hn) hp
    exact outcome_ended (isPartial_of_incomplete hf hl hn) hc he rfl
  | case4 r total hl hn b bs g hp ih =>
    -- bytes come in; what is read and what is still to come make up the same stream
    obtain ⟨hle, hb, hc, he⟩ := pull_ok (List.cons_ne_nil b bs) hp
    have hs : ({ g with buffered := g.buffered ++ b :: bs } : Reading).stream = r.stream := by
      show g.buffered ++ b :: bs ++ g.link.coming = r.buffered ++ r.link.coming
      rw [hb, hc, List.append_assoc]
    have hfits : Frame.Fits (g.buffered ++ b :: bs) := by
      rw [hb]
      exact fits_append hl hle (List.cons_ne_nil b bs)
    have hclean := isClean_pull hp
    have hknown := limitKnown_pull hp hk
    exact Outcome.of_same_stream hs he hclean (ih hfits hknown)
  | case5 r total hl hn g hp ih =>
    -- an interruption; the same stream, and no byte of it read
    obtain ⟨hb, hc, he⟩ := pull_intr hp
    have hs : g.stream = r.stream := by rw [stream, stream, hb, hc]
    have hfits : Frame.Fits g.buffered := by
      rw [hb]
      exact hf
    exact Outcome.of_same_stream hs he (isClean_pull hp) (ih hfits (limitKnown_pull hp hk))
  | case6 r total hl hn e g hp hi ht =>
    -- the deadline passes
    have hb : g.buffered = r.buffered := by
      obtain rfl : (r.pull deadline total).2 = g := congrArg Prod.snd hp
      exact buffered_pull ..
    rw [Bool.and_eq_true] at ht
    refine .late ht.1 (by rw [hb]; exact isPartial_of_incomplete hf hl hn) fun hclean => ?_
    rcases pull_failure hi hp with ⟨_, _, hs, he⟩ | ⟨_, _, hdirty⟩
    · exact ⟨hs, he⟩
    · exact absurd hclean hdirty
  | case7 r total hl hn e g hp hi ht =>
    -- the socket fails
    rcases pull_failure hi hp with ⟨hsome, rfl, _⟩ | ⟨hc, he, _⟩
    · -- Running out of time needs a limit, and a limit needs a deadline.
      cases deadline with
      | none =>
        rw [readTimeout_arm_none hk] at hsome
        simp at hsome
      | some d => exact absurd rfl ht
    · exact outcome_ended (isPartial_of_incomplete hf hl hn) hc he rfl

/-- What every receive keeps of the link, a whole reading keeps. -/
theorem readFrame_keeps {deadline : Option Nat} {P : Link → Bool → Prop}
    (pulled : ∀ {total : Option Nat} {r g : Reading} {x : Except Errno Bytes},
      r.pull deadline total = (x, g) → P r.link r.timeoutSet → P g.link g.timeoutSet)
    {r : Reading} (h : P r.link r.timeoutSet) :
    P (readFrame deadline r).2.link (readFrame deadline r).2.timeoutSet := by
  fun_induction readFrame deadline r with
  | case1 r => exact h
  | case2 r => exact h
  | case3 r total hl hn g hp =>
    have hg := pulled hp h
    exact hg
  | case4 r total hl hn b bs g hp ih =>
    have hg := pulled hp h
    exact ih hg
  | case5 r total hl hn g hp ih => exact ih (pulled hp h)
  | case6 r total hl hn e g hp => exact pulled hp h
  | case7 r total hl hn e g hp =>
    have hg := pulled hp h
    exact hg

/-- A limit on waiting is never left armed without being known. -/
theorem limitKnown_readFrame {deadline : Option Nat} {r : Reading} (h : r.LimitKnown) :
    (readFrame deadline r).2.LimitKnown :=
  readFrame_keeps (P := fun l known => known = false → l.readTimeout = none)
    limitKnown_pull h

/-- Reading brings no new failures. -/
theorem isClean_readFrame {deadline : Option Nat} {r : Reading} (h : r.link.IsClean) :
    (readFrame deadline r).2.link.IsClean :=
  readFrame_keeps (P := fun l _ => l.IsClean) isClean_pull h

/-- A reading takes arrivals off its link; what we send there stays as it is. -/
theorem sending_readFrame (deadline : Option Nat) (r : Reading) :
    (readFrame deadline r).2.link.sink = r.link.sink ∧
      (readFrame deadline r).2.link.sent = r.link.sent := by
  refine readFrame_keeps (P := fun l _ => l.sink = r.link.sink ∧ l.sent = r.link.sent)
    (fun {total r' g x} hp h => ?_) ⟨rfl, rfl⟩
  obtain rfl : (r'.pull deadline total).2 = g := congrArg Prod.snd hp
  have harm : (r'.arm deadline).link.sink = r'.link.sink ∧
      (r'.arm deadline).link.sent = r'.link.sent := by
    unfold arm
    split
    · exact ⟨rfl, rfl⟩
    · split <;> exact ⟨rfl, rfl⟩
  show ((r'.arm deadline).link.recv _ _).link.sink = _ ∧
    ((r'.arm deadline).link.recv _ _).link.sent = _
  rw [Link.recv_link]
  exact ⟨harm.1.trans h.1, harm.2.trans h.2⟩

end Reading

end PipelineWorker
