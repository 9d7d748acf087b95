/-
What a deadline changes about a receive.

A receive with a deadline is compared with the same receive without one (`Compared`).  They come to
the same, unless the deadline passes first, or the stream reports one of the two failures, `again`
and `timedOut`, that a socket also ends a limited wait with: these are taken for the deadline.

* `Link.FailsBy`, `Connection.Reports` — a failure is met inside of a frame, and when;
* `readFrame_compared` — the comparison of two readings;
* `receiveUntil_truthful` — a receive gives up before its deadline exactly where such a failure is
  met before it; all other failures are told as they are without a deadline;
* `receiveUntil_of_arrived` — what has arrived is received whatever the deadline is.
-/
import PipelineWorker.Proofs.Available
import PipelineWorker.Proofs.Decoding

namespace PipelineWorker

namespace Link

/-- The link of a socket that does not limit a receive. -/
def unlimited (l : Link) : Link := { l with readTimeout := none }

/-- What arrives until `t` ends in the failure `e`.  Interruptions are no end. -/
def FailsBy (t : Nat) (e : Errno) (l : Link) : Prop :=
  endOf ((l.incoming.takeWhile (·.time ≤ t)).map (·.what)) = .number e

instance (t : Nat) (e : Errno) (l : Link) : Decidable (l.FailsBy t e) :=
  inferInstanceAs (Decidable (_ = _))

variable {l : Link} {i : Incoming} {rest : List Incoming} {t now n : Nat} {e : Errno}

/-! ### Failures and when they are met -/

theorem failsBy_iff (hi : l.incoming = i :: rest) :
    l.FailsBy t e ↔ i.time ≤ t ∧
      endOf (i.what :: (rest.takeWhile (·.time ≤ t)).map (·.what)) = .number e := by
  rw [FailsBy, hi]
  by_cases hle : i.time ≤ t
  · rw [List.takeWhile_cons_of_pos (by simpa using hle), List.map_cons]
    exact ⟨fun h => ⟨hle, h⟩, And.right⟩
  · rw [List.takeWhile_cons_of_neg (by simpa using hle)]
    exact ⟨(fun h => nomatch h), fun h => absurd h.1 hle⟩

theorem not_failsBy_of_nil (hi : l.incoming = []) : ¬ l.FailsBy t e := by
  rw [FailsBy, hi]
  exact fun h => nomatch h

/-- The end of the stream does not depend on what would follow it. -/
theorem append_of_endOf {as : List Arrival} (h : endOf as = .number e) (more : List Arrival) :
    bytesOf (as ++ more) = bytesOf as ∧ endOf (as ++ more) = .number e := by
  induction as with
  | nil => cases h
  | cons a as ih =>
    match a with
    | .close => cases h
    | .data [] => cases h
    | .data (b :: bs) =>
      obtain ⟨hbytes, hend⟩ := ih h
      exact ⟨congrArg (b :: bs ++ ·) hbytes, hend⟩
    | .failure f =>
      by_cases hf : f = .intr
      · subst hf
        exact ih h
      · rw [endOf_failure hf] at h
        rw [List.cons_append, bytesOf_failure hf, bytesOf_failure hf, endOf_failure hf]
        exact ⟨rfl, h⟩

/-- A stream that is known to fail carries what arrives until then, and no more. -/
theorem FailsBy.stream (h : l.FailsBy t e) :
    l.coming = l.arrived t ∧ l.ending = .number e := by
  have hsplit : l.arrivals = (l.incoming.takeWhile (·.time ≤ t)).map (·.what) ++
      (l.incoming.dropWhile (·.time ≤ t)).map (·.what) := by
    rw [arrivals, ← List.map_append, List.takeWhile_append_dropWhile]
  rw [coming, ending, hsplit]
  exact append_of_endOf h _

/-! ### A limited receive -/

/-- Bytes and interruptions lie in front of the failure. -/
theorem failsBy_takeFront (hi : l.incoming = i :: rest)
    (hr : (∃ b bs, (takeFront n l now i rest).result = .ok (b :: bs)) ∨
      (takeFront n l now i rest).result = .error .intr) :
    l.FailsBy t e ↔ i.time ≤ t ∧ (takeFront n l now i rest).link.FailsBy t e := by
  obtain ⟨time, what⟩ := i
  rw [failsBy_iff hi]
  cases what with
  | close => simp [takeFront] at hr
  | failure f =>
    obtain rfl : f = .intr := by simpa [takeFront] using hr
    exact Iff.rfl
  | data ds =>
    have hds : ds ≠ [] := by
      rintro rfl
      simp [takeFront] at hr
    rw [endOf_data hds]
    simp only [takeFront]
    split
    · exact Iff.rfl
    · rename_i hd
      have hrest : ds.drop n ≠ [] := fun hnil => hd (by rw [hnil]; rfl)
      rw [failsBy_iff (i := ⟨time, .data (ds.drop n)⟩) rfl, endOf_data hrest, and_self_left]

theorem failsBy_of_failure {f : Errno} (hi : l.incoming = i :: rest)
    (hr : (takeFront n l now i rest).result = .error f) (hf : f ≠ .intr) :
    l.FailsBy t e ↔ i.time ≤ t ∧ e = f := by
  obtain ⟨time, what⟩ := i
  rw [failsBy_iff hi]
  cases what with
  | close => cases hr
  | failure f' =>
    obtain rfl : f' = f := Except.error.inj hr
    rw [endOf_failure hf, OsFailure.number.injEq, eq_comm (a := f')]
  | data ds =>
    simp only [takeFront] at hr
    split at hr <;> cases hr

/-- What is taken off a link does not depend on its limit. -/
theorem takeFront_unlimited (n now : Nat) (l : Link) (i : Incoming) (rest : List Incoming) :
    takeFront n l.unlimited now i rest =
      ⟨(takeFront n l now i rest).result, (takeFront n l now i rest).now,
        (takeFront n l now i rest).link.unlimited⟩ := by
  simp only [takeFront]
  split
  · rfl
  · rfl
  · split <;> rfl

/-- **A limited receive runs out of time, or takes what an unlimited one takes.** -/
theorem recv_limited (n now : Nat) {limit : Nat} (ht : l.readTimeout = some limit) :
    (l.recv n now = ⟨.error .again, now + limit, l⟩ ∧
        ∀ t e, l.FailsBy t e → now + limit < t) ∨
      ∃ i rest, l.incoming = i :: rest ∧
        l.recv n now = takeFront n l (max now i.time) i rest ∧
        l.unlimited.recv n now =
          ⟨(l.recv n now).result, (l.recv n now).now, (l.recv n now).link.unlimited⟩ := by
  rw [recv, ht]
  cases hi : l.incoming with
  | nil => exact .inl ⟨rfl, fun t e h => absurd h (not_failsBy_of_nil hi)⟩
  | cons i rest =>
    dsimp only
    split
    · refine .inr ⟨i, rest, rfl, rfl, ?_⟩
      rw [← takeFront_unlimited, recv, unlimited, hi]
    · rename_i hlate
      refine .inl ⟨rfl, fun t e h => ?_⟩
      have hle := ((failsBy_iff hi).1 h).1
      omega

end Link

namespace Reading

/-- The reading on a socket that does not limit it. -/
def unlimited (r : Reading) : Reading := { r with link := r.link.unlimited, timeoutSet := false }

variable {d : Nat} {total : Option Nat} {r g : Reading} {x : Except Errno Bytes}

/-! ### One pull -/

theorem arm_none (h : r.LimitKnown) : r.arm none = r.unlimited := by
  have hlimit := readTimeout_arm_none h
  cases hs : r.timeoutSet with
  | true => rw [arm, if_pos hs, unlimited, Link.unlimited]
  | false =>
    rw [arm, if_neg (by rw [hs]; exact Bool.false_ne_true)] at hlimit ⊢
    obtain ⟨buffered, now, link, timeoutSet⟩ := r
    obtain rfl : timeoutSet = false := hs
    rw [unlimited, Link.unlimited, ← hlimit]

/-- An unlimited pull lifts the limit that a limited one has left. -/
theorem pull_none (h : r.LimitKnown) : r.pull none total = r.unlimited.pull none total := by
  have hunlimited : r.unlimited.arm none = r.unlimited := rfl
  rw [pull, pull, arm_none h, hunlimited]
  rfl

/-- How a limited pull goes on, if it does not run out of time. -/
structure Taken (total : Option Nat) (r : Reading) (x : Except Errno Bytes) (g : Reading) :
    Prop where
  /-- It takes what an unlimited pull takes. -/
  unlimited : r.unlimited.pull none total = (x, g.unlimited)
  now_le : r.now ≤ g.now
  /-- Bytes and interruptions lie in front of the failure. -/
  before : (∃ b bs, x = .ok (b :: bs)) ∨ x = .error .intr → ∀ t e, r.now ≤ t →
    (r.link.FailsBy t e ↔ g.now ≤ t ∧ g.link.FailsBy t e)
  failed : ∀ f, x = .error f → f ≠ .intr → ∀ t e, r.now ≤ t →
    (r.link.FailsBy t e ↔ g.now ≤ t ∧ e = f)

/-- How the reading without a limit goes on then. -/
theorem Taken.readFrame (h : Taken total r x g) (hl : Frame.length? r.buffered = .ok total)
    (hn : total ≠ some r.buffered.length) :
    Reading.readFrame none r.unlimited =
      match x with
      | .ok [] =>
        (.error (.stream (.plain .unexpectedEof)), { g.unlimited with buffered := [] })
      | .ok (b :: bs) =>
        Reading.readFrame none { g.unlimited with buffered := g.buffered ++ b :: bs }
      | .error e =>
        if e = .intr then Reading.readFrame none g.unlimited
        else (.error (.stream (.number e)), { g.unlimited with buffered := [] }) := by
  rw [readFrame_eq_pull none (r := r.unlimited) hl hn, h.unlimited]
  rcases x with e | ⟨_ | ⟨b, bs⟩⟩
  · rfl
  · rfl
  · rfl

/-- **A limited pull runs out of time at its deadline, or takes what an unlimited one takes.** -/
theorem pull_limited (hp : r.pull (some d) total = (x, g)) :
    (x = .error .again ∧ d ≤ g.now ∧ ∀ t e, r.link.FailsBy t e → max r.now d < t) ∨
      Taken total r x g := by
  have hshort : shortestWindow = 1000 := rfl
  let window := max (d - r.now) shortestWindow
  have hwindow : max r.now d ≤ r.now + window := by omega
  obtain rfl : (r.pull (some d) total).1 = x := congrArg Prod.fst hp
  obtain rfl : (r.pull (some d) total).2 = g := congrArg Prod.snd hp
  rcases Link.recv_limited (l := (r.arm (some d)).link) (missing r.buffered total) r.now rfl with
    ⟨hlate, hnone⟩ | ⟨i, rest, hi, htake, hfree⟩
  · have hnow : (r.pull (some d) total).2.now = r.now + window :=
      congrArg Link.Received.now hlate
    refine .inl ⟨congrArg Link.Received.result hlate, ?_, fun t e h => ?_⟩
    · exact Nat.le_trans (Nat.le_max_right ..) (Nat.le_trans hwindow (Nat.le_of_eq hnow.symm))
    · exact Nat.lt_of_le_of_lt hwindow (hnone t e h)
  · have hnow : (r.pull (some d) total).2.now = max r.now i.time :=
      (congrArg Link.Received.now htake).trans (Link.now_takeFront ..)
    have hresult : (r.pull (some d) total).1 = _ := congrArg Link.Received.result htake
    refine .inr ⟨?_, ?_, fun hx t e ht => ?_, fun f hx hf t e ht => ?_⟩
    · have hpull : r.unlimited.pull none total =
          (((r.arm (some d)).link.unlimited.recv (missing r.buffered total) r.now).result,
            { r.unlimited with
              now := ((r.arm (some d)).link.unlimited.recv (missing r.buffered total) r.now).now
              link := ((r.arm (some d)).link.unlimited.recv
                (missing r.buffered total) r.now).link }) := rfl
      rw [hpull, hfree]
      rfl
    · rw [hnow]
      exact Nat.le_max_left ..
    · rw [hresult] at hx
      have hiff := (Link.failsBy_takeFront (t := t) (e := e) hi hx).trans
        (and_congr_left' (show i.time ≤ t ↔ (r.pull (some d) total).2.now ≤ t by omega))
      rw [← htake] at hiff
      exact hiff
    · rw [hresult] at hx
      exact (Link.failsBy_of_failure hi hx hf).trans
        (and_congr_left' (show i.time ≤ t ↔ (r.pull (some d) total).2.now ≤ t by omega))

/-! ### A whole reading -/

/-- How a reading with the deadline `d` compares with the same reading without one. -/
inductive Compared (d : Nat) (r : Reading) :
    Except CodecError (Option Message) → Reading → Prop
  /-- They come to the same, and no failure is told that could be taken for the deadline. -/
  | same {x : Except CodecError (Option Message)} {g : Reading}
      (unlimited : readFrame none r.unlimited = (x, g.unlimited))
      (told : ∀ e, x = .error (.stream (.number e)) → isTimeout e = false) : Compared d r x g
  /-- The deadline passes, and until then no failure is met. -/
  | late {g : Reading} (passed : d ≤ g.now)
      (unmet : ∀ t e, r.now ≤ t → r.link.FailsBy t e → max r.now d < t) : Compared d r (.ok none) g
  /-- A failure is taken for the deadline. -/
  | mistaken {e : Errno} {g : Reading} (alike : isTimeout e = true)
      (met : ∀ t f, r.now ≤ t → (r.link.FailsBy t f ↔ g.now ≤ t ∧ f = e))
      (unlimited : readFrame none r.unlimited
        = (.error (.stream (.number e)), { g.unlimited with buffered := [] })) :
      Compared d r (.ok none) g

/-- A reading that goes on with the same stream compares in the same way. -/
theorem Compared.of_going_on {q : Reading} {x : Except CodecError (Option Message)}
    (h : Compared d q x g) (hnow : r.now ≤ q.now) (hg : q.now ≤ g.now)
    (hbefore : ∀ t e, r.now ≤ t → (r.link.FailsBy t e ↔ q.now ≤ t ∧ q.link.FailsBy t e))
    (hread : readFrame none r.unlimited = readFrame none q.unlimited) : Compared d r x g := by
  cases h with
  | same unlimited told => exact .same (hread.trans unlimited) told
  | late passed unmet =>
    refine .late passed fun t e ht hf => ?_
    obtain ⟨hq, hf⟩ := (hbefore t e ht).1 hf
    have hlt := unmet t e hq hf
    omega
  | mistaken alike met unlimited =>
    refine .mistaken alike (fun t f ht => ?_) (hread.trans unlimited)
    rw [hbefore t f ht]
    constructor
    · rintro ⟨hq, hf⟩
      exact (met t f hq).1 hf
    · rintro ⟨hle, rfl⟩
      have hq := Nat.le_trans hg hle
      exact ⟨hq, (met t f hq).2 ⟨hle, rfl⟩⟩

/-- **A reading with a deadline comes to the same as one without, unless the deadline passes, or a
failure is taken for it.** -/
theorem readFrame_compared (d : Nat) (r : Reading) :
    Compared d r (readFrame (some d) r).1 (readFrame (some d) r).2 := by
  generalize hsome : some d = deadline
  -- The induction follows the receives of the reading with the deadline.
  fun_induction readFrame deadline r with
  | case1 r e hl =>
    -- a header that is not allowed; the deadline plays no part in that
    obtain ⟨n, rfl⟩ := Frame.exists_of_length?_error hl
    have hfree : Frame.length? r.unlimited.buffered = .error _ := hl
    refine .same ?_ ?_
    · rw [readFrame, hfree]
      rfl
    · intro e he
      cases he
  | case2 r hl =>
    -- the frame is complete, and nothing is received for it any more
    have hfree : Frame.length? r.unlimited.buffered = .ok (some r.buffered.length) := hl
    have hwhole := Frame.decode_of_length?_some hl
    rw [if_neg (Nat.lt_irrefl _)] at hwhole
    obtain ⟨m, hwhole⟩ := hwhole
    refine .same ?_ ?_
    · rw [readFrame, hfree]
      exact if_pos rfl
    · intro e he
      rw [hwhole] at he
      cases he
  | case3 r total hl hn g hp =>
    -- the stream ends, for a reading without a deadline too
    subst hsome
    obtain ⟨hx, -⟩ | htaken := pull_limited hp
    · cases hx
    · refine .same (htaken.readFrame hl hn) ?_
      intro e he
      cases he
  | case4 r total hl hn b bs g hp ih =>
    -- bytes come in before the deadline, so both readings go on with them
    subst hsome
    obtain ⟨hx, -⟩ | htaken := pull_limited hp
    · cases hx
    · have hlater := now_le_readFrame (some d) { g with buffered := g.buffered ++ b :: bs }
      exact ih.of_going_on htaken.now_le hlater (htaken.before (.inl ⟨b, bs, rfl⟩))
        (htaken.readFrame hl hn)
  | case5 r total hl hn g hp ih =>
    -- an interruption, behind which both readings go on
    subst hsome
    obtain ⟨hx, -⟩ | htaken := pull_limited hp
    · cases hx
    · exact ih.of_going_on htaken.now_le (now_le_readFrame ..) (htaken.before (.inr rfl))
        (htaken.readFrame hl hn)
  | case6 r total hl hn e g hp hi ht =>
    -- the reading gives up: its deadline has passed, or the socket fails in a way that looks so
    subst hsome
    obtain ⟨-, hpassed, hunmet⟩ | htaken := pull_limited hp
    · exact .late hpassed fun t e _ => hunmet t e
    · exact .mistaken ht (htaken.failed e rfl hi) ((htaken.readFrame hl hn).trans (if_neg hi))
  | case7 r total hl hn e g hp hi ht =>
    -- a failure that is not taken for the deadline, which both readings tell
    subst hsome
    have hnot : isTimeout e = false := by
      simpa using ht
    obtain ⟨hx, -⟩ | htaken := pull_limited hp
    · cases hx
      cases hnot
    · refine .same ((htaken.readFrame hl hn).trans (if_neg hi)) ?_
      intro f hf
      cases hf
      exact hnot

/-- A reading without a deadline never runs out of time. -/
theorem readFrame_none_ne (hf : Frame.Fits r.buffered) :
    (readFrame none r.unlimited).1 ≠ .ok none := by
  intro h
  have ho : Outcome none r.unlimited _ _ := readFrame_outcome hf fun _ => rfl
  rw [h] at ho
  cases ho with
  | late limited => exact Bool.false_ne_true limited

/-- **A reading without a deadline tells a failure that is met inside of a frame, and no other.** -/
theorem readFrame_none_iff {t : Nat} {e : Errno} (hf : Frame.Fits r.buffered)
    (h : r.link.FailsBy t e) :
    (readFrame none r.unlimited).1 = .error (.stream (.number e)) ↔
      Frame.IsPartial (r.buffered ++ r.link.arrived t) := by
  obtain ⟨hcoming, hending⟩ := h.stream
  have hstream : r.unlimited.stream = r.buffered ++ r.link.arrived t := by
    rw [← hcoming]
    rfl
  have ho : Outcome none r.unlimited _ _ := readFrame_outcome hf fun _ => rfl
  generalize (readFrame none r.unlimited).1 = x at ho ⊢
  generalize (readFrame none r.unlimited).2 = g at ho
  rw [← hstream]
  cases ho with
  | message frame =>
    refine ⟨(fun hx => nomatch hx), fun hpartial => ?_⟩
    obtain ⟨needed, hshort⟩ := hpartial.decode
    rw [hshort] at frame
    cases frame
  | refused header =>
    obtain ⟨n, rfl⟩ := Frame.exists_of_length?_error header
    refine ⟨(fun hx => nomatch hx), fun ⟨total, hl, _⟩ => ?_⟩
    rw [hl] at header
    cases header
  | ended short =>
    have hx : r.unlimited.link.ending = .number e := hending
    rw [hx]
    refine ⟨fun _ => ?_, fun _ => rfl⟩
    obtain ⟨n, hn⟩ | hpartial := Frame.tooLarge_or_isPartial_of_decode_error short
    · cases hn
    · exact hpartial
  | late limited => exact absurd limited Bool.false_ne_true

/-- A reading that has something to receive lifts a limit that an earlier one has left. -/
theorem readFrame_none (hf : Frame.IsPartial r.buffered) (hk : r.LimitKnown) :
    readFrame none r = readFrame none r.unlimited := by
  obtain ⟨total, hl, hshort⟩ := hf
  have hn : total ≠ some r.buffered.length := fun h => Nat.lt_irrefl _ (hshort _ h)
  rw [readFrame_eq_pull none hl hn, readFrame_eq_pull none (r := r.unlimited) hl hn, pull_none hk]

end Reading

/-! ### Receiving with a deadline -/

namespace Connection

variable {c : Connection} {env : Environment} {d : Nat}

/-- The stream fails with `e` until `t`, inside of a frame. -/
structure Reports (e : Errno) (t : Nat) (c : Connection) (net : Network) : Prop where
  failing : (net.link c.link).FailsBy t e
  inside : Frame.IsPartial (c.buffered ++ (net.link c.link).arrived t)

/-- The same, but for the socket's limit on waiting, which is lifted. -/
def lifted (s : Connection × Environment) : Connection × Environment :=
  ({ s.1 with readTimeoutSet := false },
    { s.2 with net := s.2.net.setLink s.1.link (s.2.net.link s.1.link).unlimited })

/-- The limit on waiting does not matter to what is concluded. -/
theorem conclude_unlimited (hl : c.link < env.net.links.length)
    (x : Except CodecError (Option Message)) (g : Reading) :
    c.conclude x g.unlimited env = ((c.conclude x g env).1, lifted (c.conclude x g env).2) := by
  have hnet : c.netAfter g.unlimited env.net
      = (c.netAfter g env.net).setLink c.link ((c.netAfter g env.net).link c.link).unlimited := by
    rw [link_netAfter hl, netAfter, netAfter, Network.setLink, Network.setLink, Network.setLink,
      List.set_set]
    rfl
  cases x with
  | ok y =>
    cases y with
    | none =>
      show (_, _, { env with net := c.netAfter g.unlimited env.net }) = _
      rw [hnet]
      rfl
    | some m =>
      show (_, _, { env with net := c.netAfter g.unlimited env.net }.report _) = _
      rw [hnet]
      rfl
  | error e =>
    simp only [conclude, failed]
    split
    · show (_, _, { env with net := c.netAfter g.unlimited env.net }.reportAll _) = _
      rw [hnet]
      rfl
    · show (_, _, { env with net := c.netAfter g.unlimited env.net }.reportAll _) = _
      rw [hnet]
      rfl

/-- A receive without a deadline, as the reading without a limit has it. -/
theorem receive_eq_conclude (hs : c.InStep env.net) (ha : c.alive = true) :
    ((c.receive env).1.map some, (c.receive env).2)
      = c.conclude ((c.reading env.net).unlimited.readFrame none).1
          ((c.reading env.net).unlimited.readFrame none).2 env := by
  rw [receive_eq_receiveWith hs, receiveWith_of_alive ha,
    Reading.readFrame_none (r := c.reading env.net) hs.begun hs.limitKnown]

theorem eq_of_map_some {x y : Except NetError Message} (h : x.map some = y.map some) : x = y := by
  cases x <;> cases y <;> cases h <;> rfl

/-- Readings that come to the same make receives that do. -/
theorem receive_of_same (hs : c.InStep env.net) (ha : c.alive = true)
    (h : (c.reading env.net).unlimited.readFrame none
      = (((c.reading env.net).readFrame (some d)).1,
        ((c.reading env.net).readFrame (some d)).2.unlimited)) :
    ((c.receive env).1.map some, (c.receive env).2)
      = ((c.receiveUntil d env).1, lifted (c.receiveUntil d env).2) := by
  rw [receive_eq_conclude hs ha, h, conclude_unlimited hs.linked, receiveUntil,
    receiveWith_of_alive ha]

/-- A failure that is met inside of a frame is what a receive without a deadline fails with. -/
theorem receive_of_reports {e : Errno} {t : Nat} (hs : c.InStep env.net) (ha : c.alive = true)
    (h : c.Reports e t env.net) :
    (c.receive env).1 = .error (c.lossOf (.number e)) ∧ (c.receive env).2.1.alive = false := by
  have hread : ((c.reading env.net).unlimited.readFrame none).1 = .error (.stream (.number e)) :=
    (Reading.readFrame_none_iff hs.begun.fits h.failing).2 h.inside
  have hreceive := receive_eq_conclude hs ha
  rw [hread] at hreceive
  obtain ⟨hfailed, hdead, -⟩ := conclude_error (.stream (.number e))
    ((c.reading env.net).unlimited.readFrame none).2 c env
  refine ⟨?_, ?_⟩
  · exact eq_of_map_some (y := .error _) ((congrArg Prod.fst hreceive).trans hfailed)
  · exact (congrArg (·.2.1.alive) hreceive).trans hdead

theorem conclude_eq_none_iff {x : Except CodecError (Option Message)} {g : Reading} :
    (c.conclude x g env).1 = .ok none ↔ x = .ok none := by
  match x with
  | .ok none => exact ⟨fun _ => rfl, fun _ => rfl⟩
  | .ok (some m) => exact ⟨(fun h => nomatch h), (fun h => nomatch h)⟩
  | .error e =>
    rw [(conclude_error e g c env).1]
    exact ⟨(fun h => nomatch h), (fun h => nomatch h)⟩

/-- **A receive gives up before its deadline exactly where a failure that could be the deadline is
met before it, inside of a frame.** -/
theorem receiveUntil_early_iff (hs : c.InStep env.net) (ha : c.alive = true) :
    (c.receiveUntil d env).1 = .ok none ∧ (c.receiveUntil d env).2.2.net.now < d ↔
      env.net.now < d ∧ ∃ e, Reading.isTimeout e = true ∧ c.Reports e (d - 1) env.net := by
  have hfits : Frame.Fits (c.reading env.net).buffered := hs.begun.fits
  have hc := Reading.readFrame_compared d (c.reading env.net)
  have hnow : env.net.now ≤ _ := Reading.now_le_readFrame (some d) (c.reading env.net)
  rw [receiveUntil, receiveWith_of_alive ha, net_conclude, conclude_eq_none_iff]
  generalize ((c.reading env.net).readFrame (some d)).1 = x at hc ⊢
  generalize ((c.reading env.net).readFrame (some d)).2 = g at hc hnow ⊢
  show _ ∧ g.now < d ↔ _
  cases hc with
  | same unlimited told =>
    constructor
    · rintro ⟨rfl, -⟩
      exact absurd (congrArg Prod.fst unlimited) (Reading.readFrame_none_ne hfits)
    · rintro ⟨-, e, halike, hr⟩
      have hread := (Reading.readFrame_none_iff hfits hr.failing).2 hr.inside
      have htold := told e ((congrArg Prod.fst unlimited).symm.trans hread)
      exact absurd (htold.symm.trans halike) Bool.false_ne_true
  | late passed unmet =>
    refine ⟨fun ⟨_, hlt⟩ => by omega, fun ⟨hlt, e, _, hr⟩ => ?_⟩
    have hlate := unmet (d - 1) e (Nat.le_sub_one_of_lt hlt) hr.failing
    omega
  | @mistaken e _ alike met unlimited =>
    constructor
    · rintro ⟨-, hlt⟩
      have hstart : env.net.now ≤ d - 1 := by omega
      have hfails := (met (d - 1) e hstart).2 ⟨by omega, rfl⟩
      have hpartial := (Reading.readFrame_none_iff hfits hfails).1 (congrArg Prod.fst unlimited)
      exact ⟨by omega, e, alike, hfails, hpartial⟩
    · rintro ⟨hlt, f, -, hr⟩
      obtain ⟨hle, -⟩ := (met (d - 1) f (Nat.le_sub_one_of_lt hlt)).1 hr.failing
      exact ⟨rfl, by omega⟩

/-- **A failure that could not be the deadline is told in the same way with and without one.** -/
theorem receiveUntil_of_reports {e : Errno} (hs : c.InStep env.net) (ha : c.alive = true)
    (he : Reading.isTimeout e = false) (h : c.Reports e (max env.net.now d) env.net) :
    ((c.receive env).1.map some, (c.receive env).2)
      = ((c.receiveUntil d env).1, lifted (c.receiveUntil d env).2) := by
  have hc := Reading.readFrame_compared d (c.reading env.net)
  cases hread : (c.reading env.net).readFrame (some d) with
  | mk x g =>
    rw [hread] at hc
    cases hc with
    | same unlimited told => exact receive_of_same hs ha (by rw [hread, unlimited])
    | late passed unmet =>
      exact absurd (unmet _ e (Nat.le_max_left ..) h.failing) (Nat.lt_irrefl _)
    | mistaken alike met unlimited =>
      obtain ⟨-, rfl⟩ := (met _ e (Nat.le_max_left ..)).1 h.failing
      exact absurd (he.symm.trans alike) Bool.false_ne_true

/-- **Before its deadline a receive gives up exactly where the stream fails as a socket does whose
limit on waiting has run out; all other failures are told as they are without a deadline.** -/
theorem receiveUntil_truthful (hs : c.InStep env.net) (ha : c.alive = true) (d : Nat) :
    ((c.receiveUntil d env).1 = .ok none ∧ (c.receiveUntil d env).2.2.net.now < d ↔
        env.net.now < d ∧ ∃ e, (e = .again ∨ e = .timedOut) ∧ c.Reports e (d - 1) env.net) ∧
      ∀ e, c.Reports e (max env.net.now d) env.net →
        (c.receive env).1 = .error (c.lossOf (.number e)) ∧
          (c.receive env).2.1.alive = false ∧
          (e ≠ .again → e ≠ .timedOut →
            (c.receiveUntil d env).1 = .error (c.lossOf (.number e)) ∧
              (c.receiveUntil d env).2.1.alive = false ∧
              (c.receive env).2 = lifted (c.receiveUntil d env).2) := by
  have halike (e : Errno) : Reading.isTimeout e = true ↔ e = .again ∨ e = .timedOut := by
    cases e <;> decide
  refine ⟨?_, fun e hr => ?_⟩
  · rw [receiveUntil_early_iff hs ha]
    simp only [halike]
  · obtain ⟨hfailed, hdead⟩ := receive_of_reports hs ha hr
    refine ⟨hfailed, hdead, fun hagain htime => ?_⟩
    have hnot : Reading.isTimeout e = false := by
      rw [← Bool.not_eq_true, halike, not_or]
      exact ⟨hagain, htime⟩
    obtain ⟨hresult, hstate⟩ := Prod.mk.inj (receiveUntil_of_reports hs ha hnot hr)
    rw [hfailed] at hresult
    exact ⟨hresult.symm, (congrArg (·.1.alive) hstate).symm.trans hdead, hstate⟩

/-- A reset in the middle of a header is told in the same way with and without a deadline. -/
theorem receiveUntil_truthful_reset :
    let net : Network :=
      { listeners := [
          { addr := .unspecified, port := 4000,
            script := [(0, .data [0, 0, 0]), (1000, .failure .connReset)] }] }
    ∃ c env, dial ⟨0⟩ .peer ⟨.unspecified, "here"⟩ 4000 none { net } = (.ok c, env) ∧
      (c.receiveUntil 5000 env).1 = .error (.connectionClosed ⟨0⟩) ∧
      (c.receiveUntil 5000 env).2.1.alive = false ∧
      (c.receive env).1 = .error (.connectionClosed ⟨0⟩) := by
  intro net
  have hd : dial ⟨0⟩ .peer ⟨.unspecified, "here"⟩ 4000 none { net } = (.ok _, _) := rfl
  obtain ⟨-, htold⟩ := receiveUntil_truthful (inStep_dial hd) rfl 5000
  obtain ⟨hreceive, -, hother⟩ := htold .connReset
    ⟨by decide +kernel, none, by decide +kernel, (fun n h => nomatch h)⟩
  obtain ⟨huntil, hdead, -⟩ := hother (by decide) (by decide)
  exact ⟨_, _, hd, huntil, hdead, hreceive⟩

/-- A link that is found dead is taken for a deadline that is far away. -/
theorem receiveUntil_mistaken :
    let net : Network :=
      { listeners := [
          { addr := .unspecified, port := 4000, script := [(0, .failure .timedOut)] }] }
    ∃ c env, dial ⟨0⟩ .peer ⟨.unspecified, "here"⟩ 4000 none { net } = (.ok c, env) ∧
      (c.receiveUntil 5000 env).1 = .ok none ∧ (c.receiveUntil 5000 env).2.2.net.now = 0 ∧
      (c.receiveUntil 5000 env).2.1.alive = true ∧
      (c.receive env).1 = .error (.codec (.stream (.number .timedOut))) ∧
      (c.receive env).2.1.alive = false :=
  ⟨_, _, rfl, by decide +kernel, by decide +kernel, by decide +kernel, by decide +kernel,
    by decide +kernel⟩

/-! ### Past the deadline -/

/-- **What has arrived is received whatever the deadline is, in no time, and as it is without
one.** -/
theorem receiveUntil_of_arrived (hs : c.InStep env.net) (ha : c.alive = true) {m : Message}
    {n : Nat} (hd : Frame.decode (c.arrived env.net) = .ok (m, n)) (d : Nat) :
    (c.receiveUntil d env).1 = .ok (some (m.withOrigin c.id)) ∧
      (c.receiveUntil d env).2.2.net.now = env.net.now ∧
      (c.receiveUntil d env).2.1.arrived (c.receiveUntil d env).2.2.net
        = (c.arrived env.net).drop n ∧
      (c.receive env).1 = .ok (m.withOrigin c.id) ∧
      (c.receive env).2 = lifted (c.receiveUntil d env).2 := by
  obtain ⟨hresult, hnow, hrest⟩ := receiveWith_of_arrived (some d) hs ha hd
  obtain ⟨g, hread, -⟩ :=
    Reading.readFrame_of_arrived (r := c.reading env.net) (some d) hs.begun.fits hd
  have hc := Reading.readFrame_compared d (c.reading env.net)
  rw [hread] at hc
  cases hc with
  | same unlimited told =>
    have hsame := receive_of_same hs ha (by rw [hread, unlimited])
    obtain ⟨hreceive, hstate⟩ := Prod.mk.inj hsame
    exact ⟨hresult, hnow, hrest, eq_of_map_some (y := .ok _) (hreceive.trans hresult), hstate⟩

/-- Three bytes of a frame are kept from a receive before; the others have come in pieces, and the
deadline has passed long ago. -/
theorem receiveUntil_of_arrived_in_pieces :
    let c : Connection :=
      { id := ⟨0⟩, role := .peer, endpoint := ⟨.unspecified, "here"⟩, port := 4000, link := 0,
        buffered := [0, 0, 0], readTimeoutSet := true }
    let net : Network :=
      { now := 11000,
        links := [
          { incoming := [⟨5000, .data [6]⟩, ⟨5100, .data [0, 0, 0, 1]⟩, ⟨5100, .data [7]⟩],
            readTimeout := some 1000 }] }
    (c.receiveUntil 2000 { net }).1 = .ok (some ((Message.ofBytes .info [7]).withOrigin ⟨0⟩)) ∧
      (c.receiveUntil 2000 { net }).2.2.net.now = 11000 ∧
      (c.receive { net }).1 = .ok ((Message.ofBytes .info [7]).withOrigin ⟨0⟩) := by
  intro c net
  have hs : c.InStep ({ net } : Environment).net :=
    ⟨by decide, ⟨none, rfl, fun _ h => nomatch h⟩, fun h => nomatch h⟩
  have hd : Frame.decode (c.arrived net) = .ok (.ofBytes .info [7], 9) := by decide +kernel
  obtain ⟨huntil, hnow, -, hreceive, -⟩ := receiveUntil_of_arrived hs rfl hd 2000
  exact ⟨huntil, hnow, hreceive⟩

end Connection

end PipelineWorker
