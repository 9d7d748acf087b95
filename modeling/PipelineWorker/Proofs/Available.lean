/-
What can be had without any waiting.

`Link.arrived` is the bytes that a link has ready at a time, `Connection.arrived` adds those that the
connection keeps.

* `readFrame_of_arrived`, `receiveWith_of_arrived` — a frame that has arrived is read without any
  waiting;
* `receiveWith_late` — a receive on a connection on which something is ready gives up inside of a
  frame only;
* `Registry.pollReadable_of_ready` — a poll that finds something ready ends at once.
-/
import PipelineWorker.Proofs.Polling

namespace PipelineWorker

namespace Link

/-! ### What has arrived -/

/-- The bytes that can be received without any waiting. -/
def arrived (now : Nat) (l : Link) : Bytes :=
  bytesOf ((l.incoming.takeWhile (·.time ≤ now)).map (·.what))

/-- No receive is interrupted, or told that its time is up, by what arrives. -/
def Steady (l : Link) : Prop :=
  ∀ e, .failure e ∈ l.arrivals → e ≠ .intr ∧ Reading.isTimeout e = false

theorem isReady_iff {now : Nat} {l : Link} :
    l.isReady now = true ↔ ∃ i rest, l.incoming = i :: rest ∧ i.time ≤ now := by
  rw [isReady, nextTime?]
  cases l.incoming with
  | nil =>
    constructor
    · intro h
      exact absurd h Bool.false_ne_true
    · rintro ⟨i, rest, h, -⟩
      cases h
  | cons i rest =>
    rw [List.head?_cons, Option.map_some, Option.any_some, decide_eq_true_eq]
    constructor
    · intro h
      exact ⟨i, rest, rfl, h⟩
    · rintro ⟨j, tail, h, hle⟩
      cases h
      exact hle

theorem arrived_cons {now : Nat} {l : Link} {i : Incoming} {rest : List Incoming}
    (h : l.incoming = i :: rest) (hle : i.time ≤ now) :
    l.arrived now = bytesOf (i.what :: (rest.takeWhile (·.time ≤ now)).map (·.what)) := by
  rw [arrived, h, List.takeWhile_cons_of_pos (by simpa using hle), List.map_cons]

/-- Where something has arrived, something is ready. -/
theorem isReady_of_arrived {now : Nat} {l : Link} (h : l.arrived now ≠ []) :
    l.isReady now = true := by
  cases hi : l.incoming with
  | nil =>
    rw [arrived, hi] at h
    exact absurd rfl h
  | cons i rest =>
    refine isReady_iff.2 ⟨i, rest, hi, ?_⟩
    by_contra hlate
    rw [arrived, hi, List.takeWhile_cons_of_neg (by simpa using hlate)] at h
    exact h rfl

theorem bytesOf_prefix {as bs : List Arrival} (h : as <+: bs) : bytesOf as <+: bytesOf bs := by
  obtain ⟨more, rfl⟩ := h
  induction as with
  | nil => exact List.nil_prefix
  | cons a as ih =>
    match a with
    | .close => exact List.nil_prefix
    | .data [] => exact List.nil_prefix
    | .data (b :: bs) => exact (List.prefix_append_right_inj (b :: bs)).2 ih
    | .failure e =>
      by_cases he : e = .intr
      · subst he
        exact ih
      · rw [bytesOf_failure he]
        exact List.nil_prefix

/-- What has arrived once has arrived for good. -/
theorem arrived_mono {now later : Nat} (h : now ≤ later) (l : Link) :
    l.arrived now <+: l.arrived later := by
  refine bytesOf_prefix (List.IsPrefix.map _ ?_)
  induction l.incoming with
  | nil => exact List.nil_prefix
  | cons i rest ih =>
    by_cases hi : i.time ≤ now
    · have hlater : i.time ≤ later := Nat.le_trans hi h
      rw [List.takeWhile_cons_of_pos (by simpa using hi),
        List.takeWhile_cons_of_pos (by simpa using hlater)]
      exact (List.prefix_cons_inj i).2 ih
    · rw [List.takeWhile_cons_of_neg (by simpa using hi)]
      exact List.nil_prefix

theorem recv_of_ready (n : Nat) {now : Nat} {l : Link} {i : Incoming} {rest : List Incoming}
    (hi : l.incoming = i :: rest) (hle : i.time ≤ now) :
    l.recv n now = takeFront n l now i rest := by
  rw [recv, hi]
  cases l.readTimeout with
  | none =>
    dsimp only
    rw [Nat.max_eq_left hle]
  | some t =>
    dsimp only
    rw [if_pos (Nat.le_trans hle (Nat.le_add_right now t)), Nat.max_eq_left hle]

/-- **What has arrived is received without any waiting.** -/
theorem recv_of_arrived {n now : Nat} {l : Link} (hn : 0 < n) (h : l.arrived now ≠ []) :
    (l.recv n now).now = now ∧
      ((∃ b bs, (l.recv n now).result = .ok (b :: bs) ∧
          l.arrived now = b :: bs ++ (l.recv n now).link.arrived now) ∨
        ((l.recv n now).result = .error .intr ∧
          (l.recv n now).link.arrived now = l.arrived now)) := by
  obtain ⟨⟨time, what⟩, rest, hi, hle⟩ := isReady_iff.1 (isReady_of_arrived h)
  have harrived := arrived_cons hi hle
  rw [recv_of_ready n hi hle]
  rw [harrived] at h ⊢
  cases what with
  | close => exact absurd rfl h
  | failure e =>
    by_cases he : e = .intr
    · subst he
      exact ⟨rfl, .inr ⟨rfl, rfl⟩⟩
    · exact absurd (bytesOf_failure he _) h
  | data ds =>
    cases ds with
    | nil => exact absurd rfl h
    | cons d ds =>
      obtain ⟨k, rfl⟩ : ∃ k, n = k + 1 := ⟨n - 1, by omega⟩
      simp only [takeFront]
      -- Either the item is used up, or what is left of it stays in front.
      split
      · exact ⟨rfl, .inl ⟨d, ds, rfl, rfl⟩⟩
      · rename_i hd
        have hrest : (d :: ds).drop (k + 1) ≠ [] := fun hnil => hd (by rw [hnil]; rfl)
        refine ⟨rfl, .inl ⟨d, ds.take k, rfl, ?_⟩⟩
        rw [arrived_cons (i := ⟨time, .data ((d :: ds).drop (k + 1))⟩) rfl hle,
          bytesOf_data hrest, bytesOf_data (List.cons_ne_nil d ds), ← List.append_assoc,
          ← List.take_succ_cons, List.take_append_drop]

theorem now_takeFront (n now : Nat) (l : Link) (i : Incoming) (rest : List Incoming) :
    (takeFront n l now i rest).now = now := by
  rw [takeFront]
  split
  · rfl
  · rfl
  · split <;> rfl

/-- Receiving never turns the clock back. -/
theorem now_le_recv (n now : Nat) (l : Link) : now ≤ (l.recv n now).now := by
  rcases recv_cases n now l with ⟨-, hr⟩ | ⟨t, -, hr⟩ | ⟨i, rest, -, hr⟩
  · exact Nat.le_of_eq (by rw [hr])
  · rw [hr]
    exact Nat.le_add_right now t
  · rw [hr, now_takeFront]
    exact Nat.le_max_left ..

/-- A receive that finds something ready, but no bytes, finds the end or a failure. -/
theorem recv_of_ready_nil (n : Nat) {now : Nat} {l : Link} (hr : l.isReady now = true)
    (h : l.arrived now = []) :
    (l.recv n now).result = .ok [] ∨
      ∃ e, (l.recv n now).result = .error e ∧ .failure e ∈ l.arrivals := by
  obtain ⟨⟨time, what⟩, rest, hi, hle⟩ := isReady_iff.1 hr
  rw [arrived_cons hi hle] at h
  rw [recv_of_ready n hi hle, arrivals_eq_cons hi]
  match what with
  | .close => exact .inl rfl
  | .failure e => exact .inr ⟨e, rfl, List.mem_cons_self⟩
  | .data [] => exact .inl (by simp [takeFront])
  | .data (b :: bs) => cases h

theorem failure_mem_of_takeFront {n now : Nat} {l : Link} {i : Incoming} {rest : List Incoming}
    {e : Errno} (hi : l.incoming = i :: rest) (h : (takeFront n l now i rest).result = .error e) :
    .failure e ∈ l.arrivals := by
  obtain ⟨time, what⟩ := i
  rw [arrivals_eq_cons hi]
  cases what with
  | close => cases h
  | failure e' =>
    cases h
    exact List.mem_cons_self
  | data bs =>
    simp only [takeFront] at h
    split at h <;> cases h

/-- A receive that fails ran out of time, which takes as long as it is allowed to, or met a failure
that has arrived. -/
theorem recv_error {n now : Nat} {l : Link} {e : Errno} (h : (l.recv n now).result = .error e) :
    (e = .again ∧ l.isReady now = false ∧
        ∃ t, l.readTimeout = some t ∧ (l.recv n now).now = now + t) ∨
      .failure e ∈ l.arrivals := by
  cases hready : l.isReady now with
  | true =>
    obtain ⟨i, rest, hi, hle⟩ := isReady_iff.1 hready
    rw [recv_of_ready n hi hle] at h
    exact .inr (failure_mem_of_takeFront hi h)
  | false =>
    rcases recv_cases n now l with ⟨-, hr⟩ | ⟨t, ht, hr⟩ | ⟨i, rest, hi, hr⟩
    · rw [hr] at h
      cases h
    · rw [hr] at h ⊢
      cases h
      exact .inl ⟨rfl, rfl, t, ht, rfl⟩
    · rw [hr] at h
      exact .inr (failure_mem_of_takeFront hi h)

end Link

/-! ### Reading what has arrived -/

namespace Reading

@[simp] theorem arrived_arm (deadline : Option Nat) (now : Nat) (r : Reading) :
    (r.arm deadline).link.arrived now = r.link.arrived now := by
  rw [Link.arrived, Link.arrived, incoming_arm]

variable {deadline total : Option Nat} {d : Nat} {r g : Reading} {x : Except Errno Bytes}

/-- A pull takes what has arrived, and no time. -/
theorem pull_of_arrived (hpos : 0 < missing r.buffered total) (h : r.link.arrived r.now ≠ [])
    (hp : r.pull deadline total = (x, g)) :
    g.now = r.now ∧ g.buffered = r.buffered ∧
      ((∃ b bs, x = .ok (b :: bs) ∧ r.link.arrived r.now = b :: bs ++ g.link.arrived r.now) ∨
        (x = .error .intr ∧ g.link.arrived r.now = r.link.arrived r.now)) := by
  have harmed : (r.arm deadline).link.arrived r.now ≠ [] := by
    rw [arrived_arm]
    exact h
  have hrecv := Link.recv_of_arrived hpos harmed
  rw [arrived_arm] at hrecv
  obtain rfl : (r.pull deadline total).1 = x := congrArg Prod.fst hp
  obtain rfl : (r.pull deadline total).2 = g := congrArg Prod.snd hp
  rw [pull, now_arm]
  exact ⟨hrecv.1, buffered_arm deadline r, hrecv.2⟩

/-- As long as a frame that has arrived is not complete in the buffer, a pull takes more of it. -/
theorem pull_of_decode {m : Message} {n : Nat} (hf : Frame.Fits r.buffered)
    (hl : Frame.length? r.buffered = .ok total) (hn : total ≠ some r.buffered.length)
    (hd : Frame.decode (r.buffered ++ r.link.arrived r.now) = .ok (m, n))
    (hp : r.pull deadline total = (x, g)) :
    g.now = r.now ∧ g.buffered = r.buffered ∧
      ((∃ b bs, x = .ok (b :: bs) ∧ r.link.arrived r.now = b :: bs ++ g.link.arrived r.now) ∨
        (x = .error .intr ∧ g.link.arrived r.now = r.link.arrived r.now)) := by
  refine pull_of_arrived (missing_pos hf hl hn) (fun hnil => ?_) hp
  obtain ⟨needed, hshort⟩ := (isPartial_of_incomplete hf hl hn).decode
  rw [hnil, List.append_nil, hshort] at hd
  cases hd

/-- **A frame that has arrived is read without any waiting.** -/
theorem readFrame_of_arrived (deadline : Option Nat) (hf : Frame.Fits r.buffered) {m : Message}
    {n : Nat} (hd : Frame.decode (r.buffered ++ r.link.arrived r.now) = .ok (m, n)) :
    ∃ g, readFrame deadline r = (.ok (some m), g) ∧ g.now = r.now ∧ g.buffered = [] ∧
      g.link.arrived r.now = (r.buffered ++ r.link.arrived r.now).drop n := by
  -- The induction follows the receives; as long as the frame is not complete there is more of it.
  fun_induction readFrame deadline r with
  | case1 r e hl =>
    -- the header comes from the frame that has arrived, and that is a good one
    have h8 : Frame.headerLength ≤ r.buffered.length := by
      by_contra hshort
      rw [Frame.length?_eq_none_iff.2 (Nat.lt_of_not_le hshort)] at hl
      cases hl
    rw [Frame.decode_of_length?_error ((Frame.length?_append h8 _).trans hl)] at hd
    cases hd
  | case2 r hl =>
    -- the frame is complete, and nothing but its bytes is taken
    have hwhole := Frame.decode_of_length?_some hl
    rw [if_neg (Nat.lt_irrefl _)] at hwhole
    obtain ⟨m', hwhole⟩ := hwhole
    obtain ⟨rfl, rfl⟩ := Frame.decode_unique hd (Frame.decode_append hwhole _)
    refine ⟨{ r with buffered := [] }, ?_, rfl, rfl, List.drop_left.symm⟩
    rw [hwhole]
    rfl
  | case3 r total hl hn g hp =>
    -- the stream cannot end before the frame does
    obtain ⟨-, -, ⟨b, bs, hx, -⟩ | ⟨hx, -⟩⟩ := pull_of_decode hf hl hn hd hp
    · cases hx
    · cases hx
  | case4 r total hl hn b bs g hp ih =>
    -- some more of what has arrived; the frame that is there is still the same
    obtain ⟨hle, -, -, -⟩ := pull_ok (List.cons_ne_nil b bs) hp
    obtain ⟨hnow, hb, ⟨b', bs', hx, htaken⟩ | ⟨hx, -⟩⟩ := pull_of_decode hf hl hn hd hp
    · cases hx
      have hsame : g.buffered ++ b :: bs ++ g.link.arrived g.now
          = r.buffered ++ r.link.arrived r.now := by
        rw [hb, hnow, htaken, List.append_assoc]
      have hfits : Frame.Fits (g.buffered ++ b :: bs) := by
        rw [hb]
        exact fits_append hl hle (List.cons_ne_nil b bs)
      obtain ⟨g', hread, hnow', hempty, hrest⟩ := ih hfits (by rw [hsame]; exact hd)
      rw [hsame] at hrest
      rw [hnow] at hnow' hrest
      exact ⟨g', hread, hnow', hempty, hrest⟩
    · cases hx
  | case5 r total hl hn g hp ih =>
    -- an interruption takes nothing and no time
    obtain ⟨hnow, hb, ⟨b', bs', hx, -⟩ | ⟨-, hsame⟩⟩ := pull_of_decode hf hl hn hd hp
    · cases hx
    · rw [← hb, ← hsame, ← hnow] at hd
      obtain ⟨g', hread, hnow', hempty, hrest⟩ := ih (by rw [hb]; exact hf) hd
      rw [hnow, hb, hsame] at hrest
      rw [hnow] at hnow'
      exact ⟨g', hread, hnow', hempty, hrest⟩
  | case6 r total hl hn e g hp hi ht =>
    -- a receive with bytes to take neither fails nor runs out of time
    obtain ⟨-, -, ⟨b, bs, hx, -⟩ | ⟨hx, -⟩⟩ := pull_of_decode hf hl hn hd hp
    · cases hx
    · exact absurd (Except.error.inj hx) hi
  | case7 r total hl hn e g hp hi ht =>
    obtain ⟨-, -, ⟨b, bs, hx, -⟩ | ⟨hx, -⟩⟩ := pull_of_decode hf hl hn hd hp
    · cases hx
    · exact absurd (Except.error.inj hx) hi

/-! ### Reading past the deadline -/

theorem now_le_readFrame (deadline : Option Nat) (r : Reading) :
    r.now ≤ (readFrame deadline r).2.now := by
  have pulled {r g : Reading} {total : Option Nat} {x : Except Errno Bytes}
      (hp : r.pull deadline total = (x, g)) : r.now ≤ g.now := by
    obtain rfl : (r.pull deadline total).2 = g := congrArg Prod.snd hp
    rw [← now_arm deadline r]
    exact Link.now_le_recv ..
  fun_induction readFrame deadline r with
  | case1 r => exact Nat.le_refl _
  | case2 r => exact Nat.le_refl _
  | case3 r total hl hn g hp =>
    have hnow := pulled hp
    exact hnow
  | case4 r total hl hn b bs g hp ih => exact Nat.le_trans (pulled hp) ih
  | case5 r total hl hn g hp ih => exact Nat.le_trans (pulled hp) ih
  | case6 r total hl hn e g hp => exact pulled hp
  | case7 r total hl hn e g hp =>
    have hnow := pulled hp
    exact hnow

theorem arrivals_of_pull {e : Errno} (hp : r.pull deadline total = (x, g))
    (h : .failure e ∈ g.link.arrivals) : .failure e ∈ r.link.arrivals := by
  obtain rfl : (r.pull deadline total).2 = g := congrArg Prod.snd hp
  rw [← arrivals_arm deadline r]
  exact Link.failure_mem_of_recv h

theorem steady_pull (hp : r.pull deadline total = (x, g)) (h : r.link.Steady) : g.link.Steady :=
  fun e he => h e (arrivals_of_pull hp he)

/-- On a steady link a pull that fails has met a failure for good, or has waited for its deadline
without anything to receive. -/
theorem pull_error (hs : r.link.Steady) {e : Errno}
    (hp : r.pull (some d) total = (.error e, g)) :
    e ≠ .intr ∧ (isTimeout e = true → d ≤ g.now ∧ r.link.isReady r.now = false) := by
  obtain hx : ((r.arm (some d)).link.recv _ (r.arm (some d)).now).result = .error e :=
    congrArg Prod.fst hp
  obtain rfl : (r.pull (some d) total).2 = g := congrArg Prod.snd hp
  rcases Link.recv_error hx with ⟨rfl, hready, t, ht, hnow⟩ | hmem
  · refine ⟨by decide, fun _ => ⟨?_, hready⟩⟩
    obtain rfl : max (d - r.now) shortestWindow = t := Option.some.inj ht
    have hend : (r.pull (some d) total).2.now = r.now + max (d - r.now) shortestWindow := hnow
    omega
  · rw [arrivals_arm] at hmem
    obtain ⟨hintr, htime⟩ := hs e hmem
    exact ⟨hintr, fun h => absurd (htime.symm.trans h) Bool.false_ne_true⟩

/-- **A reading of a link on which something is ready runs out of time inside of a frame only, and
not before its deadline.** -/
theorem readFrame_late (hs : r.link.Steady)
    (hr : r.buffered = [] → r.link.isReady r.now = true)
    (h : readFrame (some d) r = (.ok none, g)) : g.buffered ≠ [] ∧ d ≤ g.now := by
  generalize hsome : some d = limit at h
  -- The induction follows the receives; only the last one can run out of time.
  fun_induction readFrame limit r with
  | case1 r e hl => cases h
  | case2 r hl =>
    generalize Frame.decode r.buffered = y at h
    cases y <;> cases h
  | case3 r total hl hn g' hp => cases h
  | case4 r total hl hn b bs g' hp ih =>
    -- from here on the buffer is not empty
    have hbuffered : g'.buffered ++ b :: bs ≠ [] := by simp
    have hsteady : g'.link.Steady := steady_pull hp hs
    exact ih hsteady (fun hnil => absurd hnil hbuffered) h
  | case5 r total hl hn g' hp ih =>
    -- a steady link does not interrupt
    subst hsome
    exact absurd rfl (pull_error hs hp).1
  | case6 r total hl hn e g' hp hi ht =>
    -- nothing was ready any more, so this was not the first receive
    subst hsome
    obtain rfl : g' = g := congrArg Prod.snd h
    have hb : g'.buffered = r.buffered := by
      obtain rfl : (r.pull (some d) total).2 = g' := congrArg Prod.snd hp
      exact buffered_pull ..
    rw [Bool.and_eq_true] at ht
    obtain ⟨hlate, hnotReady⟩ := (pull_error hs hp).2 ht.2
    refine ⟨fun hnil => ?_, hlate⟩
    rw [hb] at hnil
    exact Bool.false_ne_true (hnotReady.symm.trans (hr hnil))
  | case7 r total hl hn e g' hp hi ht => cases h

/-- A reading that does not fail, of a link on which something is ready, has bytes to begin with. -/
theorem arrived_of_readFrame (hs : r.link.Steady) (hr : r.link.isReady r.now = true)
    {y : Option Message} (h : readFrame (some d) r = (.ok y, g)) :
    r.buffered ++ r.link.arrived r.now ≠ [] := by
  intro hnil
  obtain ⟨hb, ha⟩ := List.append_eq_nil_iff.1 hnil
  have hready : (r.arm (some d)).link.isReady (r.arm (some d)).now = true := by
    rw [now_arm, Link.isReady, Link.nextTime?, incoming_arm]
    exact hr
  have hl : Frame.length? r.buffered = .ok none := by rw [hb]; rfl
  have hpull := Link.recv_of_ready_nil (missing r.buffered none) hready
    (by rw [now_arm, arrived_arm]; exact ha)
  rw [arrivals_arm] at hpull
  rw [readFrame, hl] at h
  dsimp only at h
  rw [if_neg (by simp)] at h
  -- the first pull finds the end of the stream, or a failure for good
  generalize hp : r.pull (some d) none = q at h
  obtain ⟨x, g'⟩ := q
  have hx : ((r.arm (some d)).link.recv (missing r.buffered none) (r.arm (some d)).now).result =
      x := congrArg Prod.fst hp
  rw [hx] at hpull
  rcases hpull with rfl | ⟨e, rfl, hmem⟩
  · cases h
  · obtain ⟨hintr, htime⟩ := hs e hmem
    dsimp only at h
    rw [dif_neg hintr, htime, Bool.and_false, if_neg Bool.false_ne_true] at h
    cases h

end Reading

/-! ### Receiving what has arrived -/

namespace Connection

/-- The bytes of the stream that are there, kept or ready to be received. -/
def arrived (c : Connection) (net : Network) : Bytes :=
  c.buffered ++ (net.link c.link).arrived net.now

/-- Part of a frame has arrived, and not all of it. -/
def MidFrame (c : Connection) (net : Network) : Prop :=
  (c.arrived net).drop (Frame.span (Frame.messages (c.arrived net))) ≠ []

variable {c : Connection} {env : Environment} {d : Nat}

/-- The first of the frames that have arrived does not tell whether another one has begun. -/
theorem midFrame_iff_of_decode {c' : Connection} {net net' : Network} {m : Message} {n : Nat}
    (hd : Frame.decode (c.arrived net) = .ok (m, n))
    (hrest : c'.arrived net' = (c.arrived net).drop n) : c'.MidFrame net' ↔ c.MidFrame net := by
  rw [MidFrame, MidFrame, hrest, Frame.messages_eq_cons hd, Frame.span_cons,
    ← (Frame.length_of_decode hd).1, List.drop_drop]

theorem midFrame_of_decode {net : Network} {e : CodecError}
    (hd : Frame.decode (c.arrived net) = .error e) (hne : c.arrived net ≠ []) :
    c.MidFrame net := by
  rw [MidFrame, Frame.messages_eq_nil hd]
  exact hne

theorem now_le_receiveWith (deadline : Option Nat) (c : Connection) (env : Environment) :
    env.net.now ≤ (c.receiveWith deadline env).2.2.net.now := by
  cases ha : c.alive with
  | false =>
    exact Nat.le_of_eq (by rw [receiveWith_of_dead ha])
  | true =>
    rw [receiveWith_of_alive ha, net_conclude]
    exact (c.reading env.net).now_le_readFrame deadline

/-- **A message that has arrived is received without any waiting.** -/
theorem receiveWith_of_arrived (deadline : Option Nat) (hs : c.InStep env.net)
    (ha : c.alive = true) {m : Message} {n : Nat}
    (hd : Frame.decode (c.arrived env.net) = .ok (m, n)) :
    (c.receiveWith deadline env).1 = .ok (some (m.withOrigin c.id)) ∧
      (c.receiveWith deadline env).2.2.net.now = env.net.now ∧
      (c.receiveWith deadline env).2.1.arrived (c.receiveWith deadline env).2.2.net
        = (c.arrived env.net).drop n := by
  obtain ⟨g, hread, hnow, hempty, hrest⟩ :=
    Reading.readFrame_of_arrived (r := c.reading env.net) deadline hs.begun.fits hd
  rw [arrived, link_receiveWith, receiveWith_of_alive ha, hread, net_conclude,
    link_netAfter hs.linked]
  refine ⟨rfl, hnow, ?_⟩
  show g.buffered ++ g.link.arrived g.now = _
  rw [hempty, hnow]
  exact hrest

/-- A receive that does not fail, on a connection on which something is ready, has bytes to begin
with. -/
theorem arrived_of_receiveWith (ha : c.alive = true) (hsteady : (env.net.link c.link).Steady)
    (hready : (env.net.link c.link).isReady env.net.now = true) {x : Option Message}
    (h : (c.receiveWith (some d) env).1 = .ok x) : c.arrived env.net ≠ [] := by
  rw [receiveWith_of_alive ha] at h
  cases hread : (c.reading env.net).readFrame (some d) with
  | mk y g =>
    rw [hread] at h
    cases y with
    | ok y => exact Reading.arrived_of_readFrame (r := c.reading env.net) hsteady hready hread
    | error e =>
      rw [(conclude_error e g c env).1] at h
      cases h

/-- **A receive on a connection on which something is ready gives up inside of a frame only, and
not before its deadline.** -/
theorem receiveWith_late (hs : c.InStep env.net) (ha : c.alive = true)
    (hsteady : (env.net.link c.link).Steady)
    (hready : (env.net.link c.link).isReady env.net.now = true)
    (h : (c.receiveWith (some d) env).1 = .ok none) :
    c.MidFrame env.net ∧ (c.receiveWith (some d) env).2.1.buffered ≠ [] ∧
      d ≤ (c.receiveWith (some d) env).2.2.net.now := by
  have harrived := arrived_of_receiveWith ha hsteady hready h
  refine ⟨?_, ?_⟩
  · cases hd : Frame.decode (c.arrived env.net) with
    | error e => exact midFrame_of_decode hd harrived
    | ok r =>
      have hmessage := (receiveWith_of_arrived (some d) hs ha hd).1
      rw [h] at hmessage
      cases hmessage
  · rw [receiveWith_of_alive ha] at h ⊢
    cases hread : (c.reading env.net).readFrame (some d) with
    | mk x g =>
      rw [hread] at h
      match x with
      | .ok none =>
        exact Reading.readFrame_late (r := c.reading env.net) hsteady (fun _ => hready) hread
      | .ok (some m) => cases h
      | .error e =>
        rw [(conclude_error e g c env).1] at h
        cases h

theorem steady_receiveWith (deadline : Option Nat) (hs : c.InStep env.net)
    (h : (env.net.link c.link).Steady) :
    ((c.receiveWith deadline env).2.2.net.link c.link).Steady := by
  cases ha : c.alive with
  | false =>
    rw [receiveWith_of_dead ha]
    exact h
  | true =>
    rw [receiveWith_of_alive ha, net_conclude, link_netAfter hs.linked]
    exact Reading.readFrame_keeps (P := fun l _ => l.Steady) Reading.steady_pull h

end Connection

/-! ### Polling what has arrived -/

namespace Network

/-- A wait ends at once where something is ready. -/
theorem await_of_ready {watched : List Nat} {i : Nat} {net : Network} (hi : i ∈ watched)
    (hr : (net.link i).isReady net.now = true) (ms : Option Nat) :
    net.await watched ms = (net.readyAmong watched, net) := by
  have hcome := earliest?_le_iff.2 ⟨i, hi, hr⟩
  rw [Option.any_eq_true] at hcome
  obtain ⟨t, hearliest, hle⟩ := hcome
  rw [decide_eq_true_eq] at hle
  have hnow : net.passUntil t = net := by
    rw [passUntil, Nat.sub_eq_zero_of_le (le_clock_iff.2 hle), pass_zero]
  unfold await
  rw [hearliest]
  cases ms with
  | none =>
    dsimp only
    rw [hnow]
  | some ms =>
    dsimp only
    rw [if_pos (Nat.le_trans hle (Nat.le_add_right ..)), hnow]

/-- Nor does a fault take time then. -/
theorem interrupted_of_ready {watched : List Nat} {i : Nat} {net : Network} (hi : i ∈ watched)
    (hr : (net.link i).isReady net.now = true) (ms : Option Nat) (after : Nat) :
    net.interrupted watched ms after = net := by
  have hcome := earliest?_le_iff.2 ⟨i, hi, hr⟩
  rw [Option.any_eq_true] at hcome
  obtain ⟨t, hearliest, hle⟩ := hcome
  rw [decide_eq_true_eq] at hle
  have hnone : net.patience? watched ms = some 0 := by
    rw [patience?, hearliest, Option.map_some, Nat.sub_eq_zero_of_le (le_clock_iff.2 hle)]
    cases ms with
    | none => rfl
    | some ms => exact congrArg some (Nat.zero_min _)
  rw [interrupted, hnone, Option.map_some, Option.getD_some, Nat.min_zero, pass_zero]

/-- A poll that is interrupted at most tells what is ready, once the interruptions are used up. -/
theorem poll_of_interruptions {watched : List Nat} {ms : Option Nat} {i : Nat}
    {net net' : Network} {answer : PollAnswer} (hi : i ∈ watched)
    (hr : (net.link i).isReady net.now = true)
    (hf : ∀ fault ∈ net.pollFaults, fault.isInterruption = true)
    (hp : net.poll watched ms = (answer, net')) :
    (∃ ready, answer = .ready ready ∧ net.await watched ms = (ready, net') ∧
        net' = { net' with pollFaults := [] }) ∨
      ∃ e faults, answer = .failure e ∧ e.kind = .interrupted ∧
        net' = { net with pollFaults := faults } ∧
        ∀ fault ∈ faults, fault.isInterruption = true := by
  cases answer with
  | ready ready =>
    obtain ⟨hawait, hnone⟩ := poll_ready hp
    exact .inl ⟨ready, rfl, hawait, by rw [← hnone]⟩
  | failure e =>
    obtain ⟨after, hfault⟩ := poll_failure hp
    have hkind : e.kind = .interrupted := of_decide_eq_true (hf _ hfault)
    rw [poll] at hp
    split at hp
    · rename_i e' after' faults hfaults
      rw [interrupted_of_ready hi hr] at hp
      cases hp
      rw [hfaults] at hf
      exact .inr ⟨e, faults, rfl, hkind, rfl, fun f hmem => hf f (List.mem_cons_of_mem _ hmem)⟩
    · cases hp
    · cases hp
  | spurious =>
    rw [poll] at hp
    split at hp
    · cases hp
    · rename_i hfaults
      rw [hfaults] at hf
      exact absurd (hf _ List.mem_cons_self) Bool.false_ne_true
    · cases hp

end Network

namespace Registry

/-- The first of the connections on which something is ready. -/
theorem exists_firstReady {watched : List Connection} {c : Connection} {net : Network}
    (hc : c ∈ watched) (hr : (net.link c.link).isReady net.now = true) :
    ∃ d ∈ watched, (net.link d.link).isReady net.now = true ∧
      firstReady watched (net.readyAmong (watched.map (·.link))) = some d.id := by
  have hmem : c.link ∈ net.readyAmong (watched.map (·.link)) :=
    List.mem_filter.2 ⟨List.mem_map_of_mem hc, hr⟩
  obtain ⟨d, hd⟩ : ∃ d, watched.find? (fun c =>
      (net.readyAmong (watched.map (·.link))).contains c.link) = some d := by
    rw [← Option.isSome_iff_exists, List.find?_isSome]
    exact ⟨c, hc, List.contains_iff_mem.2 hmem⟩
  have hready : d.link ∈ net.readyAmong (watched.map (·.link)) := by
    simpa using List.find?_some hd
  exact ⟨d, List.mem_of_find?_eq_some hd, (List.mem_filter.1 hready).2, by rw [firstReady, hd]; rfl⟩

/-- **Where something is ready, a poll that is not disturbed ends at once, with a connection that is
ready.** -/
theorem pollWatched_of_ready {watched : List Connection} {c : Connection} {net : Network}
    (hc : c ∈ watched) (hr : (net.link c.link).isReady net.now = true)
    (hf : ∀ fault ∈ net.pollFaults, fault.isInterruption = true) (deadline : Option Nat) :
    ∃ d ∈ watched, (net.link d.link).isReady net.now = true ∧
      pollWatched watched deadline net = (.ok (some d.id), { net with pollFaults := [] }) := by
  have hlink : c.link ∈ watched.map (·.link) := List.mem_map_of_mem hc
  -- The induction uses up the interruptions.
  fun_induction pollWatched watched deadline net with
  | case1 net ready net' hp =>
    -- the answer; what was ready is ready still, for no time has passed
    obtain ⟨ready', hanswer, hawait, hnone⟩ | ⟨e, faults, hanswer, -⟩ :=
      Network.poll_of_interruptions hlink hr hf hp
    · cases hanswer
      rw [Network.await_of_ready (List.mem_map_of_mem hc) hr] at hawait
      cases hawait
      obtain ⟨d, hd, hready, hfirst⟩ := exists_firstReady hc hr
      exact ⟨d, hd, hready, by rw [hfirst, ← hnone]⟩
    · cases hanswer
  | case2 net e net' hp he ih =>
    -- an interruption, behind which the poll is made again
    obtain ⟨ready, hanswer, -⟩ | ⟨e', faults, -, -, rfl, hrest⟩ :=
      Network.poll_of_interruptions hlink hr hf hp
    · cases hanswer
    · exact ih hr hrest
  | case3 net e net' hp he =>
    -- a failure for good is no interruption
    obtain ⟨ready, hanswer, -⟩ | ⟨e', faults, hanswer, hkind, -⟩ :=
      Network.poll_of_interruptions hlink hr hf hp
    · cases hanswer
    · cases hanswer
      exact absurd hkind he
  | case4 net net' hp =>
    obtain ⟨ready, hanswer, -⟩ | ⟨e, faults, hanswer, -⟩ :=
      Network.poll_of_interruptions hlink hr hf hp
    · cases hanswer
    · cases hanswer
  | case5 net net' hp hdl ih =>
    obtain ⟨ready, hanswer, -⟩ | ⟨e, faults, hanswer, -⟩ :=
      Network.poll_of_interruptions hlink hr hf hp
    · cases hanswer
    · cases hanswer

theorem pollReadable_of_ready {ids : List ConnectionId} {id : ConnectionId} {r : Registry}
    {c : Connection} {env : Environment} (hid : id ∈ ids) (hc : r.get? id = some c)
    (hr : (env.net.link c.link).isReady env.net.now = true)
    (hf : ∀ fault ∈ env.net.pollFaults, fault.isInterruption = true) (timeout : Option Nat) :
    ∃ j ∈ ids, ∃ d, r.get? j = some d ∧ (env.net.link d.link).isReady env.net.now = true ∧
      r.pollReadable ids timeout env
        = (.ok (some j), { env with net := { env.net with pollFaults := [] } }) := by
  have hmem : c ∈ ids.filterMap r.get? := List.mem_filterMap.2 ⟨id, hid, hc⟩
  obtain ⟨d, hd, hready, hpoll⟩ :=
    pollWatched_of_ready hmem hr hf ((timeout.map (1000 * ·)).map (env.net.clock + ·))
  obtain ⟨j, hj, hget⟩ := List.mem_filterMap.1 hd
  have hjd := id_of_get? hget
  subst hjd
  refine ⟨d.id, hj, d, hget, hready, ?_⟩
  rw [pollReadable, pollReadableFor]
  split
  · rename_i hnil
    rw [hnil] at hmem
    exact absurd hmem List.not_mem_nil
  · rw [hpoll]

end Registry

end PipelineWorker
