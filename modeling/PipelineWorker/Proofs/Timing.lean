/-
How long a receive and a poll take.

Past its deadline a wait is kept up by arrivals only.  `Busy` says that of a span of time: within
every millisecond of it that lies behind the deadline, something arrives.  A wait that gives up does
so at the deadline, or a millisecond after a busy span (`InTime`).

* `readFrame_timing` — a reading is busy until it ends, unless it gives up;
* `receiveWith_timing` — the same of a receive;
* `pollWatched_timing` — a poll ends with the millisecond of its deadline.
-/
import PipelineWorker.Proofs.Polling

namespace PipelineWorker

/-- From `a` to `b` something arrives within every millisecond, as far as that span lies behind the
deadline.  How a poll rounds its deadline is not counted. -/
def Busy (deadline : Nat) (arrives : Nat → Prop) (a b : Nat) : Prop :=
  ∀ x, deadline + 999 ≤ x → a ≤ x → x < b → ∃ τ, arrives τ ∧ x < τ ∧ τ ≤ x + 1000

/-- A wait from `a` to `b` that was busy, but for the time until the deadline and for a millisecond
at its end. -/
def InTime (deadline : Nat) (arrives : Nat → Prop) (a b : Nat) : Prop :=
  ∃ l, Busy deadline arrives a l ∧ b ≤ max deadline (l + 1000)

section Busy

variable {deadline a b c : Nat} {arrives : Nat → Prop}

/-- What ends before the deadline, or with its millisecond, counts as busy. -/
theorem busy_of_le (h : b ≤ max a (deadline + 999)) : Busy deadline arrives a b := by
  intro x hd ha hb
  omega

theorem Busy.refl (a : Nat) : Busy deadline arrives a a := busy_of_le (Nat.le_max_left ..)

theorem Busy.trans (h : Busy deadline arrives a b) (h' : Busy deadline arrives b c) :
    Busy deadline arrives a c := by
  intro x hd ha hc
  by_cases hb : x < b
  · exact h x hd ha hb
  · exact h' x hd (Nat.le_of_not_lt hb) hc

theorem Busy.inTime (h : Busy deadline arrives a b) : InTime deadline arrives a b :=
  ⟨b, h, Nat.le_trans (Nat.le_add_right b 1000) (Nat.le_max_right ..)⟩

theorem Busy.trans_inTime (h : Busy deadline arrives a b) (h' : InTime deadline arrives b c) :
    InTime deadline arrives a c := by
  obtain ⟨l, hl, hc⟩ := h'
  exact ⟨l, h.trans hl, hc⟩

/-- **A wait in time goes on past a moment behind the deadline for a millisecond at most, unless
something arrives meanwhile.** -/
theorem InTime.exists_arrival (h : InTime deadline arrives a b) {x : Nat}
    (hx : deadline + 999 ≤ x) (ha : a ≤ x) (hb : x + 1000 < b) :
    ∃ τ, arrives τ ∧ x < τ ∧ τ ≤ x + 1000 := by
  obtain ⟨l, hl, hle⟩ := h
  exact hl x hx ha (by omega)

end Busy

/-! ### One receive -/

namespace Link

/-- When the items arrive that were not received yet. -/
def times (l : Link) : List Nat := l.incoming.map (·.time)

theorem times_takeFront {n now : Nat} {l : Link} {i : Incoming} {rest : List Incoming}
    (h : l.incoming = i :: rest) : (takeFront n l now i rest).link.times ⊆ l.times := by
  obtain ⟨time, what⟩ := i
  have hl : l.times = time :: rest.map (·.time) := by rw [times, h, List.map_cons]
  have htail : rest.map (·.time) ⊆ l.times := by
    rw [hl]
    exact List.subset_cons_self ..
  cases what with
  | close => exact List.Subset.refl _
  | failure e => exact htail
  | data bs =>
    simp only [takeFront]
    split
    · exact htail
    · rw [hl]
      exact List.Subset.refl _

/-- A receive that is limited runs out of time, or takes an item when that has arrived. -/
theorem recv_timing (n now : Nat) {l : Link} {limit : Nat} (h : l.readTimeout = some limit) :
    (l.recv n now).link.times ⊆ l.times ∧
      (((l.recv n now).result = .error .again ∧ (l.recv n now).now = now + limit) ∨
        ∃ τ ∈ l.times, τ ≤ now + limit ∧ (l.recv n now).now = max now τ) := by
  rw [recv, h]
  cases hi : l.incoming with
  | nil => exact ⟨List.Subset.refl _, .inl ⟨rfl, rfl⟩⟩
  | cons i rest =>
    have hmem : i.time ∈ l.times := by
      rw [times, hi]
      exact List.mem_cons_self
    dsimp only
    split
    · rename_i hle
      refine ⟨times_takeFront hi, .inr ⟨i.time, hmem, hle, ?_⟩⟩
      rw [takeFront]
      split
      · rfl
      · rfl
      · split <;> rfl
    · exact ⟨List.Subset.refl _, .inl ⟨rfl, rfl⟩⟩

end Link

/-! ### A whole reading -/

namespace Reading

variable {deadline : Nat} {arrives : Nat → Prop}

/-- A pull is busy until it ends, unless it runs out of time. -/
theorem pull_timing {total : Option Nat} {r g : Reading} {x : Except Errno Bytes}
    (hp : r.pull (some deadline) total = (x, g)) (h : ∀ τ ∈ r.link.times, arrives τ) :
    (∀ τ ∈ g.link.times, arrives τ) ∧
      (Busy deadline arrives r.now g.now ∨
        x = .error .again ∧ g.now ≤ max deadline (r.now + 1000)) := by
  have hlimit : (r.arm (some deadline)).link.readTimeout
      = some (max (deadline - r.now) shortestWindow) := rfl
  have htimes : (r.arm (some deadline)).link.times = r.link.times := rfl
  have hnow : (r.arm (some deadline)).now = r.now := rfl
  have hshort : shortestWindow = 1000 := rfl
  obtain ⟨hsub, hrecv⟩ := Link.recv_timing (missing r.buffered total) (r.arm (some deadline)).now hlimit
  obtain ⟨rfl, rfl⟩ := Prod.mk.inj hp
  rw [htimes] at hsub hrecv
  refine ⟨fun τ hτ => h τ (hsub hτ), ?_⟩
  rcases hrecv with ⟨hagain, hend⟩ | ⟨τ, hτ, hle, hend⟩
  · refine .inr ⟨hagain, ?_⟩
    dsimp only
    omega
  · -- past the deadline no receive waits longer than a millisecond for its item
    refine .inl fun y hd hy hlt => ⟨τ, h τ hτ, ?_⟩
    dsimp only at hlt
    omega

/-- **A reading is busy until it ends, unless it gives up.** -/
theorem readFrame_timing (deadline : Nat) {r : Reading} (h : ∀ τ ∈ r.link.times, arrives τ) :
    (∀ τ ∈ (readFrame (some deadline) r).2.link.times, arrives τ) ∧
      (Busy deadline arrives r.now (readFrame (some deadline) r).2.now ∨
        (readFrame (some deadline) r).1 = .ok none ∧
          InTime deadline arrives r.now (readFrame (some deadline) r).2.now) := by
  generalize hsome : some deadline = limit
  -- The induction follows the receives; those that bring something are busy.
  fun_induction readFrame limit r with
  | case1 r => exact ⟨h, .inl (.refl _)⟩
  | case2 r => exact ⟨h, .inl (.refl _)⟩
  | case3 r total hl hn g hp =>
    -- the stream ends, which is something to receive
    subst hsome
    obtain ⟨hrest, hbusy | ⟨⟨⟩, -⟩⟩ := pull_timing hp h
    exact ⟨hrest, .inl hbusy⟩
  | case4 r total hl hn b bs g hp ih =>
    -- bytes come in, and the reading goes on
    subst hsome
    obtain ⟨hrest, hbusy | ⟨⟨⟩, -⟩⟩ := pull_timing hp h
    obtain ⟨hlast, hread | ⟨hnone, hread⟩⟩ := ih hrest
    · exact ⟨hlast, .inl (hbusy.trans hread)⟩
    · exact ⟨hlast, .inr ⟨hnone, hbusy.trans_inTime hread⟩⟩
  | case5 r total hl hn g hp ih =>
    -- an interruption is something to receive too
    subst hsome
    obtain ⟨hrest, hbusy | ⟨⟨⟩, -⟩⟩ := pull_timing hp h
    obtain ⟨hlast, hread | ⟨hnone, hread⟩⟩ := ih hrest
    · exact ⟨hlast, .inl (hbusy.trans hread)⟩
    · exact ⟨hlast, .inr ⟨hnone, hbusy.trans_inTime hread⟩⟩
  | case6 r total hl hn e g hp hi ht =>
    -- the reading gives up
    subst hsome
    obtain ⟨hrest, hbusy | ⟨-, hle⟩⟩ := pull_timing hp h
    · exact ⟨hrest, .inr ⟨rfl, hbusy.inTime⟩⟩
    · exact ⟨hrest, .inr ⟨rfl, r.now, .refl _, hle⟩⟩
  | case7 r total hl hn e g hp hi ht =>
    -- the socket fails; running out of time is no such failure
    subst hsome
    obtain ⟨hrest, hbusy⟩ := pull_timing hp h
    refine ⟨hrest, .inl (hbusy.resolve_right fun hagain => ht ?_)⟩
    rw [Except.error.inj hagain.1]
    rfl

end Reading

/-- **A receive is busy until it ends, unless it gives up.** -/
theorem Connection.receiveWith_timing (deadline : Nat) {arrives : Nat → Prop} {c : Connection}
    {env : Environment} (hl : c.link < env.net.links.length)
    (h : ∀ τ ∈ (env.net.link c.link).times, arrives τ) :
    (∀ τ ∈ ((c.receiveWith (some deadline) env).2.2.net.link c.link).times, arrives τ) ∧
      (Busy deadline arrives env.net.now (c.receiveWith (some deadline) env).2.2.net.now ∨
        (c.receiveWith (some deadline) env).1 = .ok none ∧
          InTime deadline arrives env.net.now
            (c.receiveWith (some deadline) env).2.2.net.now) := by
  cases ha : c.alive with
  | false =>
    rw [receiveWith_of_dead ha]
    exact ⟨h, .inl (.refl _)⟩
  | true =>
    obtain ⟨hrest, hread⟩ := (c.reading env.net).readFrame_timing deadline h
    rw [receiveWith_of_alive ha, net_conclude, link_netAfter hl]
    refine ⟨hrest, hread.imp_right fun ⟨hnone, hin⟩ => ⟨?_, hin⟩⟩
    rw [hnone]
    rfl

/-! ### One poll -/

/-- A poll with a limit leaves the links alone, and waits no longer than that. -/
theorem Network.poll_timing {watched : List Nat} {ms : Nat} {net net' : Network}
    {answer : PollAnswer} (hp : net.poll watched (some ms) = (answer, net')) :
    net'.links = net.links ∧ net.clock ≤ net'.clock ∧
      net'.clock ≤ net.clock + 1000000 * ms := by
  have hge := net.clock_le_poll watched (some ms)
  rw [hp] at hge
  have hfault (after : Nat) :
      (net.interrupted watched (some ms) after).clock ≤ net.clock + 1000000 * ms := by
    obtain ⟨t, -, hlimit, hclock⟩ := net.clock_interrupted watched (some ms) after
    have := hlimit ms rfl
    omega
  rw [poll] at hp
  split at hp
  · obtain ⟨-, rfl⟩ := Prod.mk.inj hp
    exact ⟨rfl, hge, hfault _⟩
  · obtain ⟨-, rfl⟩ := Prod.mk.inj hp
    exact ⟨rfl, hge, hfault _⟩
  · obtain ⟨rfl, rfl⟩ := Prod.mk.inj hp
    refine ⟨?_, hge, ?_⟩
    · unfold await
      split
      · rfl
      · split <;> rfl
      · rfl
      · rename_i h
        cases h
    · unfold await
      split
      · rename_i h
        cases h
      · rename_i t ms' _ h
        obtain rfl := Option.some.inj h
        split
        · rw [passUntil, clock_pass, clock]
          omega
        · rw [clock_sleep]
          omega
      · rename_i ms' _ h
        obtain rfl := Option.some.inj h
        rw [clock_sleep]
        omega
      · rename_i h
        cases h

/-- **A poll ends with the millisecond of its deadline**, and leaves the links alone. -/
theorem Registry.pollWatched_timing (watched : List Connection) (deadline : Nat) (net : Network) :
    (pollWatched watched (some deadline) net).2.links = net.links ∧
      ((pollWatched watched (some deadline) net).2.clock = net.clock ∨
        net.clock < deadline ∧
          (pollWatched watched (some deadline) net).2.clock ≤ deadline + 999000) := by
  have hturn {net net' : Network} {answer : PollAnswer}
      (hp : net.poll (watched.map (·.link)) (some (pollWindow deadline net.clock))
        = (answer, net')) :
      net'.links = net.links ∧ (net'.clock = net.clock ∨
        net.clock < deadline ∧ net'.clock ≤ deadline + 999000) ∧ net.clock ≤ net'.clock := by
    obtain ⟨hlinks, hge, hle⟩ := Network.poll_timing hp
    rw [pollWindow] at hle
    exact ⟨hlinks, by omega⟩
  generalize hsome : some deadline = limit
  -- The induction follows the faults; what one of them takes is part of the window of its poll.
  fun_induction pollWatched watched limit net with
  | case1 net ready net' hp =>
    subst hsome
    obtain ⟨hlinks, hclock, -⟩ := hturn hp
    exact ⟨hlinks, hclock⟩
  | case2 net e net' hp he ih =>
    -- an interruption; the next poll waits for what is left
    subst hsome
    obtain ⟨hlinks, hclock, hle⟩ := hturn hp
    obtain ⟨hrest, hlater⟩ := ih
    exact ⟨hrest.trans hlinks, by omega⟩
  | case3 net e net' hp he =>
    subst hsome
    obtain ⟨hlinks, hclock, -⟩ := hturn hp
    exact ⟨hlinks, hclock⟩
  | case4 net net' hp hd =>
    -- the deadline has passed, within the window of the last poll
    subst hsome
    obtain ⟨hlinks, hclock, -⟩ := hturn hp
    exact ⟨hlinks, hclock⟩
  | case5 net net' hp hd ih =>
    -- woken for nothing before the deadline
    subst hsome
    obtain ⟨hlinks, hclock, hle⟩ := hturn hp
    obtain ⟨hrest, hlater⟩ := ih
    exact ⟨hrest.trans hlinks, by omega⟩

end PipelineWorker
