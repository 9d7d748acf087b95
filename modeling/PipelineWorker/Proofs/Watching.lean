/-
When a wait for several connections ends.

Interruptions and events of no meaning are passed over, after they took some of the window of their
poll; any other fault is the answer.  Behind them one poll waits for the links, as far as its window
reaches.  A window is counted in milliseconds and has a greatest value, and what is less than a
microsecond is not counted.

* `pollWatched_polled` — all that can come of polling again and again;
* `pollReadable_early_iff` — a wait ends in vain before its timeout exactly where the window of its
  last poll falls short of what is left of the time, and nothing comes within it.
-/
import PipelineWorker.Proofs.Settling

namespace PipelineWorker

/-! ### One wait for several links -/

namespace Network

variable {watched : List Nat} {net : Network} {i ms : Nat}

/-- A wait with a limit is over in vain where nothing comes. -/
theorem await_of_silence (h : ∀ i ∈ watched, (net.link i).isReady (net.now + 1000 * ms) = false) :
    net.await watched (some ms) = ([], net.sleep (1000 * ms)) := by
  have hnone : ¬ (net.earliest? watched).any (· ≤ net.now + 1000 * ms) = true := by
    rw [earliest?_le_iff]
    rintro ⟨i, hi, hr⟩
    exact Bool.false_ne_true ((h i hi).symm.trans hr)
  unfold await
  cases he : net.earliest? watched with
  | none => rfl
  | some t =>
    rw [he, Option.any_some, decide_eq_true_eq] at hnone
    dsimp only
    rw [if_neg hnone]

/-- A wait with a limit tells a link where something comes in time. -/
theorem exists_mem_await (hi : i ∈ watched)
    (h : (net.link i).isReady (net.now + 1000 * ms) = true) :
    ∃ j ∈ watched, j ∈ (net.await watched (some ms)).1 := by
  have hsome := earliest?_le_iff.2 ⟨i, hi, h⟩
  unfold await
  cases he : net.earliest? watched with
  | none =>
    rw [he] at hsome
    cases hsome
  | some t =>
    rw [he, Option.any_some, decide_eq_true_eq] at hsome
    dsimp only
    rw [if_pos hsome]
    exact exists_mem_readyAmong he

end Network

namespace Registry

/-! ### Polling again and again -/

section Polling

variable {watched : List Connection} {deadline : Option Nat} {net : Network} {f : PollFault}
  {faults before rest : List PollFault}

/-- The wait of a poll that ends with this fault. -/
def disturb (watched : List Connection) (deadline : Option Nat) (net : Network)
    (fault : PollFault) : Network :=
  net.interrupted (watched.map (·.link)) (deadline.map fun d => pollWindow d net.clock) fault.after

/-- The waits of polls that end with these faults, one after the other. -/
def disturbed (watched : List Connection) (deadline : Option Nat) (faults : List PollFault)
    (net : Network) : Network :=
  faults.foldl (disturb watched deadline) net

/-- The wait of a poll that meets no fault. -/
def undisturbed (watched : List Connection) (deadline : Option Nat) (net : Network) :
    List Nat × Network :=
  ({ net with pollFaults := [] } : Network).await (watched.map (·.link))
    (deadline.map fun d => pollWindow d net.clock)

theorem disturbed_concat : disturbed watched deadline (before ++ [f]) net
    = disturb watched deadline (disturbed watched deadline before net) f :=
  List.foldl_concat ..

theorem links_disturbed (watched : List Connection) (deadline : Option Nat)
    (faults : List PollFault) (net : Network) :
    (disturbed watched deadline faults net).links = net.links := by
  induction faults generalizing net with
  | nil => rfl
  | cons f faults ih => exact ih (disturb watched deadline net f)

theorem clock_le_disturbed (watched : List Connection) (deadline : Option Nat)
    (faults : List PollFault) (net : Network) :
    net.clock ≤ (disturbed watched deadline faults net).clock := by
  induction faults generalizing net with
  | nil => exact Nat.le_refl _
  | cons f faults ih =>
    have hfirst : net.clock ≤ (disturb watched deadline net f).clock := by
      rw [disturb, Network.interrupted, Network.clock_pass]
      exact Nat.le_add_right ..
    exact Nat.le_trans hfirst (ih _)

/-- More faults take no less time. -/
theorem clock_disturbed_le_append (before rest : List PollFault) :
    (disturbed watched deadline before net).clock
      ≤ (disturbed watched deadline (before ++ rest) net).clock := by
  rw [disturbed, disturbed, List.foldl_append]
  exact clock_le_disturbed ..

/-- A fault that comes at once takes no time, nor does any once the deadline has passed. -/
theorem disturb_of_timeless (h : deadline.any (· ≤ net.clock) = true ∨ f.after = 0) :
    disturb watched deadline net f = net := by
  rw [disturb, Network.interrupted]
  rcases h with hpassed | hnow
  · obtain ⟨d, rfl, hle⟩ := (Option.any_eq_true ..).1 hpassed
    have hwindow : pollWindow d net.clock = 0 := by
      rw [pollWindow, Nat.sub_eq_zero_of_le (of_decide_eq_true hle)]
      rfl
    obtain ⟨p, hle, hp⟩ := net.exists_patience? (watched.map (·.link)) 0
    rw [Option.map_some, hwindow, hp, Nat.eq_zero_of_le_zero hle, Option.map_some,
      Option.getD_some, Nat.min_zero, Network.pass_zero]
  · rw [hnow]
    cases net.patience? (watched.map (·.link)) (deadline.map fun d => pollWindow d net.clock) with
    | none => exact Network.pass_zero net
    | some p =>
      rw [Option.map_some, Option.getD_some, Nat.zero_min, Network.pass_zero]

theorem disturbed_of_timeless
    (h : deadline.any (· ≤ net.clock) = true ∨ ∀ fault ∈ faults, fault.after = 0) :
    disturbed watched deadline faults net = net := by
  induction faults with
  | nil => rfl
  | cons f faults ih =>
    have hfirst : disturb watched deadline net f = net :=
      disturb_of_timeless (h.imp_right fun hnow => hnow f List.mem_cons_self)
    rw [disturbed, List.foldl_cons, hfirst]
    exact ih (h.imp_right fun hnow fault hmem => hnow fault (List.mem_cons_of_mem _ hmem))

/-- Each of the faults is noise, and none is an event of no meaning that comes when the deadline has
passed. -/
def PassedOver (watched : List Connection) (deadline : Option Nat) :
    List PollFault → Network → Prop
  | [], _ => True
  | f :: faults, net =>
    f.IsNoise ∧
      (f.isSpurious = true → deadline.any (· ≤ (disturb watched deadline net f).clock) = false) ∧
      PassedOver watched deadline faults (disturb watched deadline net f)

theorem PassedOver.noise (h : PassedOver watched deadline faults net) :
    ∀ fault ∈ faults, fault.IsNoise := by
  induction faults generalizing net with
  | nil => exact fun _ hmem => nomatch hmem
  | cons f faults ih =>
    intro fault hmem
    rcases List.mem_cons.1 hmem with rfl | hmem
    · exact h.1
    · exact ih h.2.2 fault hmem

/-- A fault that is passed over takes its time and changes nothing else. -/
theorem pollWatched_of_noise (hnoise : f.IsNoise)
    (hearly : f.isSpurious = true →
      deadline.any (· ≤ (disturb watched deadline net f).clock) = false) :
    pollWatched watched deadline { net with pollFaults := f :: faults }
      = pollWatched watched deadline
        { disturb watched deadline net f with pollFaults := faults } := by
  rw [pollWatched_eq, Network.poll]
  cases f with
  | failure e after => exact if_pos (PollFault.isNoise_failure_iff.1 hnoise)
  | spurious after => exact if_neg (Bool.eq_false_iff.1 (hearly rfl))

theorem pollWatched_of_passedOver (h : PassedOver watched deadline before net) :
    pollWatched watched deadline { net with pollFaults := before ++ rest }
      = pollWatched watched deadline
        { disturbed watched deadline before net with pollFaults := rest } := by
  induction before generalizing net with
  | nil => rfl
  | cons f before ih =>
    obtain ⟨hnoise, hearly, hrest⟩ := h
    rw [List.cons_append, pollWatched_of_noise hnoise hearly]
    exact ih hrest

/-- An event of no meaning ends the wait when the deadline has passed. -/
theorem pollWatched_of_spurious {after : Nat} (hpassed :
      deadline.any (· ≤ (disturb watched deadline net (.spurious after)).clock) = true) :
    pollWatched watched deadline { net with pollFaults := .spurious after :: rest }
      = (.ok none, { disturb watched deadline net (.spurious after) with pollFaults := rest }) := by
  rw [pollWatched_eq, Network.poll]
  exact if_pos hpassed

/-- A failure for good ends it at any time. -/
theorem pollWatched_of_failure {e : Errno} {after : Nat} (hfinal : e.kind ≠ .interrupted) :
    pollWatched watched deadline { net with pollFaults := .failure e after :: rest }
      = (.error (.socket (.number e)),
        { disturb watched deadline net (.failure e after) with pollFaults := rest }) := by
  rw [pollWatched_eq, Network.poll]
  exact if_neg hfinal

/-- All that can come of polling again and again where these faults are met. -/
inductive Polled (watched : List Connection) (deadline : Option Nat) (faults : List PollFault)
    (net : Network) : Except NetError (Option ConnectionId) → Network → Prop
  /-- All faults are passed over. -/
  | answered (ignored : PassedOver watched deadline faults net) :
      Polled watched deadline faults net
        (.ok (firstReady watched
          (undisturbed watched deadline (disturbed watched deadline faults net)).1))
        (undisturbed watched deadline (disturbed watched deadline faults net)).2
  /-- An event of no meaning comes when the deadline has passed. -/
  | expired {before : List PollFault} {after : Nat} {rest : List PollFault}
      (split : faults = before ++ .spurious after :: rest)
      (ignored : PassedOver watched deadline before net)
      (passed : deadline.any
        (· ≤ (disturbed watched deadline (before ++ [.spurious after]) net).clock) = true) :
      Polled watched deadline faults net (.ok none)
        { disturbed watched deadline (before ++ [.spurious after]) net with pollFaults := rest }
  /-- A poll fails for good. -/
  | failed {before : List PollFault} {e : Errno} {after : Nat} {rest : List PollFault}
      (split : faults = before ++ .failure e after :: rest)
      (ignored : PassedOver watched deadline before net) (final : e.kind ≠ .interrupted) :
      Polled watched deadline faults net (.error (.socket (.number e)))
        { disturbed watched deadline (before ++ [.failure e after]) net with pollFaults := rest }

/-- What is passed over comes before all else that can come of polling. -/
theorem Polled.cons {x : Except NetError (Option ConnectionId)} {net' : Network}
    (hnoise : f.IsNoise)
    (hearly : f.isSpurious = true →
      deadline.any (· ≤ (disturb watched deadline net f).clock) = false)
    (h : Polled watched deadline faults (disturb watched deadline net f) x net') :
    Polled watched deadline (f :: faults) net x net' := by
  cases h with
  | answered ignored => exact .answered ⟨hnoise, hearly, ignored⟩
  | @expired before after rest split ignored passed =>
    have hall : f :: faults = f :: before ++ .spurious after :: rest := by
      rw [split, List.cons_append]
    exact .expired hall ⟨hnoise, hearly, ignored⟩ passed
  | @failed before e after rest split ignored final =>
    have hall : f :: faults = f :: before ++ .failure e after :: rest := by
      rw [split, List.cons_append]
    exact .failed hall ⟨hnoise, hearly, ignored⟩ final

/-- **Polling again and again ends with an answer, with the deadline or with a failure for
good.** -/
theorem pollWatched_polled (watched : List Connection) (deadline : Option Nat)
    (faults : List PollFault) (net : Network) :
    Polled watched deadline faults net
      (pollWatched watched deadline { net with pollFaults := faults }).1
      (pollWatched watched deadline { net with pollFaults := faults }).2 := by
  -- The induction uses up the faults; the network is the one that the first of them meets.
  induction faults generalizing net with
  | nil =>
    have hpoll : pollWatched watched deadline { net with pollFaults := [] }
        = (.ok (firstReady watched (undisturbed watched deadline net).1),
          (undisturbed watched deadline net).2) := by
      rw [pollWatched_eq, Network.poll]
      rfl
    rw [hpoll]
    exact .answered trivial
  | cons f faults ih =>
    by_cases hover : f.IsNoise ∧ (f.isSpurious = true →
        deadline.any (· ≤ (disturb watched deadline net f).clock) = false)
    · rw [pollWatched_of_noise hover.1 hover.2]
      exact (ih _).cons hover.1 hover.2
    · -- the fault ends the polling; nothing was passed over before it
      cases f with
      | failure e after =>
        have hfinal : e.kind ≠ .interrupted := fun hkind =>
          hover ⟨PollFault.isNoise_failure_iff.2 hkind,
            fun hspurious => absurd hspurious Bool.false_ne_true⟩
        rw [pollWatched_of_failure hfinal]
        exact .failed (List.nil_append _).symm trivial hfinal
      | spurious after =>
        have hpassed :
            deadline.any (· ≤ (disturb watched deadline net (.spurious after)).clock) = true := by
          by_contra hnot
          exact hover ⟨.inr rfl, fun _ => Bool.eq_false_iff.2 hnot⟩
        rw [pollWatched_of_spurious hpassed]
        exact .expired (List.nil_append _).symm trivial hpassed

/-! ### The end of a wait with a timeout -/

/-- A poll for what is left of the time ends before that: it is more than the longest poll, or it
exceeds a whole number of milliseconds by less than a microsecond. -/
def FallsShort (left : Nat) : Prop :=
  1000000 * longestPoll < left ∨ 0 < left % 1000000 ∧ left % 1000000 < 1000

instance (left : Nat) : Decidable (FallsShort left) := inferInstanceAs (Decidable (_ ∨ _))

theorem pollWindow_lt_iff (d clock : Nat) :
    1000000 * pollWindow d clock < d - clock ↔ FallsShort (d - clock) := by
  rw [pollWindow, FallsShort]
  omega

/-- Where the window is not the longest, what it leaves is less than a microsecond. -/
theorem min_lt_pollWindow (d clock : Nat) :
    min (d - clock) (1000000 * longestPoll) < 1000000 * pollWindow d clock + 1000 := by
  rw [pollWindow]
  omega

theorem firstReady_eq_none_iff {ready : List Nat} :
    firstReady watched ready = none ↔ ∀ c ∈ watched, c.link ∉ ready := by
  rw [firstReady, Option.map_eq_none_iff, List.find?_eq_none]
  refine forall₂_congr fun c _ => ?_
  rw [List.contains_iff_mem]

/-- A wait that meets no fault ends in vain where nothing comes within its window, and then it takes
all of it. -/
theorem undisturbed_limited (watched : List Connection) (d : Nat) (net : Network) :
    (firstReady watched (undisturbed watched (some d) net).1 = none ↔
        ∀ c ∈ watched,
          (net.link c.link).isReady (net.now + 1000 * pollWindow d net.clock) = false) ∧
      (firstReady watched (undisturbed watched (some d) net).1 = none →
        (undisturbed watched (some d) net).2.clock
          = net.clock + 1000000 * pollWindow d net.clock) := by
  rw [firstReady_eq_none_iff]
  by_cases h : ∃ c ∈ watched,
      (net.link c.link).isReady (net.now + 1000 * pollWindow d net.clock) = true
  · obtain ⟨c, hc, hr⟩ := h
    have htold : ∃ i ∈ watched.map (·.link), i ∈ (undisturbed watched (some d) net).1 :=
      Network.exists_mem_await (List.mem_map_of_mem hc) hr
    obtain ⟨i, hi, hmem⟩ := htold
    obtain ⟨c', hc', rfl⟩ := List.mem_map.1 hi
    refine ⟨⟨fun hnone => absurd hmem (hnone c' hc'), fun hnone => ?_⟩,
      fun hnone => absurd hmem (hnone c' hc')⟩
    exact absurd ((hnone c hc).symm.trans hr) Bool.false_ne_true
  · have hsilent : ∀ c ∈ watched,
        (net.link c.link).isReady (net.now + 1000 * pollWindow d net.clock) = false :=
      fun c hc => Bool.eq_false_iff.2 fun hr => h ⟨c, hc, hr⟩
    have hawait : undisturbed watched (some d) net
        = ([], { net with pollFaults := [] }.sleep (1000 * pollWindow d net.clock)) := by
      refine Network.await_of_silence fun i hi => ?_
      obtain ⟨c, hc, rfl⟩ := List.mem_map.1 hi
      exact hsilent c hc
    have hclock : (undisturbed watched (some d) net).2.clock
        = net.clock + 1000000 * pollWindow d net.clock := by
      have hsleep : (undisturbed watched (some d) net).2.clock
          = net.clock + 1000 * (1000 * pollWindow d net.clock) := by
        rw [hawait, Network.clock_sleep]
        rfl
      omega
    refine ⟨⟨fun _ => hsilent, fun _ _ _ hmem => ?_⟩, fun _ => hclock⟩
    rw [hawait] at hmem
    cases hmem

/-- Such a wait ends before its deadline where its window falls short of it. -/
theorem undisturbed_early_iff (watched : List Connection) (d : Nat) (net : Network) :
    (firstReady watched (undisturbed watched (some d) net).1 = none →
        net.clock + min (d - net.clock) (1000000 * longestPoll)
          < (undisturbed watched (some d) net).2.clock + 1000) ∧
      (firstReady watched (undisturbed watched (some d) net).1 = none ∧
          (undisturbed watched (some d) net).2.clock < d ↔
        FallsShort (d - net.clock) ∧ ∀ c ∈ watched,
          (net.link c.link).isReady (net.now + 1000 * pollWindow d net.clock) = false) := by
  obtain ⟨hnone, hclock⟩ := undisturbed_limited watched d net
  rw [← pollWindow_lt_iff, ← hnone]
  refine ⟨fun hvain => ?_, ?_⟩
  · rw [hclock hvain]
    have := min_lt_pollWindow d net.clock
    omega
  · rw [and_comm]
    refine and_congr_left fun hvain => ?_
    rw [hclock hvain]
    omega

section

variable {d : Nat} {x : Except NetError (Option ConnectionId)} {net' : Network}

/-- Polling in vain takes what there is of the time or all of the longest poll, but for less than a
microsecond. -/
theorem Polled.late (h : Polled watched (some d) faults net x net') (hx : x = .ok none) :
    net.clock + min (d - net.clock) (1000000 * longestPoll) < net'.clock + 1000 := by
  cases h with
  | answered ignored =>
    have hlong := (undisturbed_early_iff watched d (disturbed watched (some d) faults net)).1
      (Except.ok.inj hx)
    have hle := clock_le_disturbed watched (some d) faults net
    omega
  | @expired before after rest split ignored passed =>
    have hle := clock_le_disturbed watched (some d) (before ++ [.spurious after]) net
    rw [Option.any_some, decide_eq_true_eq] at passed
    show _ < (disturbed _ _ _ net).clock + 1000
    omega
  | failed => cases hx

/-- It ends before its deadline where all faults are passed over and the poll behind them falls short
of what is left of the time. -/
theorem Polled.early_iff (h : Polled watched (some d) faults net x net') :
    x = .ok none ∧ net'.clock < d ↔
      (∀ fault ∈ faults, fault.IsNoise) ∧
        FallsShort (d - (disturbed watched (some d) faults net).clock) ∧
        ∀ c ∈ watched, (net.link c.link).isReady ((disturbed watched (some d) faults net).now
          + 1000 * pollWindow d (disturbed watched (some d) faults net).clock) = false := by
  cases h with
  | answered ignored =>
    have hearly := (undisturbed_early_iff watched d (disturbed watched (some d) faults net)).2
    have hlink (i : Nat) : (disturbed watched (some d) faults net).link i = net.link i := by
      rw [Network.link, Network.link, links_disturbed]
    simp only [hlink] at hearly
    rw [Except.ok.injEq, hearly]
    exact (and_iff_right ignored.noise).symm
  | @expired before after rest split ignored passed =>
    -- the deadline has passed, and the faults that would have come later find no time left
    rw [Option.any_some, decide_eq_true_eq] at passed
    have hover : d ≤ (disturbed watched (some d) faults net).clock := by
      rw [split, List.append_cons]
      exact Nat.le_trans passed (clock_disturbed_le_append ..)
    constructor
    · rintro ⟨-, hearly⟩
      exact absurd hearly (Nat.not_lt.2 passed)
    · rintro ⟨-, hshort, -⟩
      rw [FallsShort] at hshort
      omega
  | @failed before e after rest split ignored final =>
    constructor
    · rintro ⟨hx, -⟩
      cases hx
    · rintro ⟨hnoise, -⟩
      have hfault := hnoise (.failure e after) (by rw [split]; simp)
      exact absurd (PollFault.isNoise_failure_iff.1 hfault) final

end

end Polling

section Readable

variable {ids : List ConnectionId} {r : Registry} {env : Environment}

/-- A wait for connections of which one at least is registered polls for them. -/
theorem pollReadableFor_of_registered (h : ∃ id ∈ ids, (r.get? id).isSome = true)
    (timeout : Option Nat) (env : Environment) :
    r.pollReadableFor ids timeout env
      = ((pollWatched (ids.filterMap r.get?) (timeout.map (env.net.clock + ·)) env.net).1,
        { env with
          net := (pollWatched (ids.filterMap r.get?) (timeout.map (env.net.clock + ·))
            env.net).2 }) := by
  have hne : ids.filterMap r.get? ≠ [] := by
    obtain ⟨id, hid, hsome⟩ := h
    obtain ⟨c, hc⟩ := Option.isSome_iff_exists.1 hsome
    exact List.ne_nil_of_mem (List.mem_filterMap.2 ⟨id, hid, hc⟩)
  rw [pollReadableFor]
  split
  · rename_i hnil
    exact absurd hnil hne
  · rfl

theorem pollReadableFor_polled (h : ∃ id ∈ ids, (r.get? id).isSome = true) (timeout : Option Nat)
    (env : Environment) :
    Polled (ids.filterMap r.get?) (timeout.map (env.net.clock + ·)) env.net.pollFaults env.net
      (r.pollReadableFor ids timeout env).1 (r.pollReadableFor ids timeout env).2.net := by
  rw [pollReadableFor_of_registered h]
  exact pollWatched_polled ..

/-- **A wait never ends in vain a microsecond or more before its timeout or the end of the longest
poll, whichever comes first.  It ends before its timeout exactly where no poll fails, the last of
them falls short of what is left of the time when all faults have come, and nothing comes within
it.** -/
theorem pollReadable_early_iff (h : ∃ id ∈ ids, (r.get? id).isSome = true) (timeout : Nat)
    (env : Environment) :
    let deadline := env.net.clock + timeout
    let last := disturbed (ids.filterMap r.get?) (some deadline) env.net.pollFaults env.net
    ((r.pollReadableFor ids (some timeout) env).1 = .ok none →
        env.net.clock + min timeout (1000000 * longestPoll)
          < (r.pollReadableFor ids (some timeout) env).2.net.clock + 1000) ∧
      ((r.pollReadableFor ids (some timeout) env).1 = .ok none ∧
          (r.pollReadableFor ids (some timeout) env).2.net.clock < deadline ↔
        env.net.PollsFine ∧ FallsShort (deadline - last.clock) ∧
          ∀ id ∈ ids, ∀ c, r.get? id = some c →
            (env.net.link c.link).isReady
              (last.now + 1000 * pollWindow deadline last.clock) = false) := by
  intro deadline last
  have hpolled := pollReadableFor_polled h (some timeout) env
  refine ⟨fun hx => ?_, hpolled.early_iff.trans ?_⟩
  · have hlate := hpolled.late hx
    rwa [Nat.add_sub_cancel_left] at hlate
  · rw [List.forall_mem_filterMap]
    rfl

/-- One connection, on the first link. -/
def lone : Registry :=
  { connections := [
      { id := ⟨0⟩, role := .peer, endpoint := ⟨.unspecified, "here"⟩, port := 4000, link := 0 }],
    nextId := 1 }

/-- Nothing comes, and the timeout is a millisecond longer than the longest poll; but after a second
the wait is interrupted, so that a poll lasts for the rest of the time. -/
theorem pollReadable_early_iff_disturbed :
    let net : Network := { links := [{}], pollFaults := [.failure .intr 1000000000] }
    (lone.pollReadableFor [⟨5⟩, ⟨0⟩] (some 2147483648000000) { net }).1 = .ok none ∧
      net.clock + 2147483648000000
        ≤ (lone.pollReadableFor [⟨5⟩, ⟨0⟩] (some 2147483648000000) { net }).2.net.clock := by
  intro net
  have hknown : ∃ id ∈ ([⟨5⟩, ⟨0⟩] : List ConnectionId), (lone.get? id).isSome = true :=
    ⟨⟨0⟩, by decide, by decide⟩
  have hnone : (lone.pollReadableFor [⟨5⟩, ⟨0⟩] (some 2147483648000000) { net }).1 = .ok none := by
    decide +kernel
  have hleft : ¬ FallsShort (net.clock + 2147483648000000 -
      (disturbed ([⟨5⟩, ⟨0⟩].filterMap lone.get?) (some (net.clock + 2147483648000000))
        net.pollFaults net).clock) := by
    decide +kernel
  obtain ⟨-, hearly⟩ := pollReadable_early_iff hknown 2147483648000000 { net }
  exact ⟨hnone, Nat.le_of_not_lt fun hlt => hleft (hearly.1 ⟨hnone, hlt⟩).2.1⟩

/-- A wait for a little longer than the longest poll ends in vain when that is over. -/
theorem pollReadable_early :
    let net : Network := { links := [{}] }
    (lone.pollReadable [⟨0⟩] (some 2147483648000) { net }).1 = .ok none ∧
      (lone.pollReadable [⟨0⟩] (some 2147483648000) { net }).2.net.now = 2147483647000 := by
  decide +kernel

/-- Half a microsecond is not waited for at all. -/
example :
    let net : Network := { links := [{}] }
    (lone.pollReadableFor [⟨0⟩] (some 500) { net }).1 = .ok none ∧
      (lone.pollReadableFor [⟨0⟩] (some 500) { net }).2.net.clock = 0 := by
  decide +kernel

end Readable

end Registry

end PipelineWorker
