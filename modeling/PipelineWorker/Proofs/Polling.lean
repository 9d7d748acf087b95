/-
Waiting for a connection to become ready.

* `waited_pollReadable` — a wait lets time pass and uses up faults of polls; what is still to come on
  the links stays;
* `pollReadable_single` — without a deadline, a wait for one connection ends with that connection.
-/
import PipelineWorker.Proofs.Registry

namespace PipelineWorker

/-- What both ends of a link see of it stays, apart from when it arrives. -/
structure Link.Same (l l' : Link) : Prop where
  coming : l'.coming = l.coming
  ending : l'.ending = l.ending
  sink : l'.sink = l.sink
  sent : l'.sent = l.sent
  readTimeout : l'.readTimeout = l.readTimeout
  /-- Nothing fails that would not have failed. -/
  failures : ∀ e, .failure e ∈ l'.arrivals → .failure e ∈ l.arrivals

namespace Link

theorem Same.refl (l : Link) : Same l l := ⟨rfl, rfl, rfl, rfl, rfl, fun _ he => he⟩

theorem Same.trans {l l' l'' : Link} (h : Same l l') (h' : Same l' l'') : Same l l'' :=
  ⟨h'.coming.trans h.coming, h'.ending.trans h.ending, h'.sink.trans h.sink,
    h'.sent.trans h.sent, h'.readTimeout.trans h.readTimeout,
    fun e he => h.failures e (h'.failures e he)⟩

theorem Same.isClean {l l' : Link} (h : Same l l') (hclean : l.IsClean) : l'.IsClean :=
  fun e he => hclean e (h.failures e he)

/-- The close that ends a silent link was to be expected. -/
theorem same_closeIfSilent (now : Nat) (l : Link) : Same l (l.closeIfSilent now) := by
  rw [closeIfSilent]
  split
  · rename_i h
    have hold : l.arrivals = [] := by rw [arrivals, h, List.map_nil]
    have hnew : (l.feedOne now 0 .close).arrivals = [.close] := by
      rw [arrivals, feedOne, h]
      rfl
    refine ⟨?_, ?_, rfl, rfl, rfl, fun e he => ?_⟩
    · rw [coming, coming, hold, hnew]
      rfl
    · rw [ending, ending, hold, hnew]
      rfl
    · rw [hnew] at he
      cases List.mem_singleton.1 he
  · exact .refl l

end Link

/-- A fault after which a poll is made again. -/
def PollFault.IsNoise (fault : PollFault) : Prop :=
  fault.isInterruption = true ∨ fault.isSpurious = true

/-- A failure is passed over only as an interruption. -/
theorem PollFault.isNoise_failure_iff {e : Errno} {after : Nat} :
    (PollFault.failure e after).IsNoise ↔ e.kind = .interrupted := by
  rw [IsNoise, isInterruption, isSpurious, decide_eq_true_eq]
  exact or_iff_left Bool.false_ne_true

namespace Network

/-- From `net` to `net'` the worker only waited. -/
structure Waited (net net' : Network) : Prop where
  listeners : net'.listeners = net.listeners
  count : net'.links.length = net.links.length
  faults : net'.pollFaults <:+ net.pollFaults
  links : ∀ i, (net.link i).Same (net'.link i)

theorem Waited.refl (net : Network) : Waited net net :=
  ⟨rfl, rfl, List.suffix_refl _, fun _ => .refl _⟩

theorem Waited.trans {a b c : Network} (h : Waited a b) (h' : Waited b c) : Waited a c :=
  ⟨h'.listeners.trans h.listeners, h'.count.trans h.count, h'.faults.trans h.faults,
    fun i => (h.links i).trans (h'.links i)⟩

theorem Waited.passes {net net' : Network} (h : Waited net net') : net.Passes net' :=
  ⟨Nat.le_of_eq h.count.symm, fun i _ => (h.links i).readTimeout⟩

theorem waited_setLink {net : Network} {i : Nat} {l : Link} (h : (net.link i).Same l) :
    Waited net (net.setLink i l) := by
  refine ⟨rfl, length_setLink .., List.suffix_refl _, fun j => ?_⟩
  exact forall_link_setLink (P := fun j l => (net.link j).Same l) h (fun j => .refl _) j

theorem waited_closeSilent (watched : List Nat) (net : Network) :
    Waited net (net.closeSilent watched) := by
  induction watched generalizing net with
  | nil => exact .refl net
  | cons i rest ih =>
    exact (waited_setLink (Link.same_closeIfSilent net.now (net.link i))).trans (ih _)

theorem waited_pass (t : Nat) (net : Network) : Waited net (net.pass t) :=
  ⟨rfl, rfl, List.suffix_refl _, fun _ => .refl _⟩

theorem waited_sleep (t : Nat) (net : Network) : Waited net (net.sleep t) :=
  ⟨rfl, rfl, List.suffix_refl _, fun _ => .refl _⟩

theorem waited_await (watched : List Nat) (ms : Option Nat) (net : Network) :
    Waited net (net.await watched ms).2 := by
  unfold await
  split
  · exact waited_pass ..
  · split
    · exact waited_pass ..
    · exact waited_sleep ..
  · exact waited_sleep ..
  · exact waited_closeSilent watched net

/-- A poll only waits. -/
theorem waited_poll {watched : List Nat} {ms : Option Nat} {net net' : Network}
    {answer : PollAnswer} (hp : net.poll watched ms = (answer, net')) : Waited net net' := by
  have hfaults {f : PollFault} {faults : List PollFault} {after : Nat}
      (h : net.pollFaults = f :: faults) :
      Waited net { net.interrupted watched ms after with pollFaults := faults } :=
    ⟨rfl, rfl, by rw [h]; exact List.suffix_cons f faults, fun _ => .refl _⟩
  rw [poll] at hp
  split at hp
  · obtain rfl := congrArg Prod.snd hp
    exact hfaults ‹_›
  · obtain rfl := congrArg Prod.snd hp
    exact hfaults ‹_›
  · obtain rfl := congrArg Prod.snd hp
    exact waited_await watched ms net

/-- A poll tells what is ready once its faults are used up. -/
theorem poll_ready {watched : List Nat} {ms : Option Nat} {net net' : Network}
    {ready : List Nat} (hp : net.poll watched ms = (.ready ready, net')) :
    net.await watched ms = (ready, net') ∧ net'.pollFaults = [] := by
  rw [poll] at hp
  split at hp
  · cases hp
  · cases hp
  · rename_i hf
    simp only [Prod.mk.injEq, PollAnswer.ready.injEq] at hp
    obtain ⟨rfl, rfl⟩ := hp
    have hs := (waited_await watched ms net).faults
    rw [hf] at hs
    exact ⟨rfl, List.suffix_nil.1 hs⟩

/-- A poll fails with the first of its faults. -/
theorem poll_failure {watched : List Nat} {ms : Option Nat} {net net' : Network} {e : Errno}
    (hp : net.poll watched ms = (.failure e, net')) :
    ∃ after, .failure e after ∈ net.pollFaults := by
  rw [poll] at hp
  split at hp
  · rename_i e' after faults hf
    simp only [Prod.mk.injEq, PollAnswer.failure.injEq] at hp
    rw [hf, hp.1]
    exact ⟨after, List.mem_cons_self⟩
  · cases hp
  · cases hp

/-- The polls do not fail, though they may be interrupted or report too much. -/
def PollsFine (net : Network) : Prop := ∀ fault ∈ net.pollFaults, fault.IsNoise

theorem PollsFine.of_suffix {net net' : Network} (h : net.PollsFine)
    (hs : net'.pollFaults <:+ net.pollFaults) : net'.PollsFine :=
  fun fault hf => h fault (hs.subset hf)

/-- Polls go on not to fail. -/
theorem PollsFine.poll {watched : List Nat} {ms : Option Nat} {net net' : Network}
    {answer : PollAnswer} (h : net.PollsFine) (hp : net.poll watched ms = (answer, net')) :
    net'.PollsFine :=
  h.of_suffix (waited_poll hp).faults

/-- The earliest item has come as soon as something has. -/
theorem earliest?_le_iff {watched : List Nat} {net : Network} {later : Nat} :
    (net.earliest? watched).any (· ≤ later) = true ↔
      ∃ i ∈ watched, (net.link i).isReady later = true := by
  constructor
  · intro h
    rw [Option.any_eq_true] at h
    obtain ⟨t, ht, hle⟩ := h
    obtain ⟨i, hi, htime⟩ := List.mem_filterMap.1 (List.min?_mem ht)
    exact ⟨i, hi, by rw [Link.isReady, htime, Option.any_some, hle]⟩
  · rintro ⟨i, hi, hr⟩
    rw [Link.isReady, Option.any_eq_true] at hr
    obtain ⟨t, ht, hle⟩ := hr
    have hmem : t ∈ watched.filterMap fun i => (net.link i).nextTime? :=
      List.mem_filterMap.2 ⟨i, hi, ht⟩
    cases he : net.earliest? watched with
    | none =>
      rw [earliest?, List.min?_eq_none_iff] at he
      rw [he] at hmem
      cases hmem
    | some t' =>
      have hmin : t' ≤ t := (List.le_min?_iff he).1 (Nat.le_refl t') t hmem
      rw [Option.any_some, decide_eq_true_eq]
      exact Nat.le_trans hmin (of_decide_eq_true hle)

/-- The link with the earliest item is ready when that has come. -/
theorem exists_mem_readyAmong {watched : List Nat} {net : Network} {t : Nat}
    (he : net.earliest? watched = some t) :
    ∃ i ∈ watched, i ∈ (net.passUntil t).readyAmong watched := by
  have hcome : (net.earliest? watched).any (· ≤ (net.passUntil t).now) = true := by
    rw [he, Option.any_some, decide_eq_true_eq, now_passUntil]
    exact Nat.le_max_right ..
  obtain ⟨i, hi, hr⟩ := earliest?_le_iff.1 hcome
  exact ⟨i, hi, List.mem_filter.2 ⟨hi, hr⟩⟩

/-- Without a deadline something is ready in the end, or everything is closed. -/
theorem exists_contains_await {watched : List Nat} (hw : watched ≠ []) (net : Network) :
    ∃ i ∈ watched, (net.await watched none).1.contains i = true := by
  unfold await
  cases he : net.earliest? watched with
  | none =>
    obtain ⟨i, hi⟩ := List.exists_mem_of_ne_nil watched hw
    exact ⟨i, hi, List.contains_iff_mem.2 hi⟩
  | some t =>
    obtain ⟨i, hi, hmem⟩ := exists_mem_readyAmong he
    exact ⟨i, hi, List.contains_iff_mem.2 hmem⟩

end Network

namespace Registry

/-- Polling again and again only waits. -/
theorem waited_pollWatched (watched : List Connection) (deadline : Option Nat) (net : Network) :
    Network.Waited net (pollWatched watched deadline net).2 := by
  fun_induction pollWatched watched deadline net with
  | case1 net ready net' hp => exact Network.waited_poll hp
  | case2 net e net' hp he ih => exact (Network.waited_poll hp).trans ih
  | case3 net e net' hp he => exact Network.waited_poll hp
  | case4 net net' hp hd => exact Network.waited_poll hp
  | case5 net net' hp hd ih => exact (Network.waited_poll hp).trans ih

/-- A wait lets time pass, and no more. -/
theorem waited_pollReadableFor (ids : List ConnectionId) (timeout : Option Nat) (r : Registry)
    (env : Environment) :
    Network.Waited env.net (r.pollReadableFor ids timeout env).2.net ∧
      r.pollReadableFor ids timeout env
        = ((r.pollReadableFor ids timeout env).1,
          { env with net := (r.pollReadableFor ids timeout env).2.net }) := by
  rw [pollReadableFor]
  split
  · exact ⟨.refl _, rfl⟩
  · exact ⟨waited_pollWatched .., rfl⟩

theorem waited_pollReadable (ids : List ConnectionId) (timeout : Option Nat) (r : Registry)
    (env : Environment) :
    Network.Waited env.net (r.pollReadable ids timeout env).2.net ∧
      r.pollReadable ids timeout env
        = ((r.pollReadable ids timeout env).1,
          { env with net := (r.pollReadable ids timeout env).2.net }) :=
  waited_pollReadableFor ..

/-- Without a deadline no poll ends with nobody to read from. -/
theorem pollWatched_ne_none {watched : List Connection} (hw : watched ≠ []) (net : Network) :
    (pollWatched watched none net).1 ≠ .ok none := by
  generalize hd : (none : Option Nat) = deadline
  fun_induction pollWatched watched deadline net with
  | case1 net ready net' hp =>
    -- without a deadline a poll waits until something is ready
    subst hd
    obtain ⟨hawait, -⟩ := Network.poll_ready hp
    have hlinks : watched.map (·.link) ≠ [] := fun h => hw (List.map_eq_nil_iff.1 h)
    obtain ⟨i, hi, hready⟩ := Network.exists_contains_await hlinks net
    obtain ⟨c, hc, rfl⟩ := List.mem_map.1 hi
    rw [show net.await (watched.map (·.link)) none = (ready, net') from hawait] at hready
    -- so the search among the watched connections finds one
    intro h
    have hnone := Option.map_eq_none_iff.1 (Except.ok.inj h)
    exact List.find?_eq_none.1 hnone c hc hready
  | case2 net e net' hp he ih => exact ih
  | case3 net e net' hp he =>
    intro h
    cases h
  | case4 net net' hp hdl =>
    -- no deadline, so it cannot have passed
    rw [← hd] at hdl
    exact absurd hdl Bool.false_ne_true
  | case5 net net' hp hdl ih => exact ih

/-- Where polls do not fail, waiting for one connection ends with that connection. -/
theorem pollWatched_single {c : Connection} {net : Network} (h : net.PollsFine) :
    (pollWatched [c] none net).1 = .ok (some c.id) ∧
      (pollWatched [c] none net).2.pollFaults = [] := by
  generalize hw : [c] = watched
  generalize hd : (none : Option Nat) = deadline
  fun_induction pollWatched watched deadline net with
  | case1 net ready net' hp =>
    -- the poll ends; the one connection that it was about is ready
    subst hw hd
    obtain ⟨hawait, hfaults⟩ := Network.poll_ready hp
    have hready : (net.await [c.link] none).1.contains c.link = true := by
      obtain ⟨i, hi, hready⟩ :=
        Network.exists_contains_await (List.cons_ne_nil c.link []) net
      rwa [List.mem_singleton.1 hi] at hready
    rw [show net.await [c.link] none = (ready, net') from hawait] at hready
    have hfirst : [c].find? (fun d => ready.contains d.link) = some c :=
      List.find?_cons_of_pos hready
    refine ⟨?_, hfaults⟩
    rw [firstReady, hfirst]
    rfl
  | case2 net e net' hp he ih => exact ih (h.poll hp)
  | case3 net e net' hp he =>
    -- a failure for good, which is a fault that is not fine
    obtain ⟨after, hfault⟩ := Network.poll_failure hp
    exact absurd (PollFault.isNoise_failure_iff.1 (h _ hfault)) he
  | case4 net net' hp hdl =>
    -- no deadline, so it cannot have passed
    rw [← hd] at hdl
    exact absurd hdl Bool.false_ne_true
  | case5 net net' hp hdl ih => exact ih (h.poll hp)

/-- **Where polls do not fail, waiting for one connection ends with that connection.** -/
theorem pollReadable_single {id : ConnectionId} {r : Registry} {c : Connection}
    {env : Environment} (hc : r.get? id = some c) (h : env.net.PollsFine) :
    (r.pollReadable [id] none env).1 = .ok (some id) ∧
      (r.pollReadable [id] none env).2.net.pollFaults = [] := by
  have hw : [id].filterMap r.get? = [c] := by rw [List.filterMap_cons_some hc, List.filterMap_nil]
  rw [pollReadable, pollReadableFor, hw, Option.map_none, Option.map_none]
  rw [← id_of_get? hc]
  exact pollWatched_single h

end Registry

end PipelineWorker
