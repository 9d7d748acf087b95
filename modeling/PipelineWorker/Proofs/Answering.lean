/-
What a wait for several connections answers.

A poll tells the links that are ready when it ends, and of the connections on these links the first
one in the order that was asked for is the answer.

* `mem_await_iff` — the links that a poll tells are those that are ready when it ends;
* `pollReadable_answers` — the answer is the first of the numbers whose connection can be read.
-/
import PipelineWorker.Proofs.Watching

namespace PipelineWorker

/-! ### The links that a poll tells -/

namespace Network

variable {watched : List Nat} {net : Network} {i : Nat}

theorem isReady_closeIfSilent {now : Nat} {l : Link} (hs : l.Settled now)
    (h : l.incoming = [] ∨ l.isReady now = true) : (l.closeIfSilent now).isReady now = true := by
  rw [Link.closeIfSilent]
  split
  · rename_i hnil
    rcases hs with hlast | ⟨i, hi, -⟩
    · rw [Link.isReady_iff]
      refine ⟨⟨max now l.lastTime + 0, .close⟩, [], ?_, ?_⟩
      · rw [Link.feedOne, hnil]
        rfl
      · show max now l.lastTime + 0 ≤ now
        omega
    · rw [hnil] at hi
      cases hi
  · rename_i hne
    exact h.resolve_left hne

/-- A link that is closed because nothing was to come on it is ready. -/
theorem isReady_closeSilent (hs : net.Settled) (hlen : i < net.links.length)
    (hnone : (net.link i).incoming = [] ∨ (net.link i).isReady net.now = true)
    (hi : i ∈ watched ∨ (net.link i).isReady net.now = true) :
    ((net.closeSilent watched).link i).isReady net.now = true := by
  -- The induction follows the links that are closed; the one in question is closed at its turn.
  induction watched generalizing net with
  | nil => exact hi.resolve_left List.not_mem_nil
  | cons j rest ih =>
    let next := net.setLink j ((net.link j).closeIfSilent net.now)
    have hnext : next.Settled := hs.setLink j (Nat.le_refl _) (hs j).closeIfSilent
    have hcount : i < next.links.length := by
      rw [length_setLink]
      exact hlen
    show ((next.closeSilent rest).link i).isReady next.now = true
    by_cases hij : i = j
    · subst hij
      have hready : (next.link i).isReady next.now = true := by
        rw [link_setLink hlen]
        exact isReady_closeIfSilent (hs i) hnone
      exact ih hnext hcount (.inr hready) (.inr hready)
    · have hsame : next.link i = net.link i := link_setLink_ne hij _
      refine ih hnext hcount ?_ ?_
      · rw [hsame]
        exact hnone
      · rw [hsame]
        exact hi.imp_left fun hmem => List.mem_of_ne_of_mem hij hmem

/-- **The links that a wait tells are those that are ready when it ends.** -/
theorem mem_await_iff (hs : net.Settled) (hi : i ∈ watched) (hlen : i < net.links.length)
    (limit : Option Nat) : i ∈ (net.await watched limit).1 ↔
      ((net.await watched limit).2.link i).isReady (net.await watched limit).2.now = true := by
  have hamong (n : Network) : i ∈ n.readyAmong watched ↔ (n.link i).isReady n.now = true :=
    ⟨fun h => (List.mem_filter.1 h).2, fun h => List.mem_filter.2 ⟨hi, h⟩⟩
  have hsilent {later : Nat} (h : ¬ (net.earliest? watched).any (· ≤ later) = true) :
      i ∈ ([] : List Nat) ↔ (net.link i).isReady later = true :=
    ⟨(fun hmem => nomatch hmem), fun hr => absurd (earliest?_le_iff.2 ⟨i, hi, hr⟩) h⟩
  unfold await
  cases he : net.earliest? watched with
  | none =>
    cases limit with
    | some ms => exact hsilent (by rw [he]; exact Bool.false_ne_true)
    | none =>
      have hempty : (net.link i).incoming = [] := by
        by_contra hne
        obtain ⟨t, rest, hcons⟩ := List.exists_cons_of_ne_nil hne
        have hr : (net.link i).isReady t.time = true :=
          Link.isReady_iff.2 ⟨t, rest, hcons, Nat.le_refl _⟩
        have hsome := earliest?_le_iff.2 ⟨i, hi, hr⟩
        rw [he] at hsome
        cases hsome
      dsimp only
      rw [now_closeSilent]
      exact ⟨fun _ => isReady_closeSilent hs hlen (.inl hempty) (.inl hi), fun _ => hi⟩
  | some t =>
    cases limit with
    | none => exact hamong _
    | some ms =>
      dsimp only
      split
      · exact hamong _
      · rename_i hlate
        exact hsilent (by rw [he, Option.any_some, decide_eq_true_eq]; exact hlate)

end Network

namespace Registry

section Readable

variable {ids : List ConnectionId} {r : Registry} {env : Environment}

/-! ### The answer of a wait -/

/-- The connection of that number has something to receive: bytes, a close or a failure. -/
def Readable (r : Registry) (net : Network) (id : ConnectionId) : Prop :=
  ∃ c, r.get? id = some c ∧ (net.link c.link).isReady net.now = true

/-- The answer is the first of the numbers whose connection is on a ready link. -/
theorem of_firstReady {ready : List Nat} {id : ConnectionId}
    (h : firstReady (ids.filterMap r.get?) ready = some id) :
    ∃ before after c, ids = before ++ id :: after ∧ r.get? id = some c ∧ c.link ∈ ready ∧
      ∀ j ∈ before, ∀ d, r.get? j = some d → d.link ∉ ready := by
  obtain ⟨c, hfind, rfl⟩ := Option.map_eq_some_iff.1 h
  obtain ⟨hready, cs, ds, hsplit, hcs⟩ := List.find?_eq_some_iff_append.1 hfind
  obtain ⟨first, rest, rfl, rfl, hrest⟩ := List.filterMap_eq_append_iff.1 hsplit
  obtain ⟨unknown, i, after, rfl, hunknown, hi, rfl⟩ := List.filterMap_eq_cons_iff.1 hrest
  obtain rfl := id_of_get? hi
  refine ⟨first ++ unknown, after, c, (List.append_assoc ..).symm, hi,
    List.contains_iff_mem.1 hready, fun j hj d hd hmem => ?_⟩
  rcases List.mem_append.1 hj with hj | hj
  · have hnot := hcs d (List.mem_filterMap.2 ⟨j, hj, hd⟩)
    rw [List.contains_iff_mem.2 hmem] at hnot
    cases hnot
  · rw [hunknown j hj] at hd
    cases hd

/-- The polls of a wait pass these faults over. -/
def Ignores (ids : List ConnectionId) (timeout : Option Nat) (r : Registry) (env : Environment)
    (faults : List PollFault) : Prop :=
  PassedOver (ids.filterMap r.get?) (timeout.map (env.net.clock + ·)) faults env.net

/-- What a wait finds when the polls have met the faults `before` and are to meet the `rest`. -/
def meeting (ids : List ConnectionId) (timeout : Option Nat) (r : Registry) (env : Environment)
    (before rest : List PollFault) : Environment :=
  { env with
    net := { disturbed (ids.filterMap r.get?) (timeout.map (env.net.clock + ·)) before env.net with
      pollFaults := rest } }

/-- What a wait for connections answers, with the faults of the polls that it meets. -/
structure Answers (ids : List ConnectionId) (timeout : Option Nat) (r : Registry)
    (env : Environment) : Prop where
  /-- A number that is told is that of the first of the connections that can be read. -/
  first : ∀ id env', r.pollReadableFor ids timeout env = (.ok (some id), env') →
    ∃ before after, ids = before ++ id :: after ∧ r.Readable env'.net id ∧
      ∀ j ∈ before, ¬ r.Readable env'.net j
  /-- None is told where none can be read, or without a look at them when the time is over. -/
  vain : ∀ env', r.pollReadableFor ids timeout env = (.ok none, env') →
    (∀ id ∈ ids, ¬ r.Readable env'.net id) ∨
      ∃ t after, timeout = some t ∧ env.net.clock + t ≤ env'.net.clock ∧
        .spurious after ∈ env.net.pollFaults
  /-- An error is the first fault that is more than noise. -/
  failed : ∀ e env', r.pollReadableFor ids timeout env = (.error e, env') →
    ∃ before f after rest, env.net.pollFaults = before ++ .failure f after :: rest ∧
      Ignores ids timeout r env before ∧ f.kind ≠ .interrupted ∧ e = .socket (.number f) ∧
      env' = meeting ids timeout r env (before ++ [.failure f after]) rest
  /-- A failure for good is always told. -/
  reported : (∃ id ∈ ids, (r.get? id).isSome = true) → ∀ before f after rest,
    env.net.pollFaults = before ++ .failure f after :: rest → Ignores ids timeout r env before →
      f.kind ≠ .interrupted → r.pollReadableFor ids timeout env
        = (.error (.socket (.number f)),
          meeting ids timeout r env (before ++ [.failure f after]) rest)
  /-- Interruptions and events of no meaning never are: the wait goes on for what is left of its
  time. -/
  unnoticed : (∃ id ∈ ids, (r.get? id).isSome = true) → ∀ before rest,
    env.net.pollFaults = before ++ rest → Ignores ids timeout r env before →
      let later := meeting ids timeout r env before rest
      r.pollReadableFor ids timeout env
        = r.pollReadableFor ids (timeout.map fun t => env.net.clock + t - later.net.clock) later
  /-- Only when the time is over, an event of no meaning ends the wait. -/
  expired : (∃ id ∈ ids, (r.get? id).isSome = true) → ∀ t before after rest, timeout = some t →
    env.net.pollFaults = before ++ .spurious after :: rest → Ignores ids timeout r env before →
      let later := meeting ids timeout r env (before ++ [.spurious after]) rest
      env.net.clock + t ≤ later.net.clock → r.pollReadableFor ids timeout env = (.ok none, later)
  /-- Faults that come at once take no time, nor do any where there is none. -/
  timeless : ∀ before rest, timeout = some 0 ∨ (∀ fault ∈ before, fault.after = 0) →
    meeting ids timeout r env before rest = { env with net := { env.net with pollFaults := rest } }
  /-- Where no number is registered, nothing is polled. -/
  unregistered : (∀ id ∈ ids, r.get? id = none) →
    r.pollReadableFor ids timeout env = (.ok none, env)

theorem meeting_of_timeless {timeout : Option Nat} {before : List PollFault}
    (h : timeout = some 0 ∨ ∀ fault ∈ before, fault.after = 0) (rest : List PollFault) :
    meeting ids timeout r env before rest
      = { env with net := { env.net with pollFaults := rest } } := by
  rw [meeting, disturbed_of_timeless]
  refine h.imp_left ?_
  rintro rfl
  exact decide_eq_true (Nat.le_refl _)

/-- Of the connections that a wait is for, those on the links that it tells can be read then. -/
theorem Upright.readable_iff (h : Upright r env) {id : ConnectionId} {c : Connection}
    (hid : id ∈ ids) (hc : r.get? id = some c) (deadline : Option Nat) (faults : List PollFault) :
    let last := disturbed (ids.filterMap r.get?) deadline faults env.net
    c.link ∈ (undisturbed (ids.filterMap r.get?) deadline last).1 ↔
      r.Readable (undisturbed (ids.filterMap r.get?) deadline last).2 id := by
  intro last
  have hlinks : last.links = env.net.links := links_disturbed ..
  have hsettled : Network.Settled { last with pollFaults := [] } :=
    h.settled.mono hlinks (Network.now_le_of_clock_le (clock_le_disturbed ..))
  have hmem : c.link ∈ (ids.filterMap r.get?).map (·.link) :=
    List.mem_map_of_mem (List.mem_filterMap.2 ⟨id, hid, hc⟩)
  have hlen : c.link < last.links.length := by
    rw [hlinks]
    exact (h.sound.get? hc).linked
  rw [undisturbed, Network.mem_await_iff hsettled hmem hlen]
  refine ⟨fun hr => ⟨c, hc, hr⟩, fun ⟨d, hd, hr⟩ => ?_⟩
  obtain rfl := Option.some.inj (hc.symm.trans hd)
  exact hr

theorem pollReadableFor_of_unregistered (h : ∀ id ∈ ids, r.get? id = none) (timeout : Option Nat) :
    r.pollReadableFor ids timeout env = (.ok none, env) := by
  rw [pollReadableFor, List.filterMap_eq_nil_iff.2 h]

theorem Upright.first_of_pollReadableFor (h : Upright r env)
    (hk : ∃ id ∈ ids, (r.get? id).isSome = true) {timeout : Option Nat} {id : ConnectionId}
    {env' : Environment} (hx : r.pollReadableFor ids timeout env = (.ok (some id), env')) :
    ∃ before after, ids = before ++ id :: after ∧ r.Readable env'.net id ∧
      ∀ j ∈ before, ¬ r.Readable env'.net j := by
  have hpolled := pollReadableFor_polled hk timeout env
  rw [hx] at hpolled
  generalize hsome : Except.ok (some id) = x at hpolled
  generalize env'.net = net' at hpolled ⊢
  cases hpolled with
  | answered ignored =>
    obtain ⟨before, after, c, hids, hc, hready, hbefore⟩ :=
      of_firstReady (Except.ok.inj hsome).symm
    have hid : id ∈ ids := by rw [hids]; simp
    refine ⟨before, after, hids, (h.readable_iff hid hc _ _).1 hready, fun j hj hread => ?_⟩
    have hjd : j ∈ ids := by rw [hids]; exact List.mem_append_left _ hj
    obtain ⟨d, hd, hr⟩ := hread
    exact hbefore j hj d hd ((h.readable_iff hjd hd _ _).2 ⟨d, hd, hr⟩)
  | expired => cases hsome
  | failed => cases hsome

theorem Upright.vain_of_pollReadableFor (h : Upright r env)
    (hk : ∃ id ∈ ids, (r.get? id).isSome = true) {timeout : Option Nat} {env' : Environment}
    (hx : r.pollReadableFor ids timeout env = (.ok none, env')) :
    (∀ id ∈ ids, ¬ r.Readable env'.net id) ∨
      ∃ t after, timeout = some t ∧ env.net.clock + t ≤ env'.net.clock ∧
        .spurious after ∈ env.net.pollFaults := by
  have hpolled := pollReadableFor_polled hk timeout env
  rw [hx] at hpolled
  generalize hnone : Except.ok none = x at hpolled
  generalize env'.net = net' at hpolled ⊢
  cases hpolled with
  | answered ignored =>
    refine .inl fun id hid hread => ?_
    obtain ⟨c, hc, hready⟩ := hread
    have hwatched : c ∈ ids.filterMap r.get? := List.mem_filterMap.2 ⟨id, hid, hc⟩
    refine firstReady_eq_none_iff.1 (Except.ok.inj hnone).symm c hwatched ?_
    exact (h.readable_iff hid hc _ _).2 ⟨c, hc, hready⟩
  | @expired before after rest split ignored passed =>
    cases timeout with
    | none => cases passed
    | some t =>
      rw [Option.map_some, Option.any_some, decide_eq_true_eq] at passed
      refine .inr ⟨t, after, rfl, passed, ?_⟩
      rw [split]
      exact List.mem_append_right _ List.mem_cons_self
  | failed => cases hnone

theorem failed_of_pollReadableFor (hk : ∃ id ∈ ids, (r.get? id).isSome = true)
    {timeout : Option Nat} {e : NetError} {env' : Environment}
    (hx : r.pollReadableFor ids timeout env = (.error e, env')) :
    ∃ before f after rest, env.net.pollFaults = before ++ .failure f after :: rest ∧
      Ignores ids timeout r env before ∧ f.kind ≠ .interrupted ∧ e = .socket (.number f) ∧
      env' = meeting ids timeout r env (before ++ [.failure f after]) rest := by
  have hpolled := pollReadableFor_polled hk timeout env
  have henv := congrArg Prod.snd (waited_pollReadableFor ids timeout r env).2
  rw [hx] at hpolled henv
  generalize herror : Except.error e = x at hpolled
  generalize hnet : env'.net = net' at hpolled henv
  cases hpolled with
  | answered => cases herror
  | expired => cases herror
  | @failed before f after rest split ignored final =>
    cases herror
    exact ⟨before, f, after, rest, split, ignored, final, rfl, henv⟩

/-- What has been passed over has taken its time, and the wait goes on. -/
theorem pollReadableFor_of_ignores (hk : ∃ id ∈ ids, (r.get? id).isSome = true)
    {timeout : Option Nat} {before rest : List PollFault}
    (hf : env.net.pollFaults = before ++ rest) (h : Ignores ids timeout r env before) :
    r.pollReadableFor ids timeout env
      = ((pollWatched (ids.filterMap r.get?) (timeout.map (env.net.clock + ·))
          (meeting ids timeout r env before rest).net).1,
        { env with
          net := (pollWatched (ids.filterMap r.get?) (timeout.map (env.net.clock + ·))
            (meeting ids timeout r env before rest).net).2 }) := by
  have hnet : env.net = { env.net with pollFaults := before ++ rest } := by rw [← hf]
  have hpoll : pollWatched (ids.filterMap r.get?) (timeout.map (env.net.clock + ·)) env.net
      = pollWatched (ids.filterMap r.get?) (timeout.map (env.net.clock + ·))
        (meeting ids timeout r env before rest).net := by
    conv_lhs => rw [hnet]
    exact pollWatched_of_passedOver h
  rw [pollReadableFor_of_registered hk, hpoll]

/-- Deadlines that have passed are all the same. -/
theorem pollWatched_of_passed {watched : List Connection} {d d' : Nat} {net : Network}
    (h : d ≤ net.clock) (h' : d' ≤ net.clock) :
    pollWatched watched (some d) net = pollWatched watched (some d') net := by
  have hsame {net net' : Network} {answer : PollAnswer} (h : d ≤ net.clock) (h' : d' ≤ net.clock)
      (hp : net.poll (watched.map (·.link)) (some (pollWindow d net.clock)) = (answer, net')) :
      net.poll (watched.map (·.link)) ((some d').map fun d => pollWindow d net.clock)
          = (answer, net') ∧ net.clock ≤ net'.clock := by
    have hwindow : pollWindow d' net.clock = pollWindow d net.clock := by
      rw [pollWindow, pollWindow, Nat.sub_eq_zero_of_le h, Nat.sub_eq_zero_of_le h']
    have hle := net.clock_le_poll (watched.map (·.link)) (some (pollWindow d net.clock))
    rw [hp] at hle
    rw [Option.map_some, hwindow]
    exact ⟨hp, hle⟩
  generalize hsome : some d = limit
  -- The induction follows the faults, which leave both deadlines behind.
  fun_induction pollWatched watched limit net with
  | case1 net ready net' hp =>
    subst hsome
    rw [pollWatched_eq, (hsame h h' hp).1]
  | case2 net e net' hp he ih =>
    -- behind an interruption both deadlines have passed still
    subst hsome
    obtain ⟨hpoll, hle⟩ := hsame h h' hp
    rw [pollWatched_eq watched (some d') net, hpoll]
    exact (ih (Nat.le_trans h hle) (Nat.le_trans h' hle)).trans (if_pos he).symm
  | case3 net e net' hp he =>
    subst hsome
    rw [pollWatched_eq, (hsame h h' hp).1]
    exact (if_neg he).symm
  | case4 net net' hp hd =>
    -- woken for nothing; one deadline has passed, and so has the other
    subst hsome
    obtain ⟨hpoll, hle⟩ := hsame h h' hp
    rw [pollWatched_eq, hpoll]
    exact (if_pos (decide_eq_true (Nat.le_trans h' hle))).symm
  | case5 net net' hp hd ih =>
    -- it has passed already, so the poll does not go on
    subst hsome
    exact absurd (decide_eq_true (Nat.le_trans h (hsame h h' hp).2)) hd

/-- What has been passed over has taken its time, and the wait goes on for the rest of it. -/
theorem pollReadableFor_of_ignores_resumed (hk : ∃ id ∈ ids, (r.get? id).isSome = true)
    {timeout : Option Nat} {before rest : List PollFault}
    (hf : env.net.pollFaults = before ++ rest) (h : Ignores ids timeout r env before) :
    let later := meeting ids timeout r env before rest
    r.pollReadableFor ids timeout env
      = r.pollReadableFor ids (timeout.map fun t => env.net.clock + t - later.net.clock) later := by
  intro later
  have hresumed : pollWatched (ids.filterMap r.get?) (timeout.map (env.net.clock + ·)) later.net
      = pollWatched (ids.filterMap r.get?) ((timeout.map fun t =>
        env.net.clock + t - later.net.clock).map (later.net.clock + ·)) later.net := by
    cases timeout with
    | none => rfl
    | some t =>
      rw [Option.map_some, Option.map_some, Option.map_some]
      by_cases hpassed : env.net.clock + t ≤ later.net.clock
      · exact pollWatched_of_passed hpassed (by omega)
      · rw [Nat.add_sub_of_le (Nat.le_of_not_le hpassed)]
  rw [pollReadableFor_of_ignores hk hf h, pollReadableFor_of_registered hk, ← hresumed]
  rfl

/-- **Where the connections are sound and the links settled, a wait answers rightly.** -/
theorem Upright.answers (h : Upright r env) (ids : List ConnectionId) (timeout : Option Nat) :
    Answers ids timeout r env := by
  by_cases hk : ∃ id ∈ ids, (r.get? id).isSome = true
  · refine ⟨fun id env' => h.first_of_pollReadableFor hk, fun env' => h.vain_of_pollReadableFor hk,
      fun e env' => failed_of_pollReadableFor hk, fun _ before f after rest hf hover hfinal => ?_,
      fun _ before rest hf hover => ?_, fun _ t before after rest htime hf hover => ?_,
      fun before rest htime => meeting_of_timeless htime rest,
      fun hnone => pollReadableFor_of_unregistered hnone timeout⟩
    · rw [pollReadableFor_of_ignores hk hf hover, meeting, pollWatched_of_failure hfinal, meeting,
        disturbed_concat]
    · exact pollReadableFor_of_ignores_resumed hk hf hover
    · subst htime
      rw [meeting, disturbed_concat]
      intro later hpassed
      have hlate : ((some t).map (env.net.clock + ·)).any (· ≤ later.net.clock) = true :=
        decide_eq_true hpassed
      rw [pollReadableFor_of_ignores hk hf hover, meeting, pollWatched_of_spurious hlate]
  · have hnone : ∀ id ∈ ids, r.get? id = none := fun id hid =>
      Option.not_isSome_iff_eq_none.1 fun hsome => hk ⟨id, hid, hsome⟩
    have hvain : r.pollReadableFor ids timeout env = (.ok none, env) :=
      pollReadableFor_of_unregistered hnone timeout
    refine ⟨fun id env' hx => ?_, fun env' hx => .inl ?_, fun e env' hx => ?_,
      fun hk' => absurd hk' hk, fun hk' => absurd hk' hk, fun hk' => absurd hk' hk,
      fun before rest htime => meeting_of_timeless htime rest, fun _ => hvain⟩
    · rw [hvain] at hx
      cases hx
    · rintro id hid ⟨c, hc, -⟩
      rw [hnone id hid] at hc
      cases hc
    · rw [hvain] at hx
      cases hx

/-- **Whatever was done before, a wait for connections tells the first of them that can be read; of
the faults that the polls meet it tells those that are more than noise, and nothing else.** -/
theorem pollReadable_answers (acts : List Act) (world : Environment) (ids : List ConnectionId)
    (timeout : Option Nat) : Answers ids timeout (run acts world).1 (run acts world).2 :=
  (upright_run acts world).answers ids timeout

/-- A number that is not known, a connection that is silent, and polls that are disturbed. -/
example :
    let world : Environment :=
      { net := {
          listeners := [
            { addr := .unspecified, port := 1 },
            { addr := .unspecified, port := 2, script := [(3000, .close)] }] } }
    let here : Endpoint := ⟨.unspecified, "here"⟩
    let s := run [.add .peer here 1 none, .add .peer here 2 none,
      .addFaults [.spurious 700, .failure .intr 2000]] world
    (s.1.pollReadableFor [⟨7⟩, ⟨0⟩, ⟨1⟩, ⟨0⟩] none s.2).1 = .ok (some ⟨1⟩) := by
  decide +kernel

end Readable

end Registry

end PipelineWorker
