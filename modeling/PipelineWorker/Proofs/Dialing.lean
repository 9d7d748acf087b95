/-
Connecting.

`Network.answering` is the listener that answers those who connect to an address, if there is one.

* `dial_ok`, `dial_error` — a dial opens a link to that listener, or fails because there is none;
* `Connection.dial_ok` — a connection that was made carries what its listener sends, and nothing was
  read off it yet.
-/
import PipelineWorker.Proofs.Connection

namespace PipelineWorker

namespace Link

theorem arrivals_feed (now : Nat) (items : List (Nat × Arrival)) (l : Link) :
    (l.feed now items).arrivals = l.arrivals ++ items.map (·.2) := by
  induction items generalizing l with
  | nil => exact (List.append_nil _).symm
  | cons i items ih =>
    show ((l.feedOne now i.1 i.2).feed now items).arrivals = _
    rw [ih, arrivals, feedOne, List.map_append, List.append_assoc]
    rfl

/-- What arrives is no matter of sending, and leaves the options of the socket alone. -/
theorem feed_keeps (now : Nat) (items : List (Nat × Arrival)) (l : Link) :
    (l.feed now items).sink = l.sink ∧ (l.feed now items).sent = l.sent ∧
      (l.feed now items).readTimeout = l.readTimeout := by
  induction items generalizing l with
  | nil => exact ⟨rfl, rfl, rfl⟩
  | cons i items ih => exact ih (l.feedOne now i.1 i.2)

end Link

namespace Listener

/-- A new link to the listener. -/
def opened (l : Listener) (now : Nat) : Link := ({ sink := l.sink } : Link).feed now l.script

/-- What the listener sends, whenever it does. -/
def arrivals (l : Listener) : List Arrival := l.script.map (·.2)

@[simp] theorem arrivals_opened (l : Listener) (now : Nat) :
    (l.opened now).arrivals = l.arrivals := by
  rw [opened, Link.arrivals_feed]
  rfl

theorem sink_opened (l : Listener) (now : Nat) : (l.opened now).sink = l.sink :=
  (Link.feed_keeps ..).1

theorem sent_opened (l : Listener) (now : Nat) : (l.opened now).sent = [] :=
  (Link.feed_keeps ..).2.1

theorem readTimeout_opened (l : Listener) (now : Nat) : (l.opened now).readTimeout = none :=
  (Link.feed_keeps ..).2.2

end Listener

namespace Network

/-- The listener that answers those who connect there.  One that keeps silent is taken to have
answered if a poll reports an event of any kind meanwhile. -/
def answering (addr : Ipv4) (port : Port) (timeout : Option Nat) (n : Network) : Option Listener :=
  (n.listeners.find? fun l => l.addr = addr && l.port = port).filter fun l =>
    match l.welcome with
    | .accepted => true
    | .refused _ => false
    | .silence => timeout.any (0 < ·) &&
        (n.pollFaults.dropWhile PollFault.isInterruption).head?.any PollFault.isSpurious

/-- From `n` to `n'` nothing happened but that link `i` to `l` was opened. -/
structure Opened (l : Listener) (i : Nat) (n n' : Network) : Prop where
  number : i = n.links.length
  links : n'.links = n.links ++ [l.opened n.now]
  listeners : n'.listeners = n.listeners
  faults : n'.pollFaults <:+ n.pollFaults

theorem Opened.count {l : Listener} {i : Nat} {n n' : Network} (h : Opened l i n n') :
    n'.links.length = n.links.length + 1 := by
  rw [h.links, List.length_append, List.length_singleton]

theorem Opened.link {l : Listener} {i : Nat} {n n' : Network} (h : Opened l i n n') :
    n'.link i = l.opened n.now := by
  rw [Network.link, h.links, h.number, List.getD_eq_getElem?_getD, List.getElem?_concat_length,
    Option.getD_some]

theorem Opened.link_of_lt {l : Listener} {i j : Nat} {n n' : Network} (h : Opened l i n n')
    (hj : j < n.links.length) : n'.link j = n.link j := by
  rw [Network.link, Network.link, h.links, List.getD_eq_getElem?_getD,
    List.getD_eq_getElem?_getD, List.getElem?_append_left hj]

theorem opened_openLink (l : Listener) {n : Network} {faults : List PollFault}
    (hf : faults <:+ n.pollFaults) :
    (openLink l { n with pollFaults := faults }).1 = .ok n.links.length ∧
      Opened l n.links.length n (openLink l { n with pollFaults := faults }).2 :=
  ⟨rfl, rfl, rfl, rfl, hf⟩

/-- **A dial opens a link to the listener that answers.** -/
theorem dial_of_answering {addr : Ipv4} {port : Port} {timeout : Option Nat} {n : Network}
    {l : Listener} (h : n.answering addr port timeout = some l) :
    (n.dial addr port timeout).1 = .ok n.links.length ∧
      Opened l n.links.length n (n.dial addr port timeout).2 := by
  obtain ⟨hfind, hw⟩ := Option.filter_eq_some_iff.1 h
  rw [dial, hfind]
  cases hc : l.welcome with
  | accepted =>
    simp only [hc]
    exact opened_openLink l (List.suffix_refl n.pollFaults)
  | refused e =>
    rw [hc] at hw
    exact absurd hw Bool.false_ne_true
  | silence =>
    rw [hc, Bool.and_eq_true] at hw
    obtain ⟨ht, hs⟩ := hw
    match timeout, ht with
    | some (t + 1), _ =>
      -- The poll is asked again as long as it is interrupted; then it reports too much.
      obtain ⟨fault, hhead, hspurious⟩ := (Option.any_eq_true ..).1 hs
      obtain ⟨faults, hdrop⟩ := List.head?_eq_some_iff.1 hhead
      obtain ⟨after, rfl⟩ : ∃ after, fault = .spurious after := by
        cases fault with
        | failure => cases hspurious
        | spurious after => exact ⟨after, rfl⟩
      have hsuffix : faults <:+ n.pollFaults := by
        have hd := List.dropWhile_suffix (l := n.pollFaults) PollFault.isInterruption
        rw [hdrop] at hd
        exact (List.suffix_cons _ _).trans hd
      simp only [hc, awaitAnswer, hdrop]
      exact opened_openLink l hsuffix

theorem awaitAnswer_error {l : Listener} {t : Nat} {n : Network}
    (h : (n.pollFaults.dropWhile PollFault.isInterruption).head?.any PollFault.isSpurious
      = false) :
    (∃ f, (n.awaitAnswer l t).1 = .error f) ∧ (n.awaitAnswer l t).2.links = n.links := by
  rw [awaitAnswer]
  split
  · exact ⟨⟨_, rfl⟩, rfl⟩
  · rename_i faults hd
    rw [hd] at h
    cases h
  · exact ⟨⟨_, rfl⟩, rfl⟩

/-- Where nobody answers, a dial fails and opens no link. -/
theorem dial_of_answering_none {addr : Ipv4} {port : Port} {timeout : Option Nat} {n : Network}
    (h : n.answering addr port timeout = none) :
    (∃ f, (n.dial addr port timeout).1 = .error f) ∧
      (n.dial addr port timeout).2.links = n.links := by
  rw [answering] at h
  rw [dial]
  cases hfind : n.listeners.find? fun l => l.addr = addr && l.port = port with
  | none => exact ⟨⟨_, rfl⟩, rfl⟩
  | some l =>
    rw [hfind, Option.filter_some, ite_eq_right_iff] at h
    dsimp only at h ⊢
    cases hc : l.welcome with
    | accepted =>
      rw [hc] at h
      exact absurd (h rfl) (by simp)
    | refused e => exact ⟨⟨_, rfl⟩, rfl⟩
    | silence =>
      match timeout with
      | none => exact ⟨⟨_, rfl⟩, rfl⟩
      | some 0 => exact ⟨⟨_, rfl⟩, rfl⟩
      | some (t + 1) =>
        refine awaitAnswer_error (Bool.eq_false_iff.2 fun hs => ?_)
        exact absurd (h (by rw [hc]; simp [hs])) (by simp)

/-- A dial that succeeded opened a link to a listener that answered. -/
theorem dial_ok {addr : Ipv4} {port : Port} {timeout : Option Nat} {n n' : Network} {i : Nat}
    (h : n.dial addr port timeout = (.ok i, n')) :
    ∃ l, n.answering addr port timeout = some l ∧ Opened l i n n' := by
  cases ha : n.answering addr port timeout with
  | none =>
    obtain ⟨⟨f, hf⟩, _⟩ := dial_of_answering_none ha
    rw [h] at hf
    simp at hf
  | some l =>
    obtain ⟨hi, ho⟩ := dial_of_answering ha
    rw [h] at hi ho
    rw [Except.ok.injEq] at hi
    rw [hi]
    exact ⟨l, rfl, ho⟩

/-- A dial that failed opened no link. -/
theorem dial_error {addr : Ipv4} {port : Port} {timeout : Option Nat} {n n' : Network}
    {f : OsFailure} (h : n.dial addr port timeout = (.error f, n')) :
    n.answering addr port timeout = none ∧ n'.links = n.links := by
  cases ha : n.answering addr port timeout with
  | none =>
    obtain ⟨_, hl⟩ := dial_of_answering_none ha
    rw [h] at hl
    exact ⟨rfl, hl⟩
  | some l =>
    obtain ⟨hi, _⟩ := dial_of_answering ha
    rw [h] at hi
    simp at hi

end Network

namespace Connection

variable {id : ConnectionId} {role : Role} {endpoint : Endpoint} {port : Port}
  {timeout : Option Nat}

/-- **A connection that was made goes to the listener that answered.** -/
theorem dial_ok {env env' : Environment} {c : Connection}
    (h : dial id role endpoint port timeout env = (.ok c, env')) :
    ∃ l, env.net.answering endpoint.addr port timeout = some l ∧
      Network.Opened l c.link env.net env'.net ∧
      c = { id, role, endpoint, port, link := c.link } ∧
      env' = ({ env with net := env'.net } : Environment).report
        (.connected id role endpoint port) := by
  rw [dial] at h
  cases hd : env.net.dial endpoint.addr port timeout with
  | mk r net =>
    rw [hd] at h
    cases r with
    | error f => simp at h
    | ok i =>
      simp only [Prod.mk.injEq, Except.ok.injEq] at h
      obtain ⟨rfl, rfl⟩ := h
      obtain ⟨l, hl, ho⟩ := Network.dial_ok hd
      exact ⟨l, hl, ho, rfl, rfl⟩

/-- A connection that was not made leaves nothing behind. -/
theorem dial_error {env env' : Environment} {e : NetError}
    (h : dial id role endpoint port timeout env = (.error e, env')) :
    env.net.answering endpoint.addr port timeout = none ∧
      env'.net.links = env.net.links ∧ env'.log = env.log := by
  rw [dial] at h
  cases hd : env.net.dial endpoint.addr port timeout with
  | mk r net =>
    rw [hd] at h
    cases r with
    | ok i => simp at h
    | error f =>
      simp only [Prod.mk.injEq] at h
      obtain ⟨-, rfl⟩ := h
      obtain ⟨hn, hl⟩ := Network.dial_error hd
      exact ⟨hn, hl, rfl⟩

/-- A connection that was just made is in step. -/
theorem inStep_dial {env env' : Environment} {c : Connection}
    (h : dial id role endpoint port timeout env = (.ok c, env')) : c.InStep env'.net := by
  obtain ⟨l, -, ho, hc, -⟩ := dial_ok h
  have hlink := ho.link
  refine ⟨?_, ?_, fun _ => ?_⟩
  · rw [ho.count, ho.number]
    exact Nat.lt_succ_self _
  · rw [hc]
    exact Frame.isPartial_nil
  · rw [hlink, Listener.readTimeout_opened]

end Connection

end PipelineWorker
