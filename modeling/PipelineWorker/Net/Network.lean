/-
The network around the worker, and its clock.

The network is known by who listens where, by the links that were opened so far, and by the faults
that coming polls meet.  Only waiting lets the clock move on.  What arrives does so at whole
microseconds; a poll may be disturbed at any nanosecond.

* `faults_poll_lt` — a poll that ends by a fault uses that fault up;
* `clock_le_poll` — the clock never runs backwards.
-/
import PipelineWorker.Net.Link
import PipelineWorker.Net.Address
import PipelineWorker.Message.Control

namespace PipelineWorker

/-- What happens to those who connect to a listener. -/
inductive Welcome
  | accepted
  | refused (errno : Errno)
  /-- There is no answer. -/
  | silence
  deriving DecidableEq, Repr

/-- An address and port that can be connected to. -/
structure Listener where
  addr : Ipv4
  port : Port
  welcome : Welcome := .accepted
  /-- What every link to this listener will carry, item by item with its delay. -/
  script : List (Nat × Arrival) := []
  /-- What the writes on every link to this listener meet. -/
  sink : Sink := []
  deriving Repr

/-- What a poll meets in place of its answer, after so many nanoseconds of its wait. -/
inductive PollFault
  | failure (errno : Errno) (after : Nat := 0)
  /-- One event is reported, but none that means readiness. -/
  | spurious (after : Nat := 0)
  deriving DecidableEq, Repr

namespace PollFault

/-- How many nanoseconds a poll waits before it meets the fault, if it waits that long. -/
def after : PollFault → Nat
  | failure _ t => t
  | spurious t => t

/-- Whether a poll is only interrupted, so that it has to be made again. -/
def isInterruption : PollFault → Bool
  | failure e _ => e.kind = .interrupted
  | spurious _ => false

/-- Whether a poll tells an event of no meaning. -/
def isSpurious : PollFault → Bool
  | failure .. => false
  | spurious _ => true

end PollFault

/-- No nanoseconds have passed of a microsecond. -/
def Network.atMicrosecond : Fin 1000 := 0

/-- The network as the worker sees it. -/
structure Network where
  /-- The whole microseconds that have passed. -/
  now : Nat := 0
  /-- The nanoseconds that have passed of the next one. -/
  nanos : Fin 1000 := Network.atMicrosecond
  listeners : List Listener := []
  /-- The links opened so far, in this order. -/
  links : List Link := []
  pollFaults : List PollFault := []

/-- How a poll ended. -/
inductive PollAnswer
  | failure (errno : Errno)
  | spurious
  /-- The links on which something can be received; none if the time ran out. -/
  | ready (links : List Nat)
  deriving DecidableEq, Repr

namespace Network

/-! ### Links -/

/-- The link of that number. -/
def link (n : Network) (i : Nat) : Link := n.links.getD i {}

/-- Replaces a link. -/
def setLink (i : Nat) (l : Link) (n : Network) : Network := { n with links := n.links.set i l }

/-- More is to arrive on a link. -/
def feed (i : Nat) (items : List (Nat × Arrival)) (n : Network) : Network :=
  n.setLink i ((n.link i).feed n.now items)

/-- More is to be met by the writes on a link. -/
def addSink (i : Nat) (sink : Sink) (n : Network) : Network :=
  let l := n.link i
  n.setLink i { l with sink := l.sink ++ sink }

/-! ### Time -/

/-- Lets time pass. -/
def sleep (microseconds : Nat) (n : Network) : Network := { n with now := n.now + microseconds }

/-- The time in nanoseconds. -/
def clock (n : Network) : Nat := 1000 * n.now + n.nanos

/-- Lets so many nanoseconds pass. -/
def pass (nanoseconds : Nat) (n : Network) : Network :=
  { n with
    now := (n.clock + nanoseconds) / 1000
    nanos := .ofNat 1000 (n.clock + nanoseconds) }

/-- Lets time pass until that microsecond, if it is still to come. -/
def passUntil (t : Nat) (n : Network) : Network := n.pass (1000 * t - n.clock)

@[simp] theorem clock_sleep (t : Nat) (n : Network) : (n.sleep t).clock = n.clock + 1000 * t := by
  simp only [clock, sleep]
  omega

@[simp] theorem clock_pass (t : Nat) (n : Network) : (n.pass t).clock = n.clock + t := by
  simp only [clock, pass, Fin.ofNat]
  omega

theorem now_eq_clock_div (n : Network) : n.now = n.clock / 1000 := by
  have := n.nanos.isLt
  rw [clock]
  omega

theorem now_le_of_clock_le {n m : Network} (h : n.clock ≤ m.clock) : n.now ≤ m.now := by
  rw [now_eq_clock_div, now_eq_clock_div]
  exact Nat.div_le_div_right h

theorem now_le_pass (t : Nat) (n : Network) : n.now ≤ (n.pass t).now := by
  apply now_le_of_clock_le
  rw [clock_pass]
  exact Nat.le_add_right ..

/-- The clock reaches a whole microsecond when that has passed. -/
theorem le_clock_iff {t : Nat} {n : Network} : 1000 * t ≤ n.clock ↔ t ≤ n.now := by
  rw [now_eq_clock_div]
  omega

@[simp] theorem pass_zero (n : Network) : n.pass 0 = n := by
  have hlt := n.nanos.isLt
  have hnow : (n.clock + 0) / 1000 = n.now := by rw [Nat.add_zero, ← now_eq_clock_div]
  have hnanos : Fin.ofNat 1000 (n.clock + 0) = n.nanos := by
    apply Fin.ext
    simp only [Fin.ofNat, clock]
    omega
  rw [pass, hnow, hnanos]

@[simp] theorem now_passUntil (t : Nat) (n : Network) : (n.passUntil t).now = max n.now t := by
  have := n.nanos.isLt
  rw [passUntil, now_eq_clock_div, clock_pass, clock]
  omega

/-! ### Connecting -/

/-- How long the system waits for an answer when nobody else limits it. -/
def systemPatience : Nat := 130000000

/-- How long a wait of so many microseconds takes: it is counted in whole milliseconds. -/
def wholeMilliseconds (microseconds : Nat) : Nat := (microseconds + 999) / 1000 * 1000

/-- Opens a link to a listener. -/
def openLink (l : Listener) (n : Network) : Except OsFailure Nat × Network :=
  let fresh : Link := { sink := l.sink }
  (.ok n.links.length, { n with links := n.links ++ [fresh.feed n.now l.script] })

/-- Waits for an answer that does not come.  An interrupted poll is made again; any other fault
ends the wait at once, and an event of any kind is taken for the answer.  Faults take no time
here. -/
def awaitAnswer (l : Listener) (timeout : Nat) (n : Network) : Except OsFailure Nat × Network :=
  match n.pollFaults.dropWhile PollFault.isInterruption with
  | .failure e _ :: faults => (.error (.number e), { n with pollFaults := faults })
  | .spurious _ :: faults => { n with pollFaults := faults }.openLink l
  | [] =>
    (.error (.worded .timedOut "connection timed out"),
      { n with pollFaults := [] }.sleep (wholeMilliseconds timeout))

/-- Connects to a listener, or fails; the answer is the number of the new link. -/
def dial (addr : Ipv4) (port : Port) (timeout : Option Nat) (n : Network) :
    Except OsFailure Nat × Network :=
  match n.listeners.find? fun l => l.addr = addr && l.port = port with
  | none => (.error (.number .connRefused), n)
  | some l =>
    match l.welcome with
    | .refused e => (.error (.number e), n)
    | .accepted => n.openLink l
    | .silence =>
      match timeout with
      | none => (.error (.number .timedOut), n.sleep systemPatience)
      | some 0 => (.error (.worded .invalidInput "cannot set a 0 duration timeout"), n)
      | some t => n.awaitAnswer l t

/-! ### Polling -/

/-- The earliest time at which something arrives on one of the links. -/
def earliest? (watched : List Nat) (n : Network) : Option Nat :=
  (watched.filterMap fun i => (n.link i).nextTime?).min?

/-- The links among these on which something can be received now. -/
def readyAmong (watched : List Nat) (n : Network) : List Nat :=
  watched.filter fun i => (n.link i).isReady n.now

/-- All of these links are closed by the other end, as far as nothing is still to arrive. -/
def closeSilent (watched : List Nat) (n : Network) : Network :=
  watched.foldl (fun n i => n.setLink i ((n.link i).closeIfSilent n.now)) n

/-- Waits until something can be received, at most for so many milliseconds; without a limit, and
with nothing to come, until the other ends close. -/
def await (watched : List Nat) (milliseconds : Option Nat) (n : Network) : List Nat × Network :=
  match n.earliest? watched, milliseconds with
  | some t, none => ((n.passUntil t).readyAmong watched, n.passUntil t)
  | some t, some ms =>
    if t ≤ n.now + 1000 * ms then ((n.passUntil t).readyAmong watched, n.passUntil t)
    else ([], n.sleep (1000 * ms))
  | none, some ms => ([], n.sleep (1000 * ms))
  | none, none => (watched, n.closeSilent watched)

/-- How many nanoseconds a poll waits if it meets no fault; none if nothing limits it and nothing is
to come. -/
def patience? (watched : List Nat) (milliseconds : Option Nat) (n : Network) : Option Nat :=
  .merge min ((n.earliest? watched).map fun t => 1000 * t - n.clock)
    (milliseconds.map (1000000 * ·))

/-- The wait of a poll that meets a fault after so many nanoseconds, or at its end. -/
def interrupted (watched : List Nat) (milliseconds : Option Nat) (after : Nat) (n : Network) :
    Network :=
  n.pass (((n.patience? watched milliseconds).map (min after)).getD after)

theorem exists_patience? (watched : List Nat) (ms : Nat) (n : Network) :
    ∃ p ≤ 1000000 * ms, n.patience? watched (some ms) = some p := by
  rw [patience?]
  cases n.earliest? watched with
  | none => exact ⟨_, Nat.le_refl _, rfl⟩
  | some t => exact ⟨_, Nat.min_le_right .., rfl⟩

/-- A fault comes in time, and within the limit of the poll. -/
theorem clock_interrupted (watched : List Nat) (ms : Option Nat) (after : Nat) (n : Network) :
    ∃ t ≤ after, (∀ limit, ms = some limit → t ≤ 1000000 * limit) ∧
      (n.interrupted watched ms after).clock = n.clock + t := by
  rw [interrupted, clock_pass]
  refine ⟨_, ?_, ?_, rfl⟩
  · cases n.patience? watched ms with
    | none => exact Nat.le_refl _
    | some p => exact Nat.min_le_left ..
  · rintro limit rfl
    obtain ⟨p, hle, hp⟩ := n.exists_patience? watched limit
    rw [hp]
    exact Nat.le_trans (Nat.min_le_right ..) hle

/-- One poll. -/
def poll (watched : List Nat) (milliseconds : Option Nat) (n : Network) : PollAnswer × Network :=
  match n.pollFaults with
  | .failure e t :: faults =>
    (.failure e, { n.interrupted watched milliseconds t with pollFaults := faults })
  | .spurious t :: faults =>
    (.spurious, { n.interrupted watched milliseconds t with pollFaults := faults })
  | [] => (.ready (n.await watched milliseconds).1, (n.await watched milliseconds).2)

/-- A poll that ends by a fault uses it up. -/
theorem faults_poll_lt (watched : List Nat) (ms : Option Nat) (n : Network)
    (h : ∀ ready, (n.poll watched ms).1 ≠ .ready ready) :
    (n.poll watched ms).2.pollFaults.length < n.pollFaults.length := by
  rw [poll] at h ⊢
  split
  · simp [*]
  · simp [*]
  · rename_i hf
    simp [hf] at h

theorem now_closeSilent (watched : List Nat) (n : Network) :
    (n.closeSilent watched).now = n.now := by
  rw [closeSilent]
  induction watched generalizing n with
  | nil => rfl
  | cons i rest ih => simpa [List.foldl_cons, setLink] using ih _

theorem nanos_closeSilent (watched : List Nat) (n : Network) :
    (n.closeSilent watched).nanos = n.nanos := by
  rw [closeSilent]
  induction watched generalizing n with
  | nil => rfl
  | cons i rest ih => simpa [List.foldl_cons, setLink] using ih _

theorem clock_closeSilent (watched : List Nat) (n : Network) :
    (n.closeSilent watched).clock = n.clock := by
  rw [clock, now_closeSilent, nanos_closeSilent, clock]

theorem clock_le_await (watched : List Nat) (ms : Option Nat) (n : Network) :
    n.clock ≤ (n.await watched ms).2.clock := by
  unfold await
  split
  · simp [passUntil]
  · split <;> simp [passUntil]
  · simp
  · simp [clock_closeSilent]

/-- The clock never runs backwards. -/
theorem clock_le_poll (watched : List Nat) (ms : Option Nat) (n : Network) :
    n.clock ≤ (n.poll watched ms).2.clock := by
  have hinterrupted (after : Nat) : n.clock ≤ (n.interrupted watched ms after).clock := by
    rw [interrupted, clock_pass]
    exact Nat.le_add_right ..
  rw [poll]
  split
  · exact hinterrupted ..
  · exact hinterrupted ..
  · exact clock_le_await ..

/-! ### The weight of a network -/

/-- How many receives all links together can serve before they are closed or silent. -/
def weight (n : Network) : Nat := total Link.weight n.links

/-- A link's weight counts in the network's. -/
theorem weight_setLink_add (i : Nat) (l : Link) (n : Network) :
    (n.setLink i l).weight + (n.link i).weight ≤ n.weight + l.weight := by
  unfold link setLink weight
  by_cases hi : i < n.links.length
  · have := total_set_add Link.weight n.links i l hi
    simp only [List.getD_eq_getElem?_getD, List.getElem?_eq_getElem hi, Option.getD_some]
    omega
  · have hw : (n.links.getD i {}).weight = 0 := by
      simp [List.getD_eq_getElem?_getD, List.getElem?_eq_none (Nat.le_of_not_lt hi), Link.weight]
    simp only [hw, List.set_eq_of_length_le (Nat.le_of_not_lt hi)]
    omega

@[simp] theorem weight_closeSilent (watched : List Nat) (n : Network) :
    (n.closeSilent watched).weight = n.weight := by
  rw [closeSilent]
  induction watched generalizing n with
  | nil => rfl
  | cons i rest ih =>
    rw [List.foldl_cons, ih]
    rw [link]
    by_cases hi : i < n.links.length
    · have := total_set_add Link.weight n.links i ((n.links[i]).closeIfSilent n.now) hi
      simp only [Link.weight_closeIfSilent] at this
      simp only [setLink, weight, List.getD_eq_getElem?_getD, List.getElem?_eq_getElem hi,
        Option.getD_some]
      omega
    · simp [setLink, weight, List.set_eq_of_length_le (Nat.le_of_not_lt hi)]

theorem weight_await (watched : List Nat) (ms : Option Nat) (n : Network) :
    (n.await watched ms).2.weight = n.weight := by
  unfold await
  split
  · rfl
  · split <;> rfl
  · rfl
  · simp

/-- Polling receives nothing. -/
@[simp] theorem weight_poll (watched : List Nat) (ms : Option Nat) (n : Network) :
    (n.poll watched ms).2.weight = n.weight := by
  rw [poll]
  split
  · rfl
  · rfl
  · exact weight_await ..

end Network

end PipelineWorker
