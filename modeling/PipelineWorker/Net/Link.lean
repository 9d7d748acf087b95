/-
One end of a connected stream socket.

A link is known by what is still to arrive on it, each item at its time, and by how much its coming
writes take.  Times are in microseconds.  A receive never crosses two items; a close stays in front
for ever, a failure is met once.  How long a receive may wait is an option of the socket that stays
until it is set anew.

* `weight` — how many receives a link can serve at most before it is closed or silent;
* `recv_weight_le`, `recv_weight_lt` — a receive takes from the weight what it hands out.
-/
import PipelineWorker.Message.Stream
import PipelineWorker.Total

namespace PipelineWorker

/-- Something that arrives on a link. -/
inductive Arrival
  | data (bs : Bytes)
  /-- The other end closes. -/
  | close
  | failure (errno : Errno)
  deriving DecidableEq, Repr

/-- An arrival and its time. -/
structure Incoming where
  time : Nat
  what : Arrival
  deriving DecidableEq, Repr

/-- Our end of a connected socket. -/
structure Link where
  /-- What was not received yet, in the order of arrival. -/
  incoming : List Incoming := []
  /-- The time of the last item that was ever to arrive. -/
  lastTime : Nat := 0
  /-- What the coming writes meet. -/
  sink : Sink := []
  /-- All bytes that were taken by the socket. -/
  sent : Bytes := []
  /-- How long a receive waits; without a limit it waits for as long as it takes. -/
  readTimeout : Option Nat := none
  deriving DecidableEq, Repr

namespace Link

/-! ### Arrivals -/

/-- Adds an item that arrives `delay` after the one before it, or after `now` if that is later. -/
def feedOne (now : Nat) (l : Link) (delay : Nat) (what : Arrival) : Link :=
  let time := max now l.lastTime + delay
  { l with incoming := l.incoming ++ [⟨time, what⟩], lastTime := time }

/-- Adds items, each with its delay. -/
def feed (now : Nat) (items : List (Nat × Arrival)) (l : Link) : Link :=
  items.foldl (fun l (delay, what) => l.feedOne now delay what) l

/-- The other end closes, unless something is still to arrive. -/
def closeIfSilent (now : Nat) (l : Link) : Link :=
  if l.incoming = [] then l.feedOne now 0 .close else l

/-- When the next item arrives. -/
def nextTime? (l : Link) : Option Nat := l.incoming.head?.map (·.time)

/-- Whether there is something to receive. -/
def isReady (now : Nat) (l : Link) : Bool := l.nextTime?.any (· ≤ now)

/-! ### Receiving -/

/-- How a receive ended, the time when it did, and the link behind it. -/
structure Received where
  result : Except Errno Bytes
  now : Nat
  link : Link

/-- Takes up to `n` bytes of the item in front. -/
def takeFront (n : Nat) (l : Link) (now : Nat) (i : Incoming) (rest : List Incoming) : Received :=
  match i.what with
  | .close => ⟨.ok [], now, l⟩
  | .failure e => ⟨.error e, now, { l with incoming := rest }⟩
  | .data bs =>
    if (bs.drop n).isEmpty then ⟨.ok bs, now, { l with incoming := rest }⟩
    else ⟨.ok (bs.take n), now, { l with incoming := ⟨i.time, .data (bs.drop n)⟩ :: rest }⟩

/-- One receive of at most `n` bytes that waits no longer than the socket's limit; without a limit
it waits until something arrives or, where nothing is to come, until the other end closes.  An empty
result means that it has closed. -/
def recv (n : Nat) (now : Nat) (l : Link) : Received :=
  match l.incoming, l.readTimeout with
  | [], none => ⟨.ok [], now, l.closeIfSilent now⟩
  | [], some t => ⟨.error .again, now + t, l⟩
  | i :: rest, none => takeFront n l (max now i.time) i rest
  | i :: rest, some t =>
    if i.time ≤ now + t then takeFront n l (max now i.time) i rest
    else ⟨.error .again, now + t, l⟩

/-! ### Sending -/

/-- Writes the frame of a message. -/
def send (m : Message) (l : Link) : Except CodecError Unit × Link :=
  let (r, o) := Sink.writeMessage m (.ok ()) l.sink
  (r, { l with sink := o.sink, sent := l.sent ++ o.written })

/-! ### The weight of a link -/

/-- How many receives an item can serve, a close not counted. -/
def itemWeight : Arrival → Nat
  | .data bs => bs.length
  | .close => 0
  | .failure _ => 1

/-- How many receives the link can serve before it is closed or silent. -/
def weight (l : Link) : Nat := total (fun i => itemWeight i.what) l.incoming

@[simp] theorem weight_closeIfSilent (now : Nat) (l : Link) :
    (l.closeIfSilent now).weight = l.weight := by
  rw [closeIfSilent]
  split
  · simp_all [weight, feedOne, itemWeight]
  · rfl

@[simp] theorem weight_send (m : Message) (l : Link) : (l.send m).2.weight = l.weight := rfl

/-- The bytes that a receive hands out. -/
def Received.bytes (r : Received) : Bytes :=
  match r.result with
  | .ok bs => bs
  | .error _ => []

theorem takeFront_weight {n : Nat} {l : Link} {i : Incoming} {rest : List Incoming}
    (h : l.incoming = i :: rest) (now : Nat) :
    (takeFront n l now i rest).link.weight + (takeFront n l now i rest).bytes.length
      ≤ l.weight := by
  obtain ⟨time, what⟩ := i
  cases what with
  | close => simp [takeFront, Received.bytes]
  | failure e => simp [takeFront, Received.bytes, weight, h]
  | data bs =>
    simp only [takeFront, Received.bytes]
    split <;> simp [weight, h, itemWeight] <;> omega

/-- What a receive hands out is taken from the weight. -/
theorem recv_weight_le (n now : Nat) (l : Link) :
    (l.recv n now).link.weight + (l.recv n now).bytes.length ≤ l.weight := by
  rw [recv]
  split
  · simp [Received.bytes]
  · simp [Received.bytes]
  · exact takeFront_weight ‹_› _
  · split
    · exact takeFront_weight ‹_› _
    · simp [Received.bytes]

/-- A failure other than running out of time is taken from the weight. -/
theorem recv_weight_lt {n now : Nat} {l : Link} {e : Errno}
    (h : (l.recv n now).result = .error e) (he : e ≠ .again) :
    (l.recv n now).link.weight < l.weight := by
  have front : ∀ {i : Incoming} {rest : List Incoming} {now : Nat}, l.incoming = i :: rest →
      (takeFront n l now i rest).result = .error e →
      (takeFront n l now i rest).link.weight < l.weight := by
    rintro ⟨time, what⟩ rest now hl hr
    cases what with
    | close => simp [takeFront] at hr
    | failure e' => simp [takeFront, weight, hl, itemWeight]
    | data bs =>
      simp only [takeFront] at hr
      split at hr <;> simp at hr
  rw [recv] at h ⊢
  split
  · simp_all
  · simp_all
  · rename_i hl hw
    exact front hl (by simpa [hl, hw] using h)
  · rename_i hl hw
    split
    · rename_i ht
      exact front hl (by simpa [hl, hw, ht] using h)
    · rename_i ht
      simp [hl, hw, ht] at h
      exact absurd h.symm he

end Link

end PipelineWorker
