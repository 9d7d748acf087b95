/-
The queue of deferred messages.

Messages that arrive while the coordinator waits for something else are kept in the order of their
arrival.  The queue is unbounded; where a high-water mark is set, reaching it is worth one warning,
and the warning is armed again once the backlog has fallen below the mark.

The messages lie in two lists, of which the second is turned round when the first is used up, so
that a long backlog costs no more than a short one.

* `items_push`, `items_pop`, `items_clear` — what the operations do to the messages;
* `length_items` — the length is the number of messages;
* `isSome_push` — when a push is worth a warning.
-/
import PipelineWorker.Log.Event

namespace PipelineWorker

/-- Deferred messages. -/
structure MessageQueue where
  /-- The oldest messages, oldest first. -/
  front : List Message := []
  /-- The messages behind those, newest first. -/
  back : List Message := []
  /-- The number of messages. -/
  length : Nat := 0
  /-- The backlog that is worth a warning; zero never is. -/
  highWater : Nat := 0
  /-- Whether the backlog was reported since it was last below the mark. -/
  reported : Bool := false
  length_eq : length = front.length + back.length
  deriving DecidableEq

namespace MessageQueue

/-- The queue without messages. -/
def empty (highWater : Nat) : MessageQueue := { highWater, length_eq := rfl }

/-- All messages, oldest first. -/
def items (q : MessageQueue) : List Message := q.front ++ q.back.reverse

/-- The length is the number of messages. -/
@[simp] theorem length_items (q : MessageQueue) : q.items.length = q.length := by
  simp [items, q.length_eq]

/-- Whether nothing is deferred. -/
def isEmpty (q : MessageQueue) : Bool := q.length = 0

/-- The two lists, turned so that the first holds a message if there is any. -/
def turned (q : MessageQueue) : List Message × List Message :=
  if q.front = [] then (q.back.reverse, []) else (q.front, q.back)

theorem items_eq_turned (q : MessageQueue) : q.items = q.turned.1 ++ q.turned.2.reverse := by
  rw [turned]
  split <;> simp_all [items]

theorem items_eq_nil_of_turned {q : MessageQueue} (h : q.turned.1 = []) : q.items = [] := by
  rw [items_eq_turned, h]
  rw [turned] at h ⊢
  split <;> simp_all

theorem head?_turned (q : MessageQueue) : q.turned.1.head? = q.items.head? := by
  cases h : q.turned.1 with
  | nil => simp [items_eq_nil_of_turned h]
  | cons m front => simp [items_eq_turned, h]

theorem tail_turned (q : MessageQueue) : q.turned.1.tail ++ q.turned.2.reverse = q.items.tail := by
  cases h : q.turned.1 with
  | nil =>
    have none : q.items = [] := items_eq_nil_of_turned h
    have := items_eq_turned q
    simp_all
  | cons m front => simp [items_eq_turned, h]

/-- The oldest message. -/
def peek? (q : MessageQueue) : Option Message := q.turned.1.head?

/-- Whether the next push reaches the mark without that having been reported. -/
def reachesMark (q : MessageQueue) : Bool :=
  0 < q.highWater && q.highWater ≤ q.length + 1 && !q.reported

/-- Adds the newest message. -/
def push (m : Message) (q : MessageQueue) : MessageQueue × Option Event :=
  ({ q with
      back := m :: q.back
      length := q.length + 1
      reported := q.reported || q.reachesMark
      length_eq := by simp [q.length_eq, Nat.add_assoc] },
    if q.reachesMark then some (.backlogReached (q.length + 1) q.highWater) else none)

/-- Takes the oldest message out. -/
def pop (q : MessageQueue) : Option Message × MessageQueue :=
  let rest := q.turned
  (rest.1.head?,
    { q with
      front := rest.1.tail
      back := rest.2
      length := q.length - 1
      reported := q.reported && q.highWater ≤ q.length - 1
      length_eq := by
        have := congrArg List.length q.tail_turned
        simpa [List.length_tail, eq_comm] using this })

/-- Drops all messages. -/
def clear (q : MessageQueue) : MessageQueue := empty q.highWater

@[simp] theorem items_push (m : Message) (q : MessageQueue) :
    (q.push m).1.items = q.items ++ [m] := by simp [push, items]

@[simp] theorem items_pop (q : MessageQueue) : q.pop.2.items = q.items.tail := tail_turned q

@[simp] theorem items_clear (q : MessageQueue) : q.clear.items = [] := rfl

/-- A popped message and the rest are what there was. -/
theorem items_of_pop {m : Message} {q : MessageQueue} (h : q.pop.1 = some m) :
    q.items = m :: q.pop.2.items := by
  have h : q.items.head? = some m := by rw [← head?_turned]; exact h
  rw [items_pop]
  exact (List.head?_eq_some_iff.1 h).elim fun rest e => by simp [e]

/-- Where there is no message, none is popped. -/
theorem pop_of_items_nil {q : MessageQueue} (h : q.items = []) :
    q.pop.1 = none ∧ q.pop.2.items = [] := by
  refine ⟨?_, by rw [items_pop, h, List.tail_nil]⟩
  show q.turned.1.head? = none
  rw [head?_turned, h, List.head?_nil]

/-- A push is worth a warning when the mark is set and reached for the first time. -/
theorem isSome_push (m : Message) (q : MessageQueue) :
    (q.push m).2.isSome = q.reachesMark := by
  rw [push]
  split <;> simp_all

end MessageQueue

end PipelineWorker
