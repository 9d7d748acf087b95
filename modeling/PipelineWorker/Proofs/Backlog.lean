/-
What becomes of deferred messages.

Messages are pushed and popped, and the queue is cleared, in any order.  The queue warns once its
backlog has grown to the mark, and again only after it has been below.

* `Marked`, `Marked.make` — the flag tells whether the backlog has reached the mark;
* `Marked.report_eq` — which pushes are worth a warning;
* `items_make` — what a call takes out, and what it leaves;
* `orderly_of_calls` — **after any calls the flag is right, exactly the pushes that took the backlog
  to the mark were reported, and each message is in the queue or has left it in its turn.**
-/
import PipelineWorker.Coordinator.Queue
import PipelineWorker.Proofs.Diary

namespace PipelineWorker.MessageQueue

/-! ### Calls -/

/-- A call on a queue. -/
inductive Call
  | push (m : Message)
  | pop
  | clear

/-- What came of a call. -/
inductive Entry
  | pushed (m : Message) (report : Option Event)
  | popped (answer : Option Message)
  | cleared

/-- Makes a call. -/
def Call.make : Call → MessageQueue → Entry × MessageQueue
  | push m, q => (.pushed m (q.push m).2, (q.push m).1)
  | pop, q => (.popped q.pop.1, q.pop.2)
  | clear, q => (.cleared, q.clear)

/-- Makes calls on a queue that is empty at first. -/
def history (highWater : Nat) (calls : List Call) : Diary MessageQueue Entry :=
  Diary.run Call.make calls (empty highWater)

/-- The message that was pushed, if one was. -/
def pushed : Deed MessageQueue Entry → List Message
  | ⟨_, .pushed m _⟩ => [m]
  | _ => []

/-- The message that was popped, if one was. -/
def popped : Deed MessageQueue Entry → List Message
  | ⟨_, .popped answer⟩ => answer.toList
  | _ => []

/-- The messages that left the queue, and whether they were popped: those that it is cleared of are
not. -/
def left : Deed MessageQueue Entry → List (Message × Bool)
  | ⟨_, .popped answer⟩ => answer.toList.map (·, true)
  | ⟨q, .cleared⟩ => q.items.map (·, false)
  | ⟨_, .pushed _ _⟩ => []

/-- The messages that left the queue and those that are still there, each with whether it was spared
from clearing. -/
def fates (d : Diary MessageQueue Entry) : List (Message × Bool) :=
  d.inOrder left ++ d.now.items.map (·, true)

variable {h : Nat} {m : Message} {q : MessageQueue} {d : Diary MessageQueue Entry}

/-! ### The mark -/

/-- The flag tells whether the backlog has reached the mark. -/
structure Marked (h : Nat) (q : MessageQueue) : Prop where
  highWater_eq : q.highWater = h
  reported_iff : q.reported = true ↔ 0 < h ∧ h ≤ q.items.length

theorem marked_empty (h : Nat) : Marked h (empty h) where
  highWater_eq := rfl
  reported_iff := by
    refine iff_of_false Bool.false_ne_true fun ⟨hmark, hreached⟩ => ?_
    exact absurd hmark (Nat.not_lt.2 hreached)

/-- The mark is reached, and that is not reported yet, where one message is missing. -/
theorem Marked.reachesMark_iff (hq : Marked h q) :
    q.reachesMark = true ↔ q.items.length + 1 = h := by
  have hreported := hq.reported_iff
  simp only [reachesMark, hq.highWater_eq, Bool.and_eq_true, decide_eq_true_eq, Bool.not_eq_true',
    ← Bool.not_eq_true, hreported, length_items]
  omega

theorem Marked.push (hq : Marked h q) (m : Message) : Marked h (q.push m).1 where
  highWater_eq := hq.highWater_eq
  reported_iff := by
    -- set before, above the mark, or set now, on it
    have hflag : (q.push m).1.reported = (q.reported || q.reachesMark) := rfl
    rw [hflag, Bool.or_eq_true, hq.reported_iff, hq.reachesMark_iff, items_push, List.length_append,
      List.length_singleton]
    omega

theorem Marked.pop (hq : Marked h q) : Marked h q.pop.2 where
  highWater_eq := hq.highWater_eq
  reported_iff := by
    -- it stays set unless what is left is below the mark
    have hflag : q.pop.2.reported = (q.reported && q.highWater ≤ q.length - 1) := rfl
    rw [hflag, Bool.and_eq_true, decide_eq_true_iff, hq.reported_iff, hq.highWater_eq, items_pop,
      List.length_tail, length_items]
    omega

/-- **The flag stays right.** -/
theorem Marked.make (hq : Marked h q) (c : Call) : Marked h (c.make q).2 := by
  cases c with
  | push m => exact hq.push m
  | pop => exact hq.pop
  | clear =>
    rw [Call.make, MessageQueue.clear, hq.highWater_eq]
    exact marked_empty h

/-- **A push is reported when it takes the backlog to the mark.** -/
theorem Marked.report_eq (hq : Marked h q) {c : Call} {report : Option Event}
    (hpush : (c.make q).1 = .pushed m report) :
    report = if q.items.length + 1 = h then some (.backlogReached h h) else none := by
  cases c with
  | pop => cases hpush
  | clear => cases hpush
  | push m =>
    cases hpush
    rw [MessageQueue.push]
    simp only [hq.reachesMark_iff]
    split
    · rename_i hreaches
      rw [hq.highWater_eq, ← length_items, hreaches]
    · rfl

/-! ### The messages -/

/-- What there was and what is pushed has left, or is there. -/
theorem items_make (c : Call) (q : MessageQueue) :
    q.items ++ pushed ⟨q, (c.make q).1⟩ =
      (left ⟨q, (c.make q).1⟩).map Prod.fst ++ (c.make q).2.items := by
  cases c with
  | push m => exact (items_push m q).symm
  | clear => simp [Call.make, pushed, left, Function.comp_def]
  | pop =>
    have hhead : q.pop.1 = q.items.head? := head?_turned q
    simp only [Call.make, pushed, left, items_pop, hhead]
    cases q.items with
    | nil => rfl
    | cons m rest => simp

theorem map_fates (d : Diary MessageQueue Entry) :
    (fates d).map Prod.fst = (d.inOrder left).map Prod.fst ++ d.now.items := by
  simp [fates, Function.comp_def]

theorem spared_fates (d : Diary MessageQueue Entry) :
    ((fates d).filter Prod.snd).map Prod.fst =
      ((d.inOrder left).filter Prod.snd).map Prod.fst ++ d.now.items := by
  simp [fates, List.filter_map, Function.comp_def]

theorem popped_eq (deed : Deed MessageQueue Entry) :
    popped deed = ((left deed).filter Prod.snd).map Prod.fst := by
  obtain ⟨q, entry⟩ := deed
  cases entry with
  | pushed m report => rfl
  | popped answer => cases answer <;> rfl
  | cleared => simp [popped, left, List.filter_map]

theorem inOrder_popped (d : Diary MessageQueue Entry) :
    d.inOrder popped = ((d.inOrder left).filter Prod.snd).map Prod.fst := by
  simp only [Diary.inOrder, List.filter_flatMap, List.map_flatMap, ← popped_eq]

/-! ### Any calls -/

/-- What is kept up by a queue with this mark. -/
structure Orderly (h : Nat) (d : Diary MessageQueue Entry) : Prop where
  marked : Marked h d.now
  warnings : ∀ deed ∈ d.deeds, ∀ m report, deed.entry = .pushed m report →
    report = if deed.found.items.length + 1 = h then some (.backlogReached h h) else none
  messages : d.inOrder pushed = (d.inOrder left).map Prod.fst ++ d.now.items

theorem orderly_empty (h : Nat) : Orderly h { now := empty h } where
  marked := marked_empty h
  warnings := fun _ hdeed => by cases hdeed
  messages := rfl

/-- **Every call keeps to the order.** -/
theorem Orderly.enter (hd : Orderly h d) (c : Call) : Orderly h (d.enter c.make) where
  marked := hd.marked.make c
  warnings := by
    rw [Diary.deeds_enter, List.forall_mem_cons]
    exact ⟨fun m report hpush => hd.marked.report_eq hpush, hd.warnings⟩
  messages := by
    rw [Diary.inOrder_enter, hd.messages, List.append_assoc, items_make, Diary.inOrder_enter,
      List.map_append, List.append_assoc, Diary.now_enter]

/-- **After any calls the flag tells whether the backlog has reached the mark, exactly the pushes
that took it there were reported, and the messages that were popped or are still there are those
that were pushed, in the same order, without those that the queue was cleared of.** -/
theorem orderly_of_calls (h : Nat) (calls : List Call) :
    ((history h calls).now.reported = true ↔
      0 < h ∧ h ≤ (history h calls).now.items.length) ∧
    (∀ deed ∈ (history h calls).deeds, ∀ m report, deed.entry = .pushed m report →
      report = if deed.found.items.length + 1 = h then some (.backlogReached h h) else none) ∧
    (history h calls).inOrder pushed = (fates (history h calls)).map Prod.fst ∧
    (history h calls).inOrder popped ++ (history h calls).now.items =
      ((fates (history h calls)).filter Prod.snd).map Prod.fst := by
  have hd : Orderly h (history h calls) :=
    Diary.run_induction (orderly_empty h) (fun _ c hd => hd.enter c) calls
  refine ⟨hd.marked.reported_iff, hd.warnings, ?_, ?_⟩
  · rw [hd.messages, map_fates]
  · rw [inOrder_popped, spared_fates]

end PipelineWorker.MessageQueue
