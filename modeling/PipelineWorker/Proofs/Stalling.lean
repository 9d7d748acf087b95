/-
A check that is held up inside of a frame.

Of two connections that can be read the controller's is read first, and a frame that has begun is
read to its end or to the deadline.  So whoever sends the controller's frames can hide what the
datamanager has sent: by stopping inside of one, and in no other way.

* `receiveUntil_datamanager`, `receiveUntil_controller` — one receive, on either connection;
* `waitUntil_held_up` — a whole wait;
* `check_held_up` — **a check gives up on a message that has arrived from the datamanager only if
  part of a frame, and not all of it, had arrived from the controller**.
-/
import PipelineWorker.Proofs.Available
import PipelineWorker.Proofs.Punctuality

namespace PipelineWorker

namespace Session

variable {s t u : Session} {m : Message} {d : Nat}

/-- Message `m` has arrived from the datamanager, be it behind other messages. -/
def Holds (m : Message) (s : Session) : Prop :=
  ∃ id c, s.worker.datamanager = some id ∧ s.worker.connections.get? id = some c ∧
    m ∈ Frame.messages (c.arrived s.env.net)

/-- Nothing is deferred, no poll fails or is misled, and the controller's link is steady. -/
structure Unhindered (s : Session) : Prop where
  idle : s.worker.queue.items = []
  polls : ∀ fault ∈ s.env.net.pollFaults, fault.isInterruption = true
  steady : ∀ id c, s.worker.controller = some id → s.worker.connections.get? id = some c →
    (s.env.net.link c.link).Steady

/-- From `s` to `t` the deadline has passed inside of a frame of the controller.  Part of such a
frame, and not all of it, was there to begin with, and part of one is kept now. -/
def HeldUp (deadline : Nat) (s t : Session) : Prop :=
  ∃ id c c', s.worker.controller = some id ∧ s.worker.connections.get? id = some c ∧
    c.MidFrame s.env.net ∧ t.worker.connections.get? id = some c' ∧ c'.buffered ≠ [] ∧
    deadline ≤ t.now

/-! ### One message -/

/-- What has arrived on a connection that is not used has arrived for good. -/
theorem arrived_prefix_of_unused {c : Connection} {net net' : Network}
    (hlink : net'.link c.link = net.link c.link) (hnow : net.now ≤ net'.now) :
    c.arrived net <+: c.arrived net' := by
  rw [Connection.arrived, Connection.arrived, hlink]
  exact (List.prefix_append_right_inj _).2 (Link.arrived_mono hnow _)

section

variable {id : ConnectionId} {c : Connection} (hs : s.worker.connections.Sound s.env.net)
  (hu : s.Unhindered) (hheld : s.Holds m) (hkind : m.kind ≠ .newSharedSegment)
  (hid : id ∈ s.worker.watched) (hc : s.worker.connections.get? id = some c)
  (hr : (s.env.net.link c.link).isReady s.env.net.now = true)

include hs hc in
/-- The connections that are not read are left alone. -/
theorem receiveUntil_unused {j : ConnectionId} {f : Connection} (hj : j ≠ id)
    (hf : s.worker.connections.get? j = some f) :
    (s.receiveUntil id d).2.worker.connections.get? j = some f ∧
      (s.receiveUntil id d).2.env.net.link f.link = s.env.net.link f.link := by
  have huses : Uses id s (s.receiveUntil id d).2 := (Use.receive (some d) s).uses
  exact ⟨(huses.get?_of_ne hj).trans hf,
    (reads_receiveUntil d hc (hs.get? hc)).net.others _ (hs.link_ne hc hf hj)⟩

include hs hu hc in
/-- Reading brings nothing that could disturb. -/
theorem Unhindered.receiveUntil : (s.receiveUntil id d).2.Unhindered := by
  have hreads := reads_receiveUntil d hc (hs.get? hc)
  refine ⟨hreads.queue.symm ▸ hu.idle, hreads.net.faults.symm ▸ hu.polls, ?_⟩
  intro j f hj hf
  have hcontroller : s.worker.controller = some j := by
    rw [hreads.worker] at hj
    exact hj
  by_cases hsame : j = id
  · subst hsame
    obtain rfl := Option.some.inj (hreads.found.symm.trans hf)
    have hsteady := Connection.steady_receiveWith (some d) (hs.get? hc)
      (hu.steady j c hcontroller hc)
    rw [hreads.link, receiveUntil_eq _ hc]
    exact hsteady
  · have huses : Uses id s (s.receiveUntil id d).2 := (Use.receive (some d) s).uses
    rw [huses.get?_of_ne hsame] at hf
    rw [(receiveUntil_unused hs hc hsame hf).2]
    exact hu.steady j f hcontroller hf

include hc in
theorem now_le_receiveUntil : s.now ≤ (s.receiveUntil id d).2.now := by
  rw [receiveUntil_eq _ hc]
  exact Connection.now_le_receiveWith (some d) c s.env

include hs hc in
/-- **The datamanager's message does not wait for its connection**: with what else has arrived there
it is handed out at once. -/
theorem receiveUntil_datamanager (hd : s.worker.datamanager = some id)
    (hm : m ∈ Frame.messages (c.arrived s.env.net)) (hkind : m.kind ≠ .newSharedSegment)
    {x : Option Message} (hx : (s.receiveUntil id d).1 = .ok x) :
    ∃ m', x = some m' ∧ (m'.kind = .newSharedSegment →
      (s.receiveUntil id d).2.Holds m ∧
        ∀ u, HeldUp d (s.receiveUntil id d).2 u → HeldUp d s u) := by
  have hreads := reads_receiveUntil d hc (hs.get? hc)
  have hreceive : (c.receiveWith (some d) s.env).1 = .ok x := by
    rw [← hx, receiveUntil_eq _ hc]
  have henv : (s.receiveUntil id d).2.env = (c.receiveWith (some d) s.env).2.2 := by
    rw [receiveUntil_eq _ hc]
  cases hms : Frame.messages (c.arrived s.env.net) with
  | nil =>
    rw [hms] at hm
    exact absurd hm List.not_mem_nil
  | cons m₀ ms =>
    obtain ⟨hdecode, htail⟩ := Frame.decode_of_messages_eq_cons hms
    obtain ⟨hmessage, hnow, hrest⟩ := Connection.receiveWith_of_arrived (some d)
      (hs.get? hc) (Connection.alive_of_receiveWith hreceive) hdecode
    rw [← henv] at hnow hrest
    rw [hreceive, Except.ok.injEq] at hmessage
    refine ⟨_, hmessage, fun hannounced => ⟨⟨id, _, ?_, hreads.found, ?_⟩, ?_⟩⟩
    · rw [hreads.worker]
      exact hd
    · -- the message itself is no announcement, so it comes behind this one
      rw [hrest, htail]
      rw [hms] at hm
      rcases List.mem_cons.1 hm with rfl | hm
      · exact absurd hannounced hkind
      · exact hm
    · rintro u ⟨j, f, f', hj, hf, hmid, hlast⟩
      rw [hreads.worker] at hj
      by_cases hsame : j = id
      · subst hsame
        obtain rfl := Option.some.inj (hreads.found.symm.trans hf)
        exact ⟨j, c, f', hj, hc, (Connection.midFrame_iff_of_decode hdecode hrest).1 hmid, hlast⟩
      · have huses : Uses id s (s.receiveUntil id d).2 := (Use.receive (some d) s).uses
        rw [huses.get?_of_ne hsame] at hf
        refine ⟨j, f, f', hj, hf, ?_, hlast⟩
        rw [Connection.MidFrame, Connection.arrived,
          (receiveUntil_unused hs hc hsame hf).2, hnow] at hmid
        exact hmid

include hs hu hc hr in
/-- **Reading from the controller** gives up inside of a frame, or hands a message out. -/
theorem receiveUntil_controller (hcontroller : s.worker.controller = some id)
    {x : Option Message} (hx : (s.receiveUntil id d).1 = .ok x) :
    (x = none → HeldUp d s (s.receiveUntil id d).2) ∧
      ∀ u, HeldUp d (s.receiveUntil id d).2 u → HeldUp d s u := by
  have hreads := reads_receiveUntil d hc (hs.get? hc)
  have hsteady := hu.steady id c hcontroller hc
  have hreceive : (c.receiveWith (some d) s.env).1 = .ok x := by
    rw [← hx, receiveUntil_eq _ hc]
  have henv : (s.receiveUntil id d).2.env = (c.receiveWith (some d) s.env).2.2 := by
    rw [receiveUntil_eq _ hc]
  have halive := Connection.alive_of_receiveWith hreceive
  refine ⟨?_, ?_⟩
  · rintro rfl
    obtain ⟨hmid, hbuffered, hlate⟩ :=
      Connection.receiveWith_late (hs.get? hc) halive hsteady hr hreceive
    rw [← henv] at hlate
    exact ⟨id, c, _, hcontroller, hc, hmid, hreads.found, hbuffered, hlate⟩
  · rintro u ⟨j, f, f', hj, hf, hmid, hlast⟩
    rw [hreads.worker] at hj
    obtain rfl : j = id := Option.some.inj (hj.symm.trans hcontroller)
    obtain rfl := Option.some.inj (hreads.found.symm.trans hf)
    refine ⟨j, c, f', hcontroller, hc, ?_, hlast⟩
    -- a message that had arrived took no time; otherwise its frame had begun
    cases hdecode : Frame.decode (c.arrived s.env.net) with
    | error e =>
      exact Connection.midFrame_of_decode hdecode
        (Connection.arrived_of_receiveWith halive hsteady hr hreceive)
    | ok r =>
      have hrest := (Connection.receiveWith_of_arrived (some d) (hs.get? hc) halive
        hdecode).2.2
      rw [← henv] at hrest
      exact (Connection.midFrame_iff_of_decode hdecode hrest).1 hmid

include hs hu hheld hkind hid hc hr in
/-- **One receive gives up inside of a frame of the controller only.  Then, and when it hands out an
announcement, the datamanager's message is still there.** -/
theorem receiveUntil_step {x : Option Message} (hx : (s.receiveUntil id d).1 = .ok x) :
    (x = none → HeldUp d s (s.receiveUntil id d).2 ∧ (s.receiveUntil id d).2.Holds m) ∧
      ∀ m', x = some m' → m'.kind = .newSharedSegment →
        (s.receiveUntil id d).2.Unhindered ∧ (s.receiveUntil id d).2.Holds m ∧
          ∀ u, HeldUp d (s.receiveUntil id d).2 u → HeldUp d s u := by
  obtain ⟨i, e, hi, he, hm⟩ := hheld
  have hunhindered : (s.receiveUntil id d).2.Unhindered := Unhindered.receiveUntil hs hu hc
  by_cases hsame : id = i
  · -- the datamanager is read
    subst hsame
    obtain rfl := Option.some.inj (hc.symm.trans he)
    obtain ⟨m', rfl, hrest⟩ := receiveUntil_datamanager hs hc hi hm hkind hx
    refine ⟨(fun h => nomatch h), fun m'' hm'' hannounced => ⟨hunhindered, hrest ?_⟩⟩
    rw [Option.some.inj hm'']
    exact hannounced
  · -- the controller is read, and the datamanager's connection is left alone
    have hcontroller : s.worker.controller = some id := by
      rw [Coordinator.watched, hi, List.mem_append, Option.toList_some, List.mem_singleton,
        Option.mem_toList] at hid
      exact hid.resolve_right hsame
    obtain ⟨hfound, hlink⟩ := receiveUntil_unused (d := d) hs hc (Ne.symm hsame) he
    obtain ⟨more, hmore⟩ := arrived_prefix_of_unused hlink (now_le_receiveUntil hc)
    have hholds : (s.receiveUntil id d).2.Holds m := by
      refine ⟨i, e, ?_, hfound, ?_⟩
      · rw [(reads_receiveUntil d hc (hs.get? hc)).worker]
        exact hi
      · rw [← hmore]
        exact (Frame.messages_append_prefix _ more).subset hm
    obtain ⟨hnone, hrest⟩ := receiveUntil_controller hs hu hc hr hcontroller hx
    exact ⟨fun h => ⟨hnone h, hholds⟩, fun _ _ _ => ⟨hunhindered, hholds, hrest⟩⟩

end

/-- The session once its poll is over, if that did not have to wait. -/
def pastPoll (s : Session) : Session :=
  { s.popDeferred.2 with env := { s.env with net := { s.env.net with pollFaults := [] } } }

/-- **Where something has arrived from the datamanager, the next message is read at once from a
connection on which something is ready.** -/
theorem nextMessage_of_held (hs : s.worker.connections.Sound s.env.net) (hu : s.Unhindered)
    (hheld : s.Holds m) (deadline : Option Nat) :
    ∃ id ∈ s.worker.watched, ∃ c, s.worker.connections.get? id = some c ∧
      (s.env.net.link c.link).isReady s.env.net.now = true ∧
      s.nextMessage deadline = s.pastPoll.readFrom deadline id := by
  obtain ⟨i, e, hi, he, hm⟩ := hheld
  have hwatched : i ∈ s.popDeferred.2.worker.watched :=
    List.mem_append_right _ (Option.mem_toList.2 hi)
  have hready : (s.env.net.link e.link).isReady s.env.net.now = true := by
    refine Link.isReady_of_arrived fun hnil => ?_
    obtain ⟨needed, hshort⟩ := (hs.get? he).begun.decode
    rw [Connection.arrived, hnil, List.append_nil, Frame.messages_eq_nil hshort] at hm
    exact absurd hm List.not_mem_nil
  obtain ⟨id, hid, c, hc, hr, hpoll⟩ :=
    Registry.pollReadable_of_ready hwatched he hready hu.polls (deadline.map (· - s.now))
  refine ⟨id, hid, c, hc, hr, ?_⟩
  exact nextMessage_of_polled hu.idle
    (congrArg (fun r => (r.1, { s.popDeferred.2 with env := r.2 })) hpoll)

/-- One message more, or the deadline. -/
theorem nextMessage_step (hs : s.worker.connections.Sound s.env.net) (hu : s.Unhindered)
    (hheld : s.Holds m) (hkind : m.kind ≠ .newSharedSegment) {x : Option Message}
    (hn : s.nextMessage (some d) = (.ok x, t)) :
    (x = none → HeldUp d s t ∧ t.Holds m) ∧
      ∀ m', x = some m' → m'.kind = .newSharedSegment →
        t.Unhindered ∧ t.Holds m ∧ ∀ u, HeldUp d t u → HeldUp d s u := by
  obtain ⟨id, hid, c, hc, hr, hnext⟩ := nextMessage_of_held hs hu hheld (some d)
  -- The poll has used up interruptions, and changed nothing that matters.
  have hsound : s.pastPoll.worker.connections.Sound s.pastPoll.env.net :=
    hs.passes ⟨Nat.le_refl _, fun _ _ => rfl⟩
  have hunhindered : s.pastPoll.Unhindered :=
    ⟨(MessageQueue.pop_of_items_nil hu.idle).2, by simp [pastPoll], hu.steady⟩
  have hstep {y : Option Message} := receiveUntil_step (d := d) (x := y) hsound hunhindered hheld
    hkind hid hc hr
  rw [hnext, readFrom, receiveBy] at hn
  generalize s.pastPoll.receiveUntil id d = r at hn hstep
  rcases r with ⟨e | _ | m', q⟩
  · cases hn
  · cases hn
    have hlate : HeldUp d s q ∧ q.Holds m := (hstep rfl).1 rfl
    exact ⟨fun _ => hlate, by simp⟩
  · cases hn
    refine ⟨by simp, fun m'' hm'' hannounced => ?_⟩
    obtain ⟨hunhindered', hholds, hback⟩ := (hstep rfl).2 m'' hm'' hannounced
    exact ⟨⟨hunhindered'.idle, hunhindered'.polls, hunhindered'.steady⟩, hholds, hback⟩

/-- To take an announcement up changes nothing that matters either. -/
theorem takeAnnouncement_step {m' : Message} {x : Except CoordinatorError Unit}
    (hu : s.Unhindered) (hheld : s.Holds m) (ht : s.takeAnnouncement m' = (x, t)) :
    t.Unhindered ∧ t.Holds m ∧ ∀ u, HeldUp d t u → HeldUp d s u := by
  have hworker := s.worker_takeAnnouncement m'
  have hqueue := s.queue_takeAnnouncement m'
  have hnet := s.net_takeAnnouncement m'
  rw [ht] at hworker hqueue hnet
  have hcontroller : t.worker.controller = s.worker.controller := by rw [hworker]
  have hdatamanager : t.worker.datamanager = s.worker.datamanager := by rw [hworker]
  have hconnections : t.worker.connections = s.worker.connections := by rw [hworker]
  refine ⟨⟨?_, ?_, ?_⟩, ?_, ?_⟩
  · rw [show t.worker.queue = s.worker.queue from hqueue]
    exact hu.idle
  · rw [hnet]
    exact hu.polls
  · rw [hcontroller, hconnections, hnet]
    exact hu.steady
  · rw [Holds, hdatamanager, hconnections, hnet]
    exact hheld
  · intro u hheldUp
    rw [HeldUp, hcontroller, hconnections, hnet] at hheldUp
    exact hheldUp

/-- **A wait gives up on a message from the datamanager only inside of a frame of the
controller.** -/
theorem waitUntil_held_up (hs : s.worker.connections.Sound s.env.net) (hu : s.Unhindered)
    (hheld : s.Holds m) (hkind : m.kind ≠ .newSharedSegment)
    (h : (s.waitUntil (some d)).1 = .ok none) :
    HeldUp d s (s.waitUntil (some d)).2 ∧ (s.waitUntil (some d)).2.Holds m := by
  generalize hsome : some d = limit at h
  -- The induction follows the announcements, each of which leaves the message where it is.
  fun_induction waitUntil limit s with
  | case1 => cases h
  | case2 s t hn =>
    -- the wait gives up, which it does inside of a frame only
    subst hsome
    exact (nextMessage_step hs hu hheld hkind hn).1 rfl
  | case3 => cases h
  | case4 s m' t hn hk u ht ih =>
    -- an announcement, and the message is held still
    subst hsome
    obtain ⟨hunhindered, hholds, hback⟩ := (nextMessage_step hs hu hheld hkind hn).2 m' rfl hk
    obtain ⟨hunhindered', hholds', hback'⟩ := takeAnnouncement_step hunhindered hholds ht
    have hsound := sound_of_takeAnnouncement (sound_of_nextMessage hs hn) ht
    obtain ⟨hlate, hkept⟩ := ih hsound hunhindered' hholds' h
    exact ⟨hback _ (hback' _ hlate), hkept⟩
  | case5 => cases h

/-- **Where a message that is no announcement has arrived from the datamanager, a check hands a
message out or fails, unless the controller has stopped inside of a frame**: part of it had arrived
and not all, its deadline has passed, and what there is of the frame is kept.  The datamanager's
message is still there then. -/
theorem check_held_up (hr : s.Reachable) (hu : s.Unhindered) (hheld : s.Holds m)
    (hkind : m.kind ≠ .newSharedSegment) (timeout : Nat) :
    (∃ m', (s.check timeout).1 = .ok (some m')) ∨ (∃ e, (s.check timeout).1 = .error e) ∨
      (s.check timeout).1 = .ok none ∧
        HeldUp (s.now + timeout) s (s.check timeout).2 ∧ (s.check timeout).2.Holds m := by
  match hx : (s.check timeout).1 with
  | .ok (some m') => exact .inl ⟨m', rfl⟩
  | .error e => exact .inr (.inl ⟨e, rfl⟩)
  | .ok none => exact .inr (.inr ⟨rfl, waitUntil_held_up hr.sound hu hheld hkind hx⟩)

end Session

/-! ### A controller that stops -/

/-- A controller that stops in the middle of a header. -/
def Listener.stalling : Listener :=
  { Listener.assigning with script := Listener.assigning.script ++ [(0, .data [0, 0, 0])] }

/-- A datamanager that says more behind its reply. -/
def Listener.informing : Listener :=
  { Listener.supplying with
    script := [(0, .data [0, 0, 0, 13, 0, 0, 0, 8, 0, 0, 0, 1, 0, 0, 0, 64]),
      (0, .data [0, 0, 0, 6, 0, 0, 0, 0])] }

namespace Session

/-- A running worker with these two. -/
def stalled : Session :=
  (Call.handshake.run (fresh (.ofController "127.0.0.1" 4000) 7
    { net := { listeners := [.stalling, .informing] } })).2

theorem reachable_stalled : Reachable stalled := (Reachable.fresh _ _ _).call .handshake

/-- The news has arrived. -/
theorem holds_stalled : stalled.Holds (.ofBytes .info []) := by
  have harrived : (stalled.worker.connections.get? ⟨1⟩).map (·.arrived stalled.env.net)
      = some [0, 0, 0, 6, 0, 0, 0, 0] := by decide +kernel
  obtain ⟨c, hc, harrived⟩ := Option.map_eq_some_iff.1 harrived
  have hdecode : Frame.decode [0, 0, 0, 6, 0, 0, 0, 0] = .ok (.ofBytes .info [], 8) := rfl
  refine ⟨⟨1⟩, c, by decide +kernel, hc, ?_⟩
  rw [harrived, Frame.messages_eq_cons hdecode]
  exact List.mem_cons_self

/-- The controller's link carries part of a header, and nothing else. -/
theorem unhindered_stalled : stalled.Unhindered := by
  have hcontroller : stalled.worker.controller = some ⟨0⟩ := by decide +kernel
  have hcarries : (stalled.worker.connections.get? ⟨0⟩).map
      (fun c => (stalled.env.net.link c.link).arrivals) = some [.data [0, 0, 0]] := by
    decide +kernel
  obtain ⟨c, hc, hcarries⟩ := Option.map_eq_some_iff.1 hcarries
  have hfaults : stalled.env.net.pollFaults = [] := by decide +kernel
  refine ⟨by decide +kernel, fun fault hfault => ?_, fun id c' hid hc' e he => ?_⟩
  · rw [hfaults] at hfault
    exact absurd hfault List.not_mem_nil
  · obtain rfl := Option.some.inj (hcontroller.symm.trans hid)
    obtain rfl := Option.some.inj (hc.symm.trans hc')
    rw [hcarries] at he
    exact absurd (List.mem_singleton.1 he) (by simp)

/-- The check is held up for its millisecond. -/
theorem check_held_up_stalled :
    Reachable stalled ∧ stalled.Unhindered ∧ stalled.Holds (.ofBytes .info []) ∧
      (Message.ofBytes .info []).kind ≠ .newSharedSegment ∧
      (stalled.check 1000).1 = .ok none ∧
      HeldUp (stalled.now + 1000) stalled (stalled.check 1000).2 ∧
      (stalled.check 1000).2.Holds (.ofBytes .info []) := by
  have hkind : (Message.ofBytes .info []).kind ≠ .newSharedSegment := by decide
  have hnone : (stalled.check 1000).1 = .ok none := by decide +kernel
  refine ⟨reachable_stalled, unhindered_stalled, holds_stalled, hkind, ?_⟩
  rcases check_held_up reachable_stalled unhindered_stalled holds_stalled hkind 1000 with
    ⟨m, hm⟩ | ⟨e, he⟩ | hheld
  · rw [hnone] at hm
    cases hm
  · rw [hnone] at he
    cases he
  · exact hheld

/-- A running worker gives up although a message from its datamanager is there, nothing is deferred
and no poll fails. -/
theorem check_gives_up :
    Reachable stalled ∧ stalled.worker.stage = .running ∧ stalled.worker.queue.items = [] ∧
      stalled.env.net.pollFaults = [] ∧ stalled.Holds (.ofBytes .info []) ∧
      (Message.ofBytes .info []).kind ≠ .newSharedSegment ∧
      (stalled.check 1000).1 = .ok none :=
  ⟨reachable_stalled, by decide +kernel, by decide +kernel, by decide +kernel, holds_stalled,
    by decide, by decide +kernel⟩

end Session

end PipelineWorker
