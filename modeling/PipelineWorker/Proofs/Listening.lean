/-
Listening to one connection.

* `nextMessage_of_single` — with one connection to watch and nothing deferred, the next message is
  read off that connection;
* `wait_scans` — waiting for a control message is a scan of its stream;
* `wait_hears`, `awaitReply_hears` — what a worker that listens does, and what it leaves alone.
-/
import PipelineWorker.Proofs.Exchange

namespace PipelineWorker

namespace Network

/-- From `net` to `net'` the worker did nothing but wait, and read on link `i`. -/
structure ListensOn (i : Nat) (net net' : Network) : Prop where
  listeners : net'.listeners = net.listeners
  count : net'.links.length = net.links.length
  faults : net'.pollFaults <:+ net.pollFaults
  others : ∀ j, j ≠ i → (net.link j).Same (net'.link j)
  sink : (net'.link i).sink = (net.link i).sink
  sent : (net'.link i).sent = (net.link i).sent

theorem ListensOn.refl (i : Nat) (net : Network) : ListensOn i net net :=
  ⟨rfl, rfl, List.suffix_refl _, fun _ _ => .refl _, rfl, rfl⟩

theorem ListensOn.trans {i : Nat} {a b c : Network} (h : ListensOn i a b)
    (h' : ListensOn i b c) : ListensOn i a c :=
  ⟨h'.listeners.trans h.listeners, h'.count.trans h.count, h'.faults.trans h.faults,
    fun j hj => (h.others j hj).trans (h'.others j hj), h'.sink.trans h.sink,
    h'.sent.trans h.sent⟩

theorem Waited.listensOn {net net' : Network} (h : Waited net net') (i : Nat) :
    ListensOn i net net' :=
  ⟨h.listeners, h.count, h.faults, fun j _ => h.links j, (h.links i).sink, (h.links i).sent⟩

theorem ReadsOn.listensOn {i : Nat} {net net' : Network} (h : ReadsOn i net net') :
    ListensOn i net net' := by
  refine ⟨h.listeners, h.count, ?_, fun j hj => ?_, h.sink, h.sent⟩
  · exact h.faults ▸ List.suffix_refl _
  · rw [h.others j hj]
    exact .refl _

end Network

namespace Session

/-- Connection `id` of the worker is `c`, and messages can be exchanged on it. -/
structure Live (id : ConnectionId) (c : Connection) (s : Session) : Prop where
  found : s.worker.connections.get? id = some c
  inStep : c.InStep s.env.net
  alive : c.alive = true

/-- From `s` to `t` the worker did nothing but listen to connection `id`, which was `c` and is `c'`
now; it took announcements up and deferred messages. -/
structure Hears (id : ConnectionId) (c c' : Connection) (s t : Session) : Prop where
  worker : t.worker = { s.worker with
    connections := t.worker.connections
    queue := t.worker.queue
    segments := t.worker.segments }
  live : Live id c' t
  link : c'.link = c.link
  role : c'.role = c.role
  others : ∀ j, j ≠ id → t.worker.connections.get? j = s.worker.connections.get? j
  nextId : t.worker.connections.nextId = s.worker.connections.nextId
  net : Network.ListensOn c.link s.env.net t.env.net

theorem Hears.config {id : ConnectionId} {c c' : Connection} {s t : Session}
    (h : Hears id c c' s t) : t.worker.config = s.worker.config := by
  rw [h.worker]

theorem Hears.trans {id : ConnectionId} {c c' c'' : Connection} {s t u : Session}
    (h : Hears id c c' s t) (h' : Hears id c' c'' t u) : Hears id c c'' s u := by
  refine ⟨?_, h'.live, h'.link.trans h.link, h'.role.trans h.role,
    fun j hj => (h'.others j hj).trans (h.others j hj), h'.nextId.trans h.nextId, ?_⟩
  · rw [h'.worker, h.worker]
  · have hnet := h'.net
    rw [h.link] at hnet
    exact h.net.trans hnet

/-- A receive that hands a message out. -/
theorem Reads.hears {id : ConnectionId} {c c' : Connection} {s t : Session}
    (h : Reads id c c' s t) (ha : c'.alive = true) : Hears id c c' s t := by
  refine ⟨?_, ⟨h.found, h.inStep, ha⟩, h.link, h.role, fun j hj => ?_, ?_, h.net.listensOn⟩
  · rw [h.worker]
  · rw [h.connections]
    refine Registry.get?_put_ne fun hj' => hj ?_
    rw [hj', Registry.id_of_get? h.found]
  · rw [h.connections]
    rfl

/-- What leaves the connections and the network alone. -/
theorem Hears.of_eq {id : ConnectionId} {c : Connection} {s t : Session} (hl : Live id c s)
    (hworker : t.worker = { s.worker with
      queue := t.worker.queue
      segments := t.worker.segments })
    (hnet : t.env.net = s.env.net) : Hears id c c s t := by
  refine ⟨by rw [hworker], ⟨?_, ?_, hl.alive⟩, rfl, rfl, fun j _ => by rw [hworker],
    by rw [hworker], ?_⟩
  · rw [hworker]
    exact hl.found
  · rw [hnet]
    exact hl.inStep
  · rw [hnet]
    exact .refl _ _

theorem Hears.takeAnnouncement {id : ConnectionId} {c : Connection} {s : Session}
    (hl : Live id c s) (m : Message) : Hears id c c s (s.takeAnnouncement m).2 := by
  refine .of_eq hl ?_ (s.net_takeAnnouncement m)
  rw [s.queue_takeAnnouncement m]
  exact s.worker_takeAnnouncement m

theorem receive_hears {id : ConnectionId} {c : Connection} {s t : Session} {m : Message}
    (hl : Live id c s) (h : s.receive id = (.ok m, t)) : ∃ c', Hears id c c' s t := by
  obtain ⟨m₀, n, c', -, -, hreads, ha, -, -⟩ := receive_ok hl.found hl.inStep h
  exact ⟨c', hreads.hears ha⟩

/-- **Who waits for a reply and gets one did nothing but listen to that connection.** -/
theorem awaitReply_hears {id : ConnectionId} (role : Role) (expected : List Kind)
    {c : Connection} {s : Session} (hl : Live id c s) {m : Message}
    (h : (s.awaitReply id role expected).1 = .ok m) :
    ∃ c', Hears id c c' s (s.awaitReply id role expected).2 := by
  -- The induction follows the receives, all on that connection; each leaves it live.
  fun_induction awaitReply id role expected s generalizing c with
  | case1 => cases h
  | case2 => cases h
  | case3 s m' t hr hk u ht ih =>
    -- an announcement, which is taken up
    obtain ⟨c', hears⟩ := receive_hears hl hr
    have htaken := Hears.takeAnnouncement hears.live m'
    rw [ht] at htaken
    obtain ⟨c'', hrest⟩ := ih htaken.live h
    exact ⟨c'', (hears.trans htaken).trans hrest⟩
  | case4 s m' t hr hk hw =>
    -- the reply
    obtain ⟨c', hears⟩ := receive_hears hl hr
    exact ⟨c', hears⟩
  | case5 => cases h
  | case6 s m' t hr hk hw hclosed ih =>
    -- any other message is deferred
    obtain ⟨c', hears⟩ := receive_hears hl hr
    have hdeferred : Hears id c' c' t (defer m' (t.report (.deferring m'.kind role))) :=
      .of_eq hears.live rfl rfl
    obtain ⟨c'', hrest⟩ := ih hdeferred.live h
    exact ⟨c'', (hears.trans hdeferred).trans hrest⟩

/-! ### Waiting for the next message -/

/-- Nothing is deferred, connection `id` is the only one to watch, it is `c` and live, and the polls
do not fail. -/
structure Attends (id : ConnectionId) (c : Connection) (s : Session) : Prop where
  live : Live id c s
  queue : s.worker.queue.items = []
  watched : s.worker.watched = [id]
  polls : s.env.net.PollsFine

theorem Attends.hears {id : ConnectionId} {c c' : Connection} {s t : Session}
    (h : Attends id c s) (hears : Hears id c c' s t) (hq : t.worker.queue.items = []) :
    Attends id c' t := by
  refine ⟨hears.live, hq, ?_, h.polls.of_suffix hears.net.faults⟩
  rw [hears.worker]
  exact h.watched

/-- A poll leaves what is to come on a connection alone. -/
theorem stream_polled (deadline : Option Nat) (c : Connection) (s : Session) :
    c.stream (s.polled deadline).env.net = c.stream s.env.net := by
  have hwaited := (Registry.waited_pollReadable s.worker.watched (deadline.map (· - s.now))
    s.worker.connections s.env).1
  exact congrArg (c.buffered ++ ·) (hwaited.links c.link).coming

theorem polled_hears {id : ConnectionId} {c : Connection} {s : Session} (hl : Live id c s)
    (deadline : Option Nat) :
    Hears id c c s (s.polled deadline) ∧ (s.polled deadline).holding = s.holding := by
  obtain ⟨hwaited, henv⟩ := Registry.waited_pollReadable s.worker.watched
    (deadline.map (· - s.now)) s.worker.connections s.env
  refine ⟨⟨rfl, ⟨hl.found, ?_, hl.alive⟩, rfl, rfl, fun _ _ => rfl, rfl,
    hwaited.listensOn c.link⟩, ?_⟩
  · exact hl.inStep.of_readTimeout (Nat.le_of_eq hwaited.count.symm)
      (hwaited.links c.link).readTimeout
  · exact congrArg (fun r => (s.worker.segments, r.2.files)) henv

/-- What is read is the first message on the stream. -/
theorem readFrom_ok {id : ConnectionId} {c : Connection} {s t : Session} {m : Message}
    (hc : s.worker.connections.get? id = some c) (hs : c.InStep s.env.net)
    (h : s.readFrom none id = (.ok (some m), t)) :
    ∃ m₀ n c', m = m₀.withOrigin id ∧ Frame.decode (c.stream s.env.net) = .ok (m₀, n) ∧
      Hears id c c' s t ∧ t.worker.queue = s.worker.queue ∧
      t.env.net.pollFaults = s.env.net.pollFaults ∧ t.holding = s.holding ∧
      c'.stream t.env.net = (c.stream s.env.net).drop n ∧
      (t.env.net.link c.link).coming = (c.stream s.env.net).drop n := by
  rw [readFrom, receiveBy] at h
  cases hr : s.receive id with
  | mk x u =>
    rw [hr] at h
    cases x with
    | error e => cases h
    | ok m' =>
      obtain ⟨hm, rfl⟩ := Prod.mk.inj h
      obtain rfl : m' = m := Option.some.inj (Except.ok.inj hm)
      obtain ⟨m₀, n, c', rfl, hd, hreads, ha, hrest, hleft⟩ := receive_ok hc hs hr
      have hears := hreads.hears ha
      have hreport : Hears id c' c' u (u.report (.controlReceived m₀.kind id)) :=
        .of_eq hears.live rfl rfl
      exact ⟨m₀, n, c', rfl, hd, hears.trans hreport, hreads.queue, hreads.net.faults,
        hreads.holding, hrest, hleft⟩

/-- **With one connection to watch and nothing deferred, the next message is read off that
connection.** -/
theorem nextMessage_of_single {id : ConnectionId} {c : Connection} {s : Session}
    (h : Attends id c s) :
    ∃ t, Hears id c c s t ∧ t.worker.queue.items = [] ∧ t.env.net.pollFaults = [] ∧
      t.holding = s.holding ∧ c.stream t.env.net = c.stream s.env.net ∧
      s.nextMessage none = t.readFrom none id := by
  obtain ⟨hears, hholding⟩ := polled_hears h.live none
  have hpoll := Registry.pollReadable_single h.live.found h.polls
  rw [← h.watched] at hpoll
  exact ⟨s.polled none, hears, (MessageQueue.pop_of_items_nil h.queue).2, hpoll.2, hholding,
    stream_polled none c s, nextMessage_of_polled h.queue (Prod.ext hpoll.1 rfl)⟩

/-- The next message of a single connection is the first one on its stream. -/
theorem nextMessage_ok {id : ConnectionId} {c : Connection} {s t : Session} {m : Message}
    (h : Attends id c s) (hn : s.nextMessage none = (.ok (some m), t)) :
    ∃ m₀ n c', m = m₀.withOrigin id ∧ Frame.decode (c.stream s.env.net) = .ok (m₀, n) ∧
      Hears id c c' s t ∧ Attends id c' t ∧ t.env.net.pollFaults = [] ∧
      t.holding = s.holding ∧ c'.stream t.env.net = (c.stream s.env.net).drop n ∧
      (t.env.net.link c.link).coming = (c.stream s.env.net).drop n := by
  obtain ⟨p, hears, hq, hfaults, hholding, hstream, heq⟩ := nextMessage_of_single h
  rw [heq] at hn
  obtain ⟨m₀, n, c', rfl, hd, hread, hqueue, hfaults', hholding', hrest, hleft⟩ :=
    readFrom_ok hears.live.found hears.live.inStep hn
  rw [hstream] at hd hrest hleft
  have hall := hears.trans hread
  exact ⟨m₀, n, c', rfl, hd, hall, h.hears hall (by rw [hqueue, hq]), hfaults'.trans hfaults,
    hholding'.trans hholding, hrest, hleft⟩

/-- Without a next message there is no frame on the stream. -/
theorem nextMessage_verdict {id : ConnectionId} {c : Connection} {s t : Session}
    {e : CoordinatorError} (h : Attends id c s) (hn : s.nextMessage none = (.error e, t)) :
    Verdict id c.role (fun _ => True) s.worker.config.segmentDir (c.stream s.env.net) s.holding
      (.error e) t.holding (t.env.net.link c.link).coming := by
  obtain ⟨p, hears, -, -, hholding, hstream, heq⟩ := nextMessage_of_single h
  rw [heq, readFrom, receiveBy] at hn
  obtain ⟨c', hreads, hx⟩ := receive_reads hears.live.found hears.live.inStep hears.live.alive
  cases hr : p.receive id with
  | mk x u =>
    rw [hr] at hn hreads hx
    cases x with
    | ok m => cases hn
    | error f =>
      have hspares := u.spares_receiveFailed id f
      obtain rfl : (u.receiveFailed id f).2 = t := (Prod.mk.inj hn).2
      dsimp only at hreads hx
      rw [hspares.holding, hreads.holding, hholding, hspares.net]
      rw [hstream] at hx
      rcases hx with ⟨needed, hd⟩ | ⟨n, hd, hleft⟩
      · exact .ended hd
      · rw [hleft]
        exact .oversized hd

theorem nextMessage_ne_none {id : ConnectionId} {c : Connection} {s t : Session}
    (h : Attends id c s) : s.nextMessage none ≠ (.ok none, t) := by
  intro hn
  obtain ⟨p, -, -, -, -, -, heq⟩ := nextMessage_of_single h
  rw [heq, readFrom, receiveBy] at hn
  cases hr : p.receive id with
  | mk x u =>
    rw [hr] at hn
    cases x with
    | error e => cases hn
    | ok m => cases hn

/-! ### Waiting for a control message -/

/-- The answer of a wait without a deadline. -/
def answerOf : Except CoordinatorError (Option Message) → Except CoordinatorError Message
  | .ok (some m) => .ok m
  | .ok none => .error (.missingConnection .controller)
  | .error e => .error e

theorem wait_eq (s : Session) : s.wait = (answerOf (s.waitUntil none).1, (s.waitUntil none).2) := by
  rw [wait]
  generalize s.waitUntil none = r
  rcases r with ⟨e | _ | m, t⟩ <;> rfl

/-- **Waiting for a control message is a scan of the stream** for a message that is no announcement;
who gets one did nothing else. -/
theorem wait_scans {id : ConnectionId} {c : Connection} {s : Session} (h : Attends id c s) :
    ∃ passed, Scan id c.role (fun _ => True) s.worker.config.segmentDir (c.stream s.env.net)
        s.holding passed s.wait.1 s.wait.2.holding (s.wait.2.env.net.link c.link).coming ∧
      ∀ m, s.wait.1 = .ok m →
        ∃ c', Hears id c c' s s.wait.2 ∧ s.wait.2.worker.queue.items = [] ∧
          s.wait.2.env.net.pollFaults = [] := by
  rw [wait_eq]
  dsimp only
  -- The induction follows the messages that are read; each leaves the connection to attend to.
  generalize hd : (none : Option Nat) = deadline
  fun_induction waitUntil deadline s generalizing c with
  | case1 s e t hn =>
    subst hd
    refine ⟨[], (nextMessage_verdict h hn).scan, ?_⟩
    rintro m ⟨⟩
  | case2 s t hn =>
    subst hd
    exact absurd hn (nextMessage_ne_none h)
  | case3 s m t hn hk e u ht =>
    -- an announcement that cannot be attached
    subst hd
    obtain ⟨m₀, n, c', rfl, hd, hears, -, -, hholding, -, hleft⟩ := nextMessage_ok h hn
    obtain ⟨a, f, hannounces, rfl, hattach⟩ := takeAnnouncement_error hk ht
    have hnet := t.net_takeAnnouncement (m₀.withOrigin id)
    rw [ht] at hnet
    rw [hholding, hears.config] at hattach
    refine ⟨[], Verdict.scan ?_, by rintro m ⟨⟩⟩
    rw [hnet, hleft]
    exact .unattachable hd hannounces hattach
  | case4 s m t hn hk u ht ih =>
    -- an announcement; the wait goes on where it ended
    subst hd
    obtain ⟨m₀, n, c', rfl, hd, hears, hattends, -, hholding, hrest, -⟩ :=
      nextMessage_ok h hn
    have htaken := takeAnnouncement_ok hk ht
    have htake := Hears.takeAnnouncement hattends.live (m₀.withOrigin id)
    have hqueue := t.queue_takeAnnouncement (m₀.withOrigin id)
    have hnet := t.net_takeAnnouncement (m₀.withOrigin id)
    rw [ht] at htake hqueue hnet
    rw [hholding, hears.config] at htaken
    obtain ⟨passed, hscan, hears'⟩ :=
      ih (hattends.hears htake (by rw [hqueue]; exact hattends.queue))
    rw [hnet, hrest, hears.role, htake.config, hears.config, hears.link] at hscan
    refine ⟨m₀.withOrigin id :: passed, Scan.cons hd (.inl hk) htaken hscan, fun m hm => ?_⟩
    obtain ⟨c'', hlast, hempty, hfaults⟩ := hears' m hm
    exact ⟨c'', (hears.trans htake).trans hlast, hempty, hfaults⟩
  | case5 s m t hn hk =>
    -- any other message is the answer
    subst hd
    obtain ⟨m₀, n, c', rfl, hd, hears, hattends, hfaults, hholding, -, hleft⟩ :=
      nextMessage_ok h hn
    refine ⟨[], Verdict.scan ?_, fun _ _ => ⟨c', hears, hattends.queue, hfaults⟩⟩
    dsimp only
    rw [hleft, hholding]
    exact .answer hd hk trivial

end Session

end PipelineWorker
