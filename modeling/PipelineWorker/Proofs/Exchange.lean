/-
What an exchange does with the stream of its connection.

* `receive_reads` — a receive of the coordinator takes the first message off the stream of the
  connection, or finds that there is none;
* `awaitReply_scans` — waiting for a reply is a scan of the stream;
* `exchange_scans` — the same of a whole exchange, once the request was sent.
-/
import PipelineWorker.Proofs.Reachable
import PipelineWorker.Proofs.Scanning

namespace PipelineWorker

namespace Session

/-- From `s` to `t` the worker did nothing but receive on connection `id`, which was `c` and is `c'`
now. -/
structure Reads (id : ConnectionId) (c c' : Connection) (s t : Session) : Prop where
  worker : t.worker = { s.worker with connections := t.worker.connections }
  connections : t.worker.connections = s.worker.connections.put c'
  found : t.worker.connections.get? id = some c'
  link : c'.link = c.link
  role : c'.role = c.role
  inStep : c'.InStep t.env.net
  files : t.env.files = s.env.files
  net : Network.ReadsOn c.link s.env.net t.env.net

theorem Reads.queue {id : ConnectionId} {c c' : Connection} {s t : Session}
    (h : Reads id c c' s t) : t.worker.queue = s.worker.queue := by
  rw [h.worker]

theorem Reads.config {id : ConnectionId} {c c' : Connection} {s t : Session}
    (h : Reads id c c' s t) : t.worker.config = s.worker.config := by
  rw [h.worker]

theorem Reads.holding {id : ConnectionId} {c c' : Connection} {s t : Session}
    (h : Reads id c c' s t) : t.holding = s.holding := by
  rw [Session.holding, Session.holding, h.files, h.worker]

theorem receive_eq {id : ConnectionId} {c : Connection} {s : Session}
    (hc : s.worker.connections.get? id = some c) :
    s.receive id = ((c.receive s.env).1,
      { worker := { s.worker with connections := s.worker.connections.put (c.receive s.env).2.1 }
        env := (c.receive s.env).2.2 }) := by
  rw [receive, Registry.receive, Registry.withConnection, hc]

theorem reads_receive {id : ConnectionId} {c : Connection} {s : Session}
    (hc : s.worker.connections.get? id = some c) (hs : c.InStep s.env.net) :
    Reads id c (c.receive s.env).2.1 s (s.receive id).2 := by
  have hid : (c.receive s.env).2.1.id = id := (c.id_receive s.env).trans (Registry.id_of_get? hc)
  rw [receive_eq hc]
  refine ⟨rfl, rfl, Registry.get?_put hc hid, ?_, ?_, ?_, ?_, ?_⟩
  · rw [Connection.receive_snd, Connection.link_receiveWith]
  · rw [Connection.receive_snd, Connection.role_receiveWith]
  · rw [Connection.receive_snd]
    exact Connection.inStep_receiveWith hs
  · show (c.receive s.env).2.2.files = s.env.files
    rw [Connection.receive_snd]
    exact (c.env_receiveWith none s.env).2
  · show Network.ReadsOn _ _ (c.receive s.env).2.2.net
    rw [Connection.receive_snd]
    exact Connection.readsOn_receiveWith none hs.linked

/-- **A receive takes the first message off the stream of its connection, or finds that there is
none.** -/
theorem receive_reads {id : ConnectionId} {c : Connection} {s : Session}
    (hc : s.worker.connections.get? id = some c) (hs : c.InStep s.env.net)
    (ha : c.alive = true) :
    ∃ c', Reads id c c' s (s.receive id).2 ∧
      match (s.receive id).1 with
      | .ok m => ∃ m₀ n, m = m₀.withOrigin id ∧
          Frame.decode (c.stream s.env.net) = .ok (m₀, n) ∧ c'.alive = true ∧
          c'.stream (s.receive id).2.env.net = (c.stream s.env.net).drop n ∧
          ((s.receive id).2.env.net.link c.link).coming = (c.stream s.env.net).drop n
      | .error _ =>
          (∃ needed, Frame.decode (c.stream s.env.net)
            = .error (.truncated needed (c.stream s.env.net).length)) ∨
          ∃ n, Frame.decode (c.stream s.env.net)
              = .error (.payloadTooLarge n Frame.maxPayload) ∧
            ((s.receive id).2.env.net.link c.link).coming
              = (c.stream s.env.net).drop Frame.headerLength := by
  refine ⟨_, reads_receive hc hs, ?_⟩
  have hr := Connection.receiveWith_reception none hs ha
  have hlink := c.link_receiveWith none s.env
  rw [receive_eq hc]
  rw [← Connection.receive_eq_receiveWith hs] at hr hlink
  rw [← Registry.id_of_get? hc]
  show match (c.receive s.env).1 with
    | .ok m => _
    | .error _ => _
  dsimp only at hr hlink ⊢
  -- From here on it matters only that answer, connection and surroundings fit together.
  generalize (c.receive s.env).1 = x at hr ⊢
  generalize (c.receive s.env).2.1 = c' at hr hlink ⊢
  generalize (c.receive s.env).2.2 = env' at hr ⊢
  cases x with
  | ok m =>
    cases hr with
    | @message m₀ n _ _ frame alive emptied rest =>
      refine ⟨m₀, n, rfl, frame, alive, rest, ?_⟩
      rw [← rest, Connection.stream, emptied, hlink]
      rfl
  | error e =>
    generalize hx : Except.map some (.error e) = y at hr
    cases hr with
    | message => exact absurd hx (by simp [Except.map])
    | refused header dead emptied rest =>
      obtain ⟨n, rfl⟩ := Frame.exists_of_length?_error header
      exact .inr ⟨n, Frame.decode_of_length?_error header, rest⟩
    | ended short => exact .inl ⟨_, short⟩
    | late limited => exact absurd limited Bool.false_ne_true

theorem receive_ok {id : ConnectionId} {c : Connection} {s t : Session} {m : Message}
    (hc : s.worker.connections.get? id = some c) (hs : c.InStep s.env.net)
    (h : s.receive id = (.ok m, t)) :
    ∃ m₀ n c', m = m₀.withOrigin id ∧ Frame.decode (c.stream s.env.net) = .ok (m₀, n) ∧
      Reads id c c' s t ∧ c'.alive = true ∧
      c'.stream t.env.net = (c.stream s.env.net).drop n ∧
      (t.env.net.link c.link).coming = (c.stream s.env.net).drop n := by
  have ha : (c.receive s.env).1 = .ok m := by
    rw [receive_eq hc] at h
    exact congrArg Prod.fst h
  obtain ⟨c', hreads, hx⟩ := receive_reads hc hs (Connection.alive_of_receive ha)
  rw [h] at hreads hx
  obtain ⟨m₀, n, hm, hd, ha', hstream, hleft⟩ := hx
  exact ⟨m₀, n, c', hm, hd, hreads, ha', hstream, hleft⟩

/-- Where a message comes, the receive hands it out. -/
theorem receive_of_frame {id : ConnectionId} {c : Connection} {s : Session} {m : Message} {n : Nat}
    (hc : s.worker.connections.get? id = some c) (hs : c.InStep s.env.net)
    (ha : c.alive = true) (hframe : Frame.decode (c.stream s.env.net) = .ok (m, n)) :
    ∃ t, s.receive id = (.ok (m.withOrigin id), t) := by
  obtain ⟨c', -, hx⟩ := receive_reads hc hs ha
  generalize s.receive id = r at hx ⊢
  rcases r with ⟨e | m', t⟩
  · rcases hx with ⟨needed, herror⟩ | ⟨n', herror, -⟩ <;> cases hframe.symm.trans herror
  · obtain ⟨m₀, n', rfl, hframe', -⟩ := hx
    obtain ⟨rfl, -⟩ := Frame.decode_unique hframe hframe'
    exact ⟨t, rfl⟩

/-! ### Losing the connection -/

/-- From `s` to `t` messages, segments, files and links stay. -/
structure Spares (s t : Session) : Prop where
  queue : t.worker.queue = s.worker.queue
  holding : t.holding = s.holding
  net : t.env.net = s.env.net

theorem spares_terminate (s : Session) : Spares s s.terminate := by
  refine ⟨s.queue_terminate, ?_, rfl⟩
  rw [holding, holding, worker_terminate]
  rfl

theorem spares_drop (id : ConnectionId) (s : Session) : Spares s (s.drop id).2 := by
  refine ⟨rfl, ?_, Registry.net_remove ..⟩
  show (s.worker.segments, (s.worker.connections.remove id s.env).2.2.files) = _
  rw [Registry.remove]
  split <;> rfl

theorem Spares.trans {s t u : Session} (h : Spares s t) (h' : Spares t u) : Spares s u :=
  ⟨h'.queue.trans h.queue, h'.holding.trans h.holding, h'.net.trans h.net⟩

theorem spares_report (event : Event) (s : Session) : Spares s (s.report event) := ⟨rfl, rfl, rfl⟩

theorem spares_connectionLost (id : ConnectionId) (s : Session) :
    Spares s (s.connectionLost id).2 := by
  have hd := s.spares_drop id
  rw [connectionLost]
  dsimp only
  split
  · exact hd.trans (spares_report _ _)
  · exact (hd.trans (spares_report _ _)).trans (spares_terminate _)

theorem spares_receiveFailed (id : ConnectionId) (e : NetError) (s : Session) :
    Spares s (s.receiveFailed id e).2 := by
  unfold receiveFailed
  split
  · exact s.spares_connectionLost id
  · exact (s.spares_report _).trans (spares_connectionLost id _)

theorem spares_sendFailed (id : ConnectionId) (s : Session) :
    Spares s (s.sendFailed id).2 := by
  rw [sendFailed]
  split
  · exact ((s.spares_drop id).trans (spares_report _ _)).trans (spares_terminate _)
  · exact s.spares_connectionLost id

theorem Spares.segments {s t : Session} (h : Spares s t) :
    t.worker.segments = s.worker.segments := congrArg Prod.fst h.holding

/-- The loss of a connection is told with its role. -/
theorem fst_connectionLost {id : ConnectionId} {c : Connection} {s : Session}
    (hc : s.worker.connections.get? id = some c) :
    (s.connectionLost id).1 = .peerDisconnected c.role := by
  rw [connectionLost, drop, remove, Registry.remove, hc]
  rfl

/-! ### Waiting for a reply -/

/-- **Waiting for a reply is a scan of the stream.**  What is passed over is deferred, but for the
announcements of segments. -/
theorem awaitReply_scans {id : ConnectionId} (role : Role) (expected : List Kind) {c : Connection}
    {s : Session} (hc : s.worker.connections.get? id = some c) (hs : c.InStep s.env.net)
    (ha : c.alive = true) :
    ∃ passed, Scan id c.role (· ∈ expected) s.worker.config.segmentDir (c.stream s.env.net)
        s.holding passed (s.awaitReply id role expected).1
        (s.awaitReply id role expected).2.holding
        ((s.awaitReply id role expected).2.env.net.link c.link).coming ∧
      (s.awaitReply id role expected).2.worker.queue.items
        = s.worker.queue.items ++ proper passed := by
  -- The induction follows the receives; the connection stays registered, alive and in step.
  fun_induction awaitReply id role expected s generalizing c with
  | case1 s e t hr e' u hf =>
    -- nothing more to receive
    obtain ⟨c', hreads, hx⟩ := receive_reads hc hs ha
    rw [hr] at hreads hx
    have hspares := t.spares_receiveFailed id e
    rw [hf] at hspares
    refine Verdict.scans ?_ (by rw [hspares.queue, hreads.queue])
    rw [← hreads.holding, ← hspares.holding, hspares.net]
    rcases hx with ⟨needed, hd⟩ | ⟨n, hd, hleft⟩
    · exact .ended hd
    · rw [hleft]
      exact .oversized hd
  | case2 s m t hr hk e u ht =>
    -- an announcement that cannot be attached
    obtain ⟨m₀, n, c', rfl, hd, hreads, -, -, hleft⟩ := receive_ok hc hs hr
    obtain ⟨a, f, hannounces, rfl, hattach⟩ := takeAnnouncement_error hk ht
    have hqueue := t.queue_takeAnnouncement (m₀.withOrigin id)
    have hnet := t.net_takeAnnouncement (m₀.withOrigin id)
    rw [ht] at hqueue hnet
    rw [hreads.holding, hreads.config] at hattach
    refine Verdict.scans ?_ (by rw [hqueue, hreads.queue])
    rw [hnet, hleft]
    exact .unattachable hd hannounces hattach
  | case3 s m t hr hk u ht ih =>
    -- an announcement; it is passed over and taken up, but not deferred
    obtain ⟨m₀, n, c', rfl, hd, hreads, ha', hstream, -⟩ := receive_ok hc hs hr
    have htaken := takeAnnouncement_ok hk ht
    have hworker := t.worker_takeAnnouncement (m₀.withOrigin id)
    have hnet := t.net_takeAnnouncement (m₀.withOrigin id)
    rw [ht] at hworker hnet
    rw [hreads.holding, hreads.config] at htaken
    obtain ⟨passed, hscan, hdeferred⟩ := ih (by rw [hworker]; exact hreads.found)
      (by rw [hnet]; exact hreads.inStep) ha'
    rw [hworker, hnet, hstream, hreads.role, hreads.link] at hscan
    rw [hworker] at hdeferred
    refine ⟨m₀.withOrigin id :: passed, Scan.cons hd (.inl hk) htaken ?_, ?_⟩
    · rw [← hreads.config]
      exact hscan
    · rw [hdeferred, hreads.queue, proper_cons_announcement hk]
  | case4 s m t hr hk hw =>
    -- the answer
    obtain ⟨m₀, n, c', rfl, hd, hreads, -, -, hleft⟩ := receive_ok hc hs hr
    refine Verdict.scans ?_ (by rw [hreads.queue])
    rw [hleft, hreads.holding]
    exact .answer hd hk hw
  | case5 s m t hr hk hw hclosed e u hl =>
    -- a farewell that nobody expects
    obtain ⟨m₀, n, c', rfl, hd, hreads, -, -, hleft⟩ := receive_ok hc hs hr
    have hspares := t.spares_connectionLost id
    have herror := fst_connectionLost hreads.found
    rw [hl] at hspares herror
    obtain rfl : e = .peerDisconnected c.role := by rw [← hreads.role]; exact herror
    refine Verdict.scans ?_ (by rw [hspares.queue, hreads.queue])
    rw [hspares.net, hleft, hspares.holding, hreads.holding]
    exact .closed hd hclosed hw
  | case6 s m t hr hk hw hclosed ih =>
    -- any other message; it is passed over and deferred, and attaches nothing
    obtain ⟨m₀, n, c', rfl, hd, hreads, ha', hstream, -⟩ := receive_ok hc hs hr
    obtain ⟨passed, hscan, hdeferred⟩ := ih hreads.found hreads.inStep ha'
    have hqueue : (defer (m₀.withOrigin id) (t.report (.deferring m₀.kind role))).worker.queue.items
        = s.worker.queue.items ++ [m₀.withOrigin id] := by
      rw [← hreads.queue]
      exact MessageQueue.items_push _ _
    have htaken : s.holding.takeUp s.worker.config.segmentDir
        (announcements [m₀.withOrigin id]) = .ok s.holding :=
      Holding.takeUp_of_none (if_neg hk) ..
    refine ⟨m₀.withOrigin id :: passed, Scan.cons hd (.inr ⟨hw, hclosed⟩) htaken ?_, ?_⟩
    · rw [← hreads.config, ← hreads.holding, ← hreads.role, ← hreads.link, ← hstream]
      exact hscan
    · rw [hdeferred, proper_cons hk, ← List.singleton_append, ← List.append_assoc]
      exact congrArg (· ++ _) hqueue

/-! ### Sending the request -/

/-- The session once a message was sent on the connection `c`. -/
def afterSend (m : Message) (c : Connection) (s : Session) : Session :=
  { worker := { s.worker with connections := s.worker.connections.put c }
    env := c.written m s.env }

/-- A send that succeeded leaves the connection as it was, and wrote on its link. -/
theorem send_ok {id : ConnectionId} {c : Connection} {s : Session} {m : Message}
    (hc : s.worker.connections.get? id = some c) (h : (s.send id m).1 = .ok ()) :
    c.alive = true ∧ ((s.env.net.link c.link).send m).1 = .ok () ∧
      s.send id m = (.ok (), s.afterSend m c) := by
  have heq : s.send id m = ((c.send m s.env).1,
      { worker := { s.worker with connections := s.worker.connections.put (c.send m s.env).2.1 }
        env := (c.send m s.env).2.2 }) := by
    rw [send, Registry.send, Registry.withConnection, hc]
  rw [heq] at h
  obtain ⟨ha, hlink, hsame⟩ := Connection.send_ok h
  refine ⟨ha, hlink, ?_⟩
  rw [heq, hsame]
  exact congrArg (·, s.afterSend m c) h

/-- A message that was sent leaves the stream of the connection alone. -/
theorem found_afterSend {id : ConnectionId} {c : Connection} {s : Session} (m : Message)
    (hc : s.worker.connections.get? id = some c) (hs : c.InStep s.env.net) :
    (s.afterSend m c).worker.connections.get? id = some c ∧
      c.InStep (s.afterSend m c).env.net ∧
      c.stream (s.afterSend m c).env.net = c.stream s.env.net := by
  have hw := Connection.writesOn_written m hs.linked
  refine ⟨Registry.get?_put hc (Registry.id_of_get? hc),
    hs.of_readTimeout (Nat.le_of_eq hw.count.symm) hw.readTimeout, ?_⟩
  show c.buffered ++ ((c.written m s.env).net.link c.link).coming = _
  rw [Link.coming, hw.arrivals]
  rfl

/-- **Once the request was sent, an exchange is a scan of the stream of its connection.**  The
scan ends with the first message that is expected and is no announcement, with an unexpected
farewell, with an announced segment that cannot be attached, or with the stream.  The other messages
on the way are deferred in the order of their arrival, and nothing behind the last one is read. -/
theorem exchange_scans {s : Session} {id : ConnectionId} {c : Connection} {request : Message}
    {expected : List Kind} (hr : s.Reachable) (hc : s.worker.connections.get? id = some c)
    (hsent : (s.send id request).1 = .ok ()) :
    ∃ passed, Scan id c.role (· ∈ expected) s.worker.config.segmentDir (c.stream s.env.net)
        s.holding passed (s.exchange id request expected).1
        (s.exchange id request expected).2.holding
        ((s.exchange id request expected).2.env.net.link c.link).coming ∧
      (s.exchange id request expected).2.worker.queue.items
        = s.worker.queue.items ++ proper passed := by
  have hs := hr.sound.get? hc
  obtain ⟨ha, -, hsend⟩ := send_ok hc hsent
  obtain ⟨hfound, hstep, hstream⟩ := found_afterSend request hc hs
  have hexchange : s.exchange id request expected
      = (s.afterSend request c).awaitReply id c.role expected := by
    rw [exchange, hc]
    dsimp only
    rw [hsend]
  have hscans := awaitReply_scans c.role expected hfound hstep ha
  rw [hstream] at hscans
  rw [hexchange]
  exact hscans

/-- A peer says something else before it answers, and its first frame comes in two parts. -/
theorem exchange_scans_of_peer :
    ∃ s c, Reachable s ∧ s.worker.connections.get? ⟨0⟩ = some c ∧
      (s.send ⟨0⟩ (.empty .start)).1 = .ok () ∧
      c.stream s.env.net = [0, 0, 0, 6, 0, 0, 0, 0, 0, 0, 0, 3, 0, 0, 0, 0] ∧
      ∃ passed, Scan ⟨0⟩ c.role (· ∈ [.finished]) s.worker.config.segmentDir (c.stream s.env.net)
          s.holding passed (s.exchange ⟨0⟩ (.empty .start) [.finished]).1
          (s.exchange ⟨0⟩ (.empty .start) [.finished]).2.holding
          ((s.exchange ⟨0⟩ (.empty .start) [.finished]).2.env.net.link c.link).coming ∧
        (s.exchange ⟨0⟩ (.empty .start) [.finished]).2.worker.queue.items
          = s.worker.queue.items ++ proper passed := by
  have hr := Reachable.call (.fresh (.ofController "here" 4000) 1 { net := { listeners := [
      { addr := .unspecified, port := 5000,
        script := [(0, .data [0, 0, 0, 6, 0]), (5, .data [0, 0, 0, 0, 0, 0, 3, 0, 0, 0, 0])] }] } })
    (.addConnection .peer ⟨.unspecified, "here"⟩ 5000 none)
  exact ⟨_, _, hr, rfl, rfl, rfl, exchange_scans hr rfl rfl⟩

end Session

end PipelineWorker
