/-
What becomes of the messages that were read.

Every message that is read off a connection is handed out at once, or it waits in the queue until it
is handed out; only announcements of segments, the replies of exchanges and a farewell that ends an
exchange do not pass through the queue.

* `waitUntil_takes` — a wait hands out the oldest deferred message, or else the first that it reads;
* `exchange_defers` — an exchange defers what it reads, but for its reply.
-/
import PipelineWorker.Proofs.Scanning
import PipelineWorker.Proofs.Reachable

namespace PipelineWorker

/-- The message that came out, if one did. -/
def outcome {ε : Type} : Except ε (Option Message) → List Message
  | .ok (some m) => [m]
  | _ => []

/-! ### What is read -/

namespace Connection

/-- A message is reported as received when it is handed out, and only then. -/
theorem received_receiveWith (deadline : Option Nat) (c : Connection) (env : Environment) :
    (c.receiveWith deadline env).2.2.received
      = env.received ++ outcome (c.receiveWith deadline env).1 := by
  cases ha : c.alive with
  | false =>
    rw [receiveWith_of_dead ha]
    exact (List.append_nil _).symm
  | true =>
    rw [receiveWith_of_alive ha]
    match ((c.reading env.net).readFrame deadline).1 with
    | .ok none => exact (List.append_nil _).symm
    | .ok (some m) => exact Environment.received_report ..
    | .error e =>
      obtain ⟨h1, -, -, h4⟩ := conclude_error e ((c.reading env.net).readFrame deadline).2 c env
      rw [h1, h4]
      exact (List.append_nil _).symm

theorem received_receive (c : Connection) (env : Environment) :
    (c.receive env).2.2.received = env.received ++ outcome ((c.receive env).1.map some) := by
  have h := c.received_receiveWith none env
  rw [receive_snd, h]
  rw [receive]
  generalize c.receiveWith none env = r
  rcases r with ⟨e | _ | m, c', env'⟩ <;> rfl

end Connection

namespace Session

/-- From `s` to `t` nothing was read, and the deferred messages stay. -/
structure Quiet (s t : Session) : Prop where
  received : t.env.received = s.env.received
  queue : t.worker.queue = s.worker.queue

theorem Quiet.refl (s : Session) : Quiet s s := ⟨rfl, rfl⟩

theorem Quiet.trans {s t u : Session} (h : Quiet s t) (h' : Quiet t u) : Quiet s u :=
  ⟨h'.received.trans h.received, h'.queue.trans h.queue⟩

/-- From `s` to `t` the messages `ms` were read, and nothing else happened to messages. -/
structure ReadOff (ms : List Message) (s t : Session) : Prop where
  received : t.env.received = s.env.received ++ ms
  queue : t.worker.queue = s.worker.queue

theorem receive_readOff (id : ConnectionId) (s : Session) :
    ReadOff (outcome ((s.receive id).1.map some)) s (s.receive id).2 := by
  refine ⟨?_, rfl⟩
  rw [receive, Registry.receive, Registry.withConnection]
  cases s.worker.connections.get? id with
  | none => exact (List.append_nil _).symm
  | some c => exact c.received_receive s.env

theorem receiveUntil_readOff (id : ConnectionId) (deadline : Nat) (s : Session) :
    ReadOff (outcome (s.receiveUntil id deadline).1) s (s.receiveUntil id deadline).2 := by
  refine ⟨?_, rfl⟩
  rw [receiveUntil, Registry.receiveUntil, Registry.withConnection]
  cases s.worker.connections.get? id with
  | none => exact (List.append_nil _).symm
  | some c => exact c.received_receiveWith (some deadline) s.env

theorem receiveBy_readOff (deadline : Option Nat) (id : ConnectionId) (s : Session) :
    ReadOff (outcome (s.receiveBy deadline id).1) s (s.receiveBy deadline id).2 := by
  cases deadline with
  | none => exact s.receive_readOff id
  | some d => exact s.receiveUntil_readOff id d

/-! ### What is quiet -/

theorem quiet_report (event : Event) (h : event.message? = none) (s : Session) :
    Quiet s (s.report event) := by
  refine ⟨?_, rfl⟩
  show (s.env.report event).received = _
  rw [Environment.received_report, h]
  exact List.append_nil _

theorem quiet_terminate (s : Session) : Quiet s s.terminate := ⟨rfl, s.queue_terminate⟩

theorem quiet_drop (id : ConnectionId) (s : Session) : Quiet s (s.drop id).2 := by
  refine ⟨?_, rfl⟩
  show (s.worker.connections.remove id s.env).2.2.received = _
  rw [Registry.remove]
  split
  · rfl
  · exact (Environment.received_report ..).trans (List.append_nil _)

theorem quiet_connectionLost (id : ConnectionId) (s : Session) :
    Quiet s (s.connectionLost id).2 := by
  have hd := s.quiet_drop id
  rw [connectionLost]
  dsimp only
  split
  · exact hd.trans (quiet_report _ rfl _)
  · exact (hd.trans (quiet_report _ rfl _)).trans (quiet_terminate _)

theorem quiet_receiveFailed (id : ConnectionId) (e : NetError) (s : Session) :
    Quiet s (s.receiveFailed id e).2 := by
  unfold receiveFailed
  split
  · exact s.quiet_connectionLost id
  · exact (quiet_report _ rfl s).trans (quiet_connectionLost id _)

theorem quiet_sendFailed (id : ConnectionId) (s : Session) : Quiet s (s.sendFailed id).2 := by
  rw [sendFailed]
  split
  · exact ((s.quiet_drop id).trans (quiet_report _ rfl _)).trans (quiet_terminate _)
  · exact s.quiet_connectionLost id

theorem quiet_send (id : ConnectionId) (m : Message) (s : Session) :
    Quiet s (s.send id m).2 := by
  refine ⟨?_, rfl⟩
  rw [send, Registry.send, Registry.withConnection]
  cases s.worker.connections.get? id with
  | none => rfl
  | some c =>
    show (c.send m s.env).2.2.received = s.env.received
    have hwritten : (c.written m s.env).received = s.env.received :=
      (Environment.received_report ..).trans (List.append_nil _)
    cases ha : c.alive with
    | false => rw [Connection.send_of_dead ha]
    | true =>
      cases hl : ((s.env.net.link c.link).send m).1 with
      | ok u => rw [Connection.send_of_ok ha hl, hwritten]
      | error e =>
        rw [Connection.send_of_error ha hl, Environment.received_reportAll, hwritten,
          Connection.failed]
        split
        · exact List.append_nil _
        · exact List.append_nil _

theorem quiet_sendToDatamanager (m : Message) (s : Session) :
    Quiet s (s.sendToDatamanager m).2 := by
  rw [sendToDatamanager]
  split
  · exact .refl s
  · rename_i id hid
    have hs := s.quiet_send id m
    generalize s.send id m = r at hs ⊢
    rcases r with ⟨e | u, t⟩
    · exact (hs.trans (quiet_report _ rfl _)).trans (quiet_sendFailed id _)
    · exact hs

theorem quiet_takeAnnouncement (m : Message) (s : Session) :
    Quiet s (s.takeAnnouncement m).2 := by
  refine ⟨?_, s.queue_takeAnnouncement m⟩
  rw [takeAnnouncement]
  split
  · exact (quiet_report _ rfl s).received
  · rename_i a ha
    have hattach := s.access.quiet_attach a.key a.size.toNat s.env.files
    rw [attachAnnounced]
    generalize s.access.attach a.key a.size.toNat s.env.files = r at hattach ⊢
    obtain ⟨x, access, files, events⟩ := r
    have henv : (({ s.env with files } : Environment).reportAll events).received
        = s.env.received := by
      rw [Environment.received_reportAll, hattach, List.append_nil]
      rfl
    cases x with
    | error e => exact henv
    | ok handle => exact (Environment.received_report ..).trans ((List.append_nil _).trans henv)

/-- To defer a message is not to receive it. -/
theorem received_defer (m : Message) (s : Session) : (s.defer m).env.received = s.env.received := by
  rw [defer, MessageQueue.push]
  show (s.env.reportAll _).received = _
  rw [Environment.received_reportAll]
  split <;> exact List.append_nil _

theorem quiet_pollWatched (deadline : Option Nat) (s : Session) :
    Quiet s (s.pollWatched deadline).2 := by
  refine ⟨?_, rfl⟩
  show (Registry.pollReadable ..).2.received = _
  rw [(Registry.waited_pollReadable ..).2]
  rfl

theorem quiet_addConnection (role : Role) (endpoint : Endpoint) (port : Port)
    (timeout : Option Nat) (s : Session) :
    Quiet s (s.addConnection role endpoint port timeout).2 := by
  refine ⟨?_, rfl⟩
  rw [addConnection, Registry.add]
  dsimp only
  cases hd : Connection.dial ⟨s.worker.connections.nextId⟩ role endpoint port timeout s.env with
  | mk x env =>
    cases x with
    | error e =>
      obtain ⟨-, -, hlog⟩ := Connection.dial_error hd
      show env.received = s.env.received
      rw [Environment.received, Environment.received, Environment.events, Environment.events, hlog]
    | ok c =>
      obtain ⟨l, -, -, -, henv⟩ := Connection.dial_ok hd
      show env.received = s.env.received
      rw [henv]
      exact (Environment.received_report ..).trans (List.append_nil _)

theorem lasting_quiet : Coordinated.Lasting Quiet where
  refl := Quiet.refl
  trans := Quiet.trans
  aside _ hq _ hr := ⟨hr, hq⟩
  addConnection := quiet_addConnection

/-! ### Waiting -/

/-- From `s` to `t` the messages `read` were read off connections and `out` was handed out: the
oldest deferred message, or else the first one that arrived and announces no segment. -/
structure Takes (read out : List Message) (s t : Session) : Prop where
  received : t.env.received = s.env.received ++ read
  source : (proper read = [] ∧ s.worker.queue.items = out ++ t.worker.queue.items) ∨
    (proper read = out ∧ s.worker.queue.items = [] ∧ t.worker.queue.items = [])

/-- What was taken before stays taken; `out` can come later only if nothing was deferred. -/
theorem Takes.of_announcement {m : Message} {read out : List Message} {s t u : Session}
    (hm : m.kind = .newSharedSegment) (hq : s.worker.queue.items = [])
    (hr : t.env.received = s.env.received ++ [m]) (ht : t.worker.queue.items = [])
    (h : Takes read out t u) : Takes (m :: read) out s u := by
  constructor
  · rw [h.received, hr, List.append_assoc, List.singleton_append]
  · rw [proper_cons_announcement hm]
    rcases h.source with ⟨hread, hitems⟩ | ⟨hread, -, hafter⟩
    · exact .inl ⟨hread, by rw [hq, ← ht, hitems]⟩
    · exact .inr ⟨hread, hq, hafter⟩

theorem readFrom_readOff (deadline : Option Nat) (id : ConnectionId) (s : Session) :
    ReadOff (outcome (s.readFrom deadline id).1) s (s.readFrom deadline id).2 := by
  have hr := s.receiveBy_readOff deadline id
  rw [readFrom]
  generalize s.receiveBy deadline id = r at hr ⊢
  rcases r with ⟨e | _ | m, t⟩
  · have hq := t.quiet_receiveFailed id e
    exact ⟨hq.received.trans hr.received, hq.queue.trans hr.queue⟩
  · have hq := t.quiet_report (.deadlineInsideFrame id) rfl
    exact ⟨hq.received.trans hr.received, hq.queue.trans hr.queue⟩
  · have hq := t.quiet_report (.controlReceived m.kind id) rfl
    exact ⟨hq.received.trans hr.received, hq.queue.trans hr.queue⟩

theorem readNext_readOff (deadline : Option Nat) (s : Session) :
    ReadOff (outcome (s.readNext deadline).1) s (s.readNext deadline).2 := by
  have hp := s.quiet_pollWatched deadline
  rw [readNext]
  generalize s.pollWatched deadline = r at hp ⊢
  rcases r with ⟨e | _ | id, t⟩
  · exact ⟨hp.received.trans (List.append_nil _).symm, hp.queue⟩
  · exact ⟨hp.received.trans (List.append_nil _).symm, hp.queue⟩
  · have hr := t.readFrom_readOff deadline id
    refine ⟨?_, hr.queue.trans hp.queue⟩
    rw [← hp.received]
    exact hr.received

/-- The next message is the oldest deferred one; where there is none, it is read. -/
theorem nextMessage_cases (deadline : Option Nat) (s : Session) :
    ((s.nextMessage deadline).2.env.received = s.env.received ∧
      s.worker.queue.items = outcome (s.nextMessage deadline).1
        ++ (s.nextMessage deadline).2.worker.queue.items) ∨
    ((s.nextMessage deadline).2.env.received
        = s.env.received ++ outcome (s.nextMessage deadline).1 ∧
      s.worker.queue.items = [] ∧ (s.nextMessage deadline).2.worker.queue.items = []) := by
  rw [nextMessage]
  cases hp : s.worker.queue.pop.1 with
  | some m =>
    have hpop : s.popDeferred = (some m, s.popDeferred.2) := Prod.ext hp rfl
    rw [hpop]
    exact .inl ⟨rfl, MessageQueue.items_of_pop hp⟩
  | none =>
    -- Only then are the connections asked.
    have hpop : s.popDeferred = (none, s.popDeferred.2) := Prod.ext hp rfl
    have hbefore : s.worker.queue.items = [] := by
      rw [← List.head?_eq_none_iff, ← MessageQueue.head?_turned]
      exact hp
    have hafter : s.popDeferred.2.worker.queue.items = [] :=
      (MessageQueue.pop_of_items_nil hbefore).2
    refine .inr ?_
    rw [hpop]
    dsimp only
    split
    · exact ⟨(List.append_nil _).symm, hbefore, hafter⟩
    · have hr := s.popDeferred.2.readNext_readOff deadline
      refine ⟨hr.received, hbefore, ?_⟩
      rw [hr.queue]
      exact hafter

/-- The next message, if it is no announcement, has been taken. -/
theorem nextMessage_takes {deadline : Option Nat} {s t : Session}
    {x : Except CoordinatorError (Option Message)} (hn : s.nextMessage deadline = (x, t))
    (hx : proper (outcome x) = outcome x) : ∃ read, Takes read (outcome x) s t := by
  rcases s.nextMessage_cases deadline with ⟨hr, hitems⟩ | ⟨hr, hbefore, hafter⟩
  · rw [hn] at hr hitems
    exact ⟨[], hr.trans (List.append_nil _).symm, .inl ⟨rfl, hitems⟩⟩
  · rw [hn] at hr hafter
    exact ⟨outcome x, hr, .inr ⟨hx, hbefore, hafter⟩⟩

/-- An announcement never comes from the queue, so the wait goes on with an empty one. -/
theorem nextMessage_announcement {deadline : Option Nat} {s t : Session} {m : Message}
    (hq : ∀ m ∈ s.worker.queue.items, m.kind ≠ .newSharedSegment)
    (hm : m.kind = .newSharedSegment) (hn : s.nextMessage deadline = (.ok (some m), t)) :
    s.worker.queue.items = [] ∧ t.env.received = s.env.received ++ [m] ∧
      t.worker.queue.items = [] := by
  rcases s.nextMessage_cases deadline with ⟨-, hitems⟩ | ⟨hr, hbefore, hafter⟩
  · rw [hn] at hitems
    exact absurd hm (hq m (by rw [hitems]; exact List.mem_cons_self))
  · rw [hn] at hr hafter
    exact ⟨hbefore, hr, hafter⟩

/-- **A wait hands out the oldest deferred message, or else the first proper one that it reads.** -/
theorem waitUntil_takes (deadline : Option Nat) {s : Session}
    (hq : ∀ m ∈ s.worker.queue.items, m.kind ≠ .newSharedSegment) :
    ∃ read, Takes read (outcome (s.waitUntil deadline).1) s (s.waitUntil deadline).2 := by
  -- The wait goes on behind announcements only, so it does so with nothing deferred.
  fun_induction waitUntil deadline s with
  | case1 s e t hn => exact nextMessage_takes hn rfl
  | case2 s t hn => exact nextMessage_takes hn rfl
  | case3 s m t hn hm e u ht =>
    -- an announcement that cannot be attached
    obtain ⟨hbefore, hr, hafter⟩ := nextMessage_announcement hq hm hn
    have htake := t.quiet_takeAnnouncement m
    rw [ht] at htake
    refine ⟨[m], .of_announcement hm hbefore hr hafter ⟨?_, .inl ⟨rfl, ?_⟩⟩⟩
    · exact htake.received.trans (List.append_nil _).symm
    · rw [htake.queue]
      rfl
  | case4 s m t hn hm u ht ih =>
    -- an announcement; the wait goes on
    obtain ⟨hbefore, hr, hafter⟩ := nextMessage_announcement hq hm hn
    have htake := t.quiet_takeAnnouncement m
    rw [ht] at htake
    have hnone : u.worker.queue.items = [] := by rw [htake.queue, hafter]
    obtain ⟨read, h⟩ := ih (by rw [hnone]; exact fun m hm => absurd hm List.not_mem_nil)
    exact ⟨m :: read, .of_announcement hm hbefore (htake.received.trans hr) hnone h⟩
  | case5 s m t hn hm => exact nextMessage_takes hn (proper_cons hm [])

end Session

/-! ### Exchanges -/

/-- How the answer of an exchange comes about, and the last message that it read for it. -/
inductive Ending : Except CoordinatorError Message → List Message → Prop
  | reply {m : Message} (kind : m.kind ≠ .newSharedSegment) : Ending (.ok m) [m]
  | farewell {m : Message} {e : CoordinatorError} (kind : m.kind = .socketClosed) :
      Ending (.error e) [m]
  | announcement {m : Message} {e : CoordinatorError} (kind : m.kind = .newSharedSegment) :
      Ending (.error e) [m]
  /-- Nothing more could be read. -/
  | failure {e : CoordinatorError} : Ending (.error e) []

/-- Takes the last occurrence of a message out. -/
def withoutLast (m : Message) (ms : List Message) : List Message := (ms.reverse.erase m).reverse

/-- The messages without the reply of the exchange, or without the farewell that ended it. -/
def besides (x : Except CoordinatorError Message) (ms : List Message) : List Message :=
  match x, ms.getLast? with
  | .ok reply, _ => withoutLast reply ms
  | .error _, some m => if m.kind = .socketClosed then ms.dropLast else ms
  | .error _, none => ms

theorem withoutLast_append (m : Message) (ms : List Message) :
    withoutLast m (ms ++ [m]) = ms := by
  rw [withoutLast, List.reverse_append, List.reverse_singleton, List.singleton_append,
    List.erase_cons_head, List.reverse_reverse]

theorem withoutLast_sublist (m : Message) (ms : List Message) : (withoutLast m ms).Sublist ms := by
  have h := (List.erase_sublist (a := m) (l := ms.reverse)).reverse
  rw [List.reverse_reverse] at h
  exact h

theorem besides_sublist (x : Except CoordinatorError Message) (ms : List Message) :
    (besides x ms).Sublist ms := by
  unfold besides
  split
  · exact withoutLast_sublist _ ms
  · split
    · exact List.dropLast_sublist ms
    · exact .refl ms
  · exact .refl ms

theorem besides_error {e : CoordinatorError} {ms : List Message}
    (h : ∀ m ∈ ms, m.kind ≠ .socketClosed) : besides (.error e) ms = ms := by
  unfold besides
  cases hlast : ms.getLast? with
  | none => rfl
  | some m => exact if_neg (h m (List.mem_of_getLast? hlast))

/-- Besides what an exchange ended with there is what it read before. -/
theorem besides_of_ending {x : Except CoordinatorError Message} {last ms : List Message}
    (h : Ending x last) (hms : ∀ m ∈ ms, m.kind ≠ .socketClosed) :
    besides x (ms ++ proper last) = ms := by
  cases h with
  | @reply m kind =>
    rw [proper_cons kind]
    exact withoutLast_append m ms
  | @farewell m e kind =>
    have hproper : m.kind ≠ .newSharedSegment := by
      rw [kind]
      intro h
      cases h
    rw [proper_cons hproper, proper_nil]
    unfold besides
    rw [List.getLast?_concat, List.dropLast_concat]
    exact if_pos kind
  | announcement kind =>
    rw [proper_cons_announcement kind, proper_nil, List.append_nil]
    exact besides_error hms
  | failure =>
    rw [proper_nil, List.append_nil]
    exact besides_error hms

namespace Session

/-- From `s` to `t` an exchange with the answer `x` read `passed` and then `last`, and deferred what
is proper of `passed`. -/
structure Defers (x : Except CoordinatorError Message) (passed last : List Message)
    (s t : Session) : Prop where
  received : t.env.received = s.env.received ++ (passed ++ last)
  queue : t.worker.queue.items = s.worker.queue.items ++ proper passed
  farewells : ∀ m ∈ passed, m.kind ≠ .socketClosed
  ending : Ending x last

/-- An exchange that reads no further. -/
theorem Defers.of_ending {x : Except CoordinatorError Message} {last : List Message} {s t : Session}
    (h : Ending x last) (hr : t.env.received = s.env.received ++ last)
    (hq : t.worker.queue = s.worker.queue) : Defers x [] last s t :=
  ⟨hr, by rw [hq]; exact (List.append_nil _).symm, fun _ hm => absurd hm List.not_mem_nil, h⟩

/-- One more message in front is passed over. -/
theorem Defers.cons {m : Message} {x : Except CoordinatorError Message} {passed last : List Message}
    {s t u : Session} (hm : m.kind ≠ .socketClosed)
    (hr : t.env.received = s.env.received ++ [m])
    (hq : t.worker.queue.items = s.worker.queue.items ++ proper [m])
    (h : Defers x passed last t u) : Defers x (m :: passed) last s u := by
  refine ⟨?_, ?_, ?_, h.ending⟩
  · rw [h.received, hr, List.append_assoc]
    rfl
  · rw [h.queue, hq, List.append_assoc, ← proper_append]
    rfl
  · intro m' hm'
    rcases List.mem_cons.1 hm' with rfl | hm'
    · exact hm
    · exact h.farewells m' hm'

/-- **An exchange defers what it reads, but for its reply, the announcements of segments and the
farewell that ends it.** -/
theorem awaitReply_defers (id : ConnectionId) (role : Role) (expected : List Kind) (s : Session) :
    ∃ passed last, Defers (s.awaitReply id role expected).1 passed last s
      (s.awaitReply id role expected).2 := by
  -- Every receive either ends the exchange or passes one message over.
  have received {s t : Session} {x : Except NetError Message} (h : s.receive id = (x, t)) :
      ReadOff (outcome (x.map some)) s t := by
    have hr := s.receive_readOff id
    rw [h] at hr
    exact hr
  fun_induction awaitReply id role expected s with
  | case1 s e t hr e' u hf =>
    -- the connection fails; nothing was read for that
    have hread := received hr
    have hquiet := t.quiet_receiveFailed id e
    rw [hf] at hquiet
    exact ⟨[], [], Defers.of_ending .failure (hquiet.received.trans hread.received)
      (hquiet.queue.trans hread.queue)⟩
  | case2 s m t hr hk e u ht =>
    -- an announcement that cannot be attached is the last message
    have hread := received hr
    have hquiet := t.quiet_takeAnnouncement m
    rw [ht] at hquiet
    exact ⟨[], [m], Defers.of_ending (.announcement hk) (hquiet.received.trans hread.received)
      (hquiet.queue.trans hread.queue)⟩
  | case3 s m t hr hk u ht ih =>
    -- an announcement that is taken up is passed over without being deferred
    have hread := received hr
    have hquiet := t.quiet_takeAnnouncement m
    rw [ht] at hquiet
    obtain ⟨passed, last, h⟩ := ih
    refine ⟨m :: passed, last, h.cons ?_ (hquiet.received.trans hread.received) ?_⟩
    · rw [hk]
      intro h
      cases h
    · rw [hquiet.queue, hread.queue, proper_cons_announcement hk]
      exact (List.append_nil _).symm
  | case4 s m t hr hk hw =>
    have hread := received hr
    exact ⟨[], [m], Defers.of_ending (.reply hk) hread.received hread.queue⟩
  | case5 s m t hr hk hw hclosed e u hl =>
    -- a farewell is read and not deferred
    have hread := received hr
    have hquiet := t.quiet_connectionLost id
    rw [hl] at hquiet
    exact ⟨[], [m], Defers.of_ending (.farewell hclosed) (hquiet.received.trans hread.received)
      (hquiet.queue.trans hread.queue)⟩
  | case6 s m t hr hk hw hclosed ih =>
    -- any other message joins the queue at its end
    have hread := received hr
    obtain ⟨passed, last, h⟩ := ih
    refine ⟨m :: passed, last, h.cons hclosed ?_ ?_⟩
    · have hquiet := t.quiet_report (.deferring m.kind role) rfl
      exact (received_defer m _).trans (hquiet.received.trans hread.received)
    · rw [proper_cons hk, proper_nil, ← hread.queue]
      exact MessageQueue.items_push _ _

theorem exchange_defers (id : ConnectionId) (request : Message) (expected : List Kind)
    (s : Session) :
    ∃ passed last, Defers (s.exchange id request expected).1 passed last s
      (s.exchange id request expected).2 := by
  rw [exchange]
  split
  · exact ⟨[], [], Defers.of_ending .failure (List.append_nil _).symm rfl⟩
  · rename_i c hc
    have hs := s.quiet_send id request
    generalize s.send id request = r at hs ⊢
    rcases r with ⟨e | u, t⟩
    · have hquiet := (hs.trans (quiet_report (.exchangeSendFailed c.role e) rfl _)).trans
        (quiet_sendFailed id _)
      exact ⟨[], [], Defers.of_ending .failure (hquiet.received.trans (List.append_nil _).symm)
        hquiet.queue⟩
    · obtain ⟨passed, last, h⟩ := t.awaitReply_defers id c.role expected
      refine ⟨passed, last, ?_, ?_, h.farewells, h.ending⟩
      · rw [← hs.received]
        exact h.received
      · rw [← hs.queue]
        exact h.queue

end Session

end PipelineWorker
