/-
Where a worker stands with the others.

The `Standing` of a worker is its stage, the roles of its connections and the two connections that
it depends on.  Messages, segments and the network do not show in it, so most of what a worker does
leaves it alone.

* `Standing.Fails` — all the ways in which the use of a connection can fail, and what each of them
  makes of the standing;
* `exchange_after`, `sendToDatamanager_after`, `receiveFromDatamanager_after` — an operation on one
  connection succeeds and leaves the standing alone, or fails in one of these ways;
* `waitUntil_after` — the same of a wait, which can also fail without any connection.
-/
import PipelineWorker.Proofs.Exchange

namespace PipelineWorker

/-- Where a worker stands with the others. -/
structure Standing where
  stage : Stage
  /-- The connections with their roles, oldest first. -/
  roster : List (ConnectionId × Role)
  /-- The number that the next connection gets. -/
  nextId : UInt32
  controller : Option ConnectionId
  datamanager : Option ConnectionId

namespace Standing

def role? (id : ConnectionId) (p : Standing) : Option Role :=
  (p.roster.find? (·.1 = id)).map (·.2)

/-- The connections that control messages come from. -/
def watched (p : Standing) : List ConnectionId := p.controller.toList ++ p.datamanager.toList

/-- Without a connection and whatever it was to the worker. -/
def without (id : ConnectionId) (p : Standing) : Standing :=
  { p with
    roster := p.roster.eraseP (·.1 = id)
    controller := if p.controller = some id then none else p.controller
    datamanager := if p.datamanager = some id then none else p.datamanager }

/-- After the end of the worker, which a handshake declares by itself. -/
def ended (p : Standing) : Standing :=
  if p.stage.isHandshaking then p else { p with stage := .terminated }

/-- After the loss of a connection, which ends the worker unless it led to a peer. -/
def lose (id : ConnectionId) (p : Standing) : Standing :=
  match (p.role? id).getD .peer with
  | .peer => p.without id
  | _ => (p.without id).ended

def joined (role : Role) (p : Standing) : Standing :=
  { p with roster := p.roster ++ [(⟨p.nextId⟩, role)], nextId := p.nextId + 1 }

/-- How the use of connection `id` can fail, and the standing after it. -/
inductive Fails (id : ConnectionId) (p : Standing) : CoordinatorError → Standing → Prop
  /-- There is no such connection. -/
  | unknown (missing : p.role? id = none) : Fails id p (.net (.unknownConnection id)) p
  /-- The other end went away. -/
  | lost {role : Role} (found : p.role? id = some role) :
      Fails id p (.peerDisconnected role) (p.lose id)
  /-- What arrives cannot be read. -/
  | garbled {role : Role} (found : p.role? id = some role) (e : CodecError) :
      Fails id p (.net (.codec e)) (p.lose id)
  /-- The datamanager takes no message. -/
  | unsent (datamanager : p.datamanager = some id) :
      Fails id p .datamanagerUnreachable (p.without id).ended

/-- What an operation that uses connection `id` makes of the standing. -/
inductive After {α : Type} (id : ConnectionId) (p : Standing) :
    Except CoordinatorError α → Standing → Prop
  | done (a : α) : After id p (.ok a) p
  | failed {e : CoordinatorError} {q : Standing} (fails : Fails id p e q) : After id p (.error e) q
  /-- An announced segment cannot be attached. -/
  | unattachable (key : SegmentKey) (size : Nat) (reason : String) :
      After id p (.error (.segment (.unavailable key size reason))) p

/-- What a wait makes of the standing. -/
inductive Waited {α : Type} (p : Standing) : Except CoordinatorError α → Standing → Prop
  | done (a : α) : Waited p (.ok a) p
  | unpolled (f : OsFailure) : Waited p (.error (.net (.socket f))) p
  | failed {id : ConnectionId} {role : Role} {e : CoordinatorError} {q : Standing}
      (watched : id ∈ p.watched) (found : p.role? id = some role) (fails : Fails id p e q) :
      Waited p (.error e) q
  | unattachable (key : SegmentKey) (size : Nat) (reason : String) :
      Waited p (.error (.segment (.unavailable key size reason))) p

theorem After.eq_of_ok {α : Type} {id : ConnectionId} {p q : Standing} {a : α}
    (h : p.After id (.ok a) q) : q = p := by
  cases h with
  | done => rfl

theorem Waited.eq_of_ok {α : Type} {p q : Standing} {a : α} (h : p.Waited (.ok a) q) : q = p := by
  cases h with
  | done => rfl

theorem After.map {α β : Type} {id : ConnectionId} {p q : Standing} {x : Except CoordinatorError α}
    (h : p.After id x q) (f : α → β) : p.After id (x.map f) q := by
  cases h with
  | done a => exact .done (f a)
  | failed fails => exact .failed fails
  | unattachable key size reason => exact .unattachable key size reason

/-- A wait may use the connections that it watches. -/
theorem After.waited {α : Type} {id : ConnectionId} {role : Role} {p q : Standing}
    {x : Except CoordinatorError α} (h : p.After id x q) (watched : id ∈ p.watched)
    (found : p.role? id = some role) : p.Waited x q := by
  cases h with
  | done a => exact .done a
  | failed fails => exact .failed watched found fails
  | unattachable key size reason => exact .unattachable key size reason

/-! ### Small laws -/

theorem role?_without_ne {i j : ConnectionId} (p : Standing) (h : j ≠ i) :
    (p.without i).role? j = p.role? j := by
  have hfind : (p.roster.eraseP (·.1 = i)).find? (·.1 = j) = p.roster.find? (·.1 = j) := by
    refine Registry.find?_eraseP (fun x hx => decide_eq_false fun hj => h ?_) p.roster
    rw [← hj, of_decide_eq_true hx]
  rw [role?, without, hfind, role?]

@[simp] theorem role?_ended (id : ConnectionId) (p : Standing) : p.ended.role? id = p.role? id := by
  unfold ended
  split <;> rfl

theorem roster_ended (p : Standing) : p.ended.roster = p.roster := by
  rw [ended]
  split <;> rfl

end Standing

/-! ### The roster -/

namespace Registry

/-- The connections with their roles, oldest first. -/
def roster (r : Registry) : List (ConnectionId × Role) :=
  r.connections.map fun c => (c.id, c.role)

theorem find?_roster (id : ConnectionId) (r : Registry) :
    (r.roster.find? (·.1 = id)).map (·.2) = (r.get? id).map (·.role) := by
  rw [roster, get?, List.find?_map, Option.map_map]
  rfl

/-- A connection takes the place of another one with its number and role. -/
theorem roster_put {r : Registry} {c d : Connection} (h : r.get? d.id = some c)
    (hrole : d.role = c.role) : (r.put d).roster = r.roster := by
  have hid : d.id = c.id := (id_of_get? h).symm
  exact map_replaceIn _ h (by rw [hid, hrole])

theorem roster_remove (id : ConnectionId) (r : Registry) (env : Environment) :
    (r.remove id env).2.1.roster = r.roster.eraseP (·.1 = id) := by
  rw [roster, roster, connections_remove, List.eraseP_map]
  rfl

/-- The use of a connection leaves the roster alone. -/
theorem roster_withConnection {α : Type} (id : ConnectionId)
    {f : Connection → Environment → Except NetError α × Connection × Environment}
    (hid : ∀ c env, (f c env).2.1.id = c.id) (hrole : ∀ c env, (f c env).2.1.role = c.role)
    (r : Registry) (env : Environment) :
    (r.withConnection id f env).2.1.roster = r.roster ∧
      (r.withConnection id f env).2.1.nextId = r.nextId := by
  rw [withConnection]
  cases hc : r.get? id with
  | none => exact ⟨rfl, rfl⟩
  | some c =>
    refine ⟨roster_put (c := c) ?_ (hrole c env), rfl⟩
    rw [hid, id_of_get? hc]
    exact hc

end Registry

namespace Session

/-- Where the worker stands. -/
def standing (s : Session) : Standing where
  stage := s.worker.stage
  roster := s.worker.connections.roster
  nextId := s.worker.connections.nextId
  controller := s.worker.controller
  datamanager := s.worker.datamanager

theorem role?_standing (id : ConnectionId) (s : Session) :
    s.standing.role? id = (s.worker.connections.get? id).map (·.role) :=
  Registry.find?_roster id s.worker.connections

theorem role?_of_get? {id : ConnectionId} {c : Connection} {s : Session}
    (hc : s.worker.connections.get? id = some c) : s.standing.role? id = some c.role := by
  rw [role?_standing, hc]
  rfl

/-! ### What leaves the standing alone -/

@[simp] theorem standing_report (event : Event) (s : Session) :
    (s.report event).standing = s.standing := rfl

@[simp] theorem standing_popDeferred (s : Session) : s.popDeferred.2.standing = s.standing := rfl

@[simp] theorem standing_pollWatched (deadline : Option Nat) (s : Session) :
    (s.pollWatched deadline).2.standing = s.standing := rfl

@[simp] theorem standing_takeAnnouncement (m : Message) (s : Session) :
    (s.takeAnnouncement m).2.standing = s.standing := by
  rw [standing, worker_takeAnnouncement]
  rfl

/-- The use of a connection leaves the standing alone. -/
theorem standing_of_connections {s : Session} {r : Registry} {env : Environment}
    (hroster : r.roster = s.worker.connections.roster)
    (hnext : r.nextId = s.worker.connections.nextId) :
    ({ worker := { s.worker with connections := r }, env } : Session).standing = s.standing := by
  rw [standing, hroster, hnext]
  rfl

@[simp] theorem standing_send (id : ConnectionId) (m : Message) (s : Session) :
    (s.send id m).2.standing = s.standing := by
  have hrole (c : Connection) (env : Environment) : (c.send m env).2.1.role = c.role := by
    rcases c.send_cases m env with ⟨-, h⟩ | ⟨-, -, h⟩ | ⟨e, events, -, h⟩ <;> rw [h]
  obtain ⟨hroster, hnext⟩ := Registry.roster_withConnection id (Connection.id_send m) hrole
    s.worker.connections s.env
  exact standing_of_connections hroster hnext

@[simp] theorem standing_receive (id : ConnectionId) (s : Session) :
    (s.receive id).2.standing = s.standing := by
  have hrole (c : Connection) (env : Environment) : (c.receive env).2.1.role = c.role := by
    rw [Connection.receive_snd, Connection.role_receiveWith]
  obtain ⟨hroster, hnext⟩ := Registry.roster_withConnection id Connection.id_receive hrole
    s.worker.connections s.env
  exact standing_of_connections hroster hnext

@[simp] theorem standing_receiveUntil (id : ConnectionId) (deadline : Nat) (s : Session) :
    (s.receiveUntil id deadline).2.standing = s.standing := by
  obtain ⟨hroster, hnext⟩ := Registry.roster_withConnection id
    (Connection.id_receiveWith (some deadline)) (Connection.role_receiveWith (some deadline))
    s.worker.connections s.env
  exact standing_of_connections hroster hnext

@[simp] theorem standing_receiveBy (deadline : Option Nat) (id : ConnectionId) (s : Session) :
    (s.receiveBy deadline id).2.standing = s.standing := by
  cases deadline with
  | some d => exact s.standing_receiveUntil id d
  | none => exact s.standing_receive id

/-! ### Losing connections -/

theorem standing_drop (id : ConnectionId) (s : Session) :
    (s.drop id).2.standing = s.standing.without id := by
  have hroster := s.worker.connections.roster_remove id s.env
  have hnext := s.worker.connections.nextId_remove id s.env
  show Standing.mk _ _ _ _ _ = Standing.mk _ _ _ _ _
  congr 1

theorem fst_drop (id : ConnectionId) (s : Session) :
    (s.drop id).1 = (s.standing.role? id).getD .peer := by
  rw [role?_standing, drop, remove, Registry.remove]
  cases s.worker.connections.get? id <;> rfl

theorem standing_terminate (s : Session) : s.terminate.standing = s.standing.ended := by
  rw [terminate, Coordinator.terminate, Standing.ended, standing, standing]
  dsimp only
  split <;> rfl

/-- **The loss of a connection ends the worker, unless it led to a peer.** -/
theorem standing_connectionLost (id : ConnectionId) (s : Session) :
    (s.connectionLost id).2.standing = s.standing.lose id := by
  have hdrop := s.standing_drop id
  have hrole := s.fst_drop id
  rw [connectionLost, Standing.lose, ← hrole]
  dsimp only
  -- one role after the other, since the worker asks for the role as well
  cases (s.drop id).1 with
  | peer => exact hdrop
  | controller => rw [standing_terminate, standing_report, hdrop]
  | datamanager => rw [standing_terminate, standing_report, hdrop]

theorem fst_connectionLost_eq (id : ConnectionId) (s : Session) :
    (s.connectionLost id).1 = .peerDisconnected ((s.standing.role? id).getD .peer) :=
  congrArg _ (s.fst_drop id)

/-- Whatever came of a receive, the connection is lost. -/
theorem standing_receiveFailed (id : ConnectionId) (e : NetError) (s : Session) :
    (s.receiveFailed id e).2.standing = s.standing.lose id := by
  unfold receiveFailed
  split
  · exact s.standing_connectionLost id
  · exact standing_connectionLost id _

theorem connectionLost_fails {id : ConnectionId} {s : Session} {role : Role}
    (h : s.standing.role? id = some role) :
    s.standing.Fails id (s.connectionLost id).1 (s.connectionLost id).2.standing := by
  rw [fst_connectionLost_eq, standing_connectionLost, h]
  exact .lost h

theorem sendFailed_fails {id : ConnectionId} {s : Session} {role : Role}
    (h : s.standing.role? id = some role) :
    s.standing.Fails id (s.sendFailed id).1 (s.sendFailed id).2.standing := by
  rw [sendFailed]
  split
  · rename_i hd
    rw [standing_terminate, standing_report, standing_drop]
    exact .unsent hd
  · exact connectionLost_fails h

end Session

/-! ### Receiving -/

/-- A receive fails because the connection is closed, or because what arrives cannot be read. -/
theorem Connection.receiveWith_error {deadline : Option Nat} {c : Connection} {env : Environment}
    {e : NetError} (h : (c.receiveWith deadline env).1 = .error e) :
    e = .connectionClosed c.id ∨ ∃ f, e = .codec f := by
  cases ha : c.alive with
  | false =>
    rw [receiveWith_of_dead ha] at h
    exact .inl (Except.error.inj h).symm
  | true =>
    rw [receiveWith_of_alive ha] at h
    generalize ((c.reading env.net).readFrame deadline).1 = x at h
    generalize ((c.reading env.net).readFrame deadline).2 = g at h
    match x with
    | .ok none => cases h
    | .ok (some m) => cases h
    | .error f =>
      rw [(conclude_error f g c env).1, Except.error.injEq] at h
      split at h
      · exact .inl h.symm
      · exact .inr ⟨f, h.symm⟩

namespace Session

variable {id : ConnectionId} {role : Role} {s : Session}

/-- A registered connection that is in step fails to receive because it is closed, or because what
arrives cannot be read. -/
theorem receiveBy_error (hs : s.worker.connections.Sound s.env.net)
    (hrole : s.standing.role? id = some role) {deadline : Option Nat} {e : NetError}
    (h : (s.receiveBy deadline id).1 = .error e) :
    e = .connectionClosed id ∨ ∃ f, e = .codec f := by
  rw [role?_standing, Option.map_eq_some_iff] at hrole
  obtain ⟨c, hc, -⟩ := hrole
  have hwith : (c.receiveWith deadline s.env).1 = .error e := by
    cases deadline with
    | some d =>
      rw [receiveBy, receiveUntil, Registry.receiveUntil, Registry.withConnection, hc] at h
      exact h
    | none =>
      rw [← Connection.receive_eq_receiveWith (hs.get? hc)]
      rw [receiveBy, receive_eq hc] at h
      exact h
  rw [← Registry.id_of_get? hc]
  exact Connection.receiveWith_error hwith

theorem receive_error (hs : s.worker.connections.Sound s.env.net)
    (hrole : s.standing.role? id = some role) {e : NetError} (h : (s.receive id).1 = .error e) :
    e = .connectionClosed id ∨ ∃ f, e = .codec f := by
  have hby : (s.receiveBy none id).1 = .error e := by
    rw [receiveBy, h]
    rfl
  exact receiveBy_error hs hrole hby

theorem receiveFailed_fails (hrole : s.standing.role? id = some role) {e : NetError}
    (he : e = .connectionClosed id ∨ ∃ f, e = .codec f) :
    s.standing.Fails id (s.receiveFailed id e).1 (s.receiveFailed id e).2.standing := by
  rcases he with rfl | ⟨f, rfl⟩
  · exact connectionLost_fails hrole
  · rw [standing_receiveFailed]
    exact .garbled hrole f

theorem receive_fails (hs : s.worker.connections.Sound s.env.net)
    (hrole : s.standing.role? id = some role) {e : NetError} {t : Session}
    (h : s.receive id = (.error e, t)) :
    s.standing.Fails id (t.receiveFailed id e).1 (t.receiveFailed id e).2.standing := by
  have hstanding := s.standing_receive id
  rw [h] at hstanding
  rw [← hstanding] at hrole ⊢
  refine receiveFailed_fails hrole ?_
  rw [hstanding] at hrole
  exact receive_error hs hrole (congrArg Prod.fst h)

/-! ### Requests and replies -/

theorem awaitReply_after (expected : List Kind) (hs : s.worker.connections.Sound s.env.net)
    (hrole : s.standing.role? id = some role) :
    s.standing.After id (s.awaitReply id role expected).1
      (s.awaitReply id role expected).2.standing := by
  -- The induction follows the receives; none that succeeds changes the standing.
  fun_induction awaitReply id role expected s with
  | case1 s e t hr e' u hf =>
    -- the connection fails, and is given up
    have hfails := receive_fails hs hrole hr
    rw [hf] at hfails
    exact .failed hfails
  | case2 s m t hr hk e u ht =>
    -- an announcement that cannot be attached
    have hstanding := s.standing_receive id
    have hstanding' := t.standing_takeAnnouncement m
    rw [hr] at hstanding
    rw [ht] at hstanding'
    obtain ⟨key, size, reason, rfl⟩ := takeAnnouncement_unavailable ht
    rw [← hstanding, ← hstanding']
    exact .unattachable key size reason
  | case3 s m t hr hk u ht ih =>
    -- an announcement; the wait goes on with connections that are still in step
    have hsound := (s.moves_receive id).sound hs
    have hstanding := s.standing_receive id
    rw [hr] at hsound hstanding
    have hsound' := (t.moves_takeAnnouncement m).sound hsound
    have hstanding' := t.standing_takeAnnouncement m
    rw [ht] at hsound' hstanding'
    rw [← hstanding, ← hstanding'] at hrole ⊢
    exact ih hsound' hrole
  | case4 s m t hr =>
    -- the reply
    have hstanding := s.standing_receive id
    rw [hr] at hstanding
    rw [← hstanding]
    exact .done m
  | case5 s m t hr hk hw hclosed e u hl =>
    -- a farewell, which is the loss of the connection
    have hstanding := s.standing_receive id
    rw [hr] at hstanding
    rw [← hstanding] at hrole ⊢
    have hfails := connectionLost_fails hrole
    rw [hl] at hfails
    exact .failed hfails
  | case6 s m t hr hk hw hclosed ih =>
    -- any other message is deferred, which is no change of the standing
    have hsound := (s.moves_receive id).sound hs
    have hstanding := s.standing_receive id
    rw [hr] at hsound hstanding
    rw [← hstanding] at hrole ⊢
    exact ih hsound hrole

/-- **An exchange leaves the standing alone, or fails in one of the listed ways.** -/
theorem exchange_after (id : ConnectionId) (request : Message) (expected : List Kind)
    (hs : s.worker.connections.Sound s.env.net) :
    s.standing.After id (s.exchange id request expected).1
      (s.exchange id request expected).2.standing := by
  have hrole := s.role?_standing id
  have hsound := (s.moves_send id request).sound hs
  have hstanding := s.standing_send id request
  rw [exchange]
  cases hc : s.worker.connections.get? id with
  | none =>
    rw [hc] at hrole
    exact .failed (.unknown hrole)
  | some c =>
    rw [hc, ← hstanding] at hrole
    rw [← hstanding]
    generalize s.send id request = r at hrole hsound ⊢
    rcases r with ⟨e | u, t⟩
    · exact .failed (sendFailed_fails (s := t.report (.exchangeSendFailed c.role e)) hrole)
    · exact awaitReply_after expected hsound hrole

theorem sendToDatamanager_after (m : Message) (hd : s.worker.datamanager = some id)
    (hrole : s.standing.role? id = some role) :
    s.standing.After id (s.sendToDatamanager m).1 (s.sendToDatamanager m).2.standing := by
  have hstanding := s.standing_send id m
  rw [sendToDatamanager, hd]
  dsimp only
  rw [← hstanding] at hrole ⊢
  generalize s.send id m = r at hrole ⊢
  rcases r with ⟨e | u, t⟩
  · exact .failed (sendFailed_fails (s := t.report (.datamanagerSendFailed e m.kind)) hrole)
  · exact .done ()

theorem receiveFromDatamanager_after (hs : s.worker.connections.Sound s.env.net)
    (hd : s.worker.datamanager = some id) (hrole : s.standing.role? id = some role) :
    s.standing.After id s.receiveFromDatamanager.1 s.receiveFromDatamanager.2.standing := by
  rw [receiveFromDatamanager, hd]
  dsimp only
  cases hr : s.receive id with
  | mk x t =>
    have hstanding := s.standing_receive id
    rw [hr] at hstanding
    cases x with
    | error e => exact .failed (receive_fails hs hrole hr)
    | ok m =>
      rw [← hstanding]
      exact .done m

/-! ### Waiting -/

theorem readFrom_after (deadline : Option Nat) (hs : s.worker.connections.Sound s.env.net)
    (hrole : s.standing.role? id = some role) :
    s.standing.After id (s.readFrom deadline id).1 (s.readFrom deadline id).2.standing := by
  have hstanding := s.standing_receiveBy deadline id
  rw [readFrom]
  cases hr : s.receiveBy deadline id with
  | mk x t =>
    rw [hr] at hstanding
    rcases x with e | _ | m
    · have he := receiveBy_error hs hrole (congrArg Prod.fst hr)
      rw [← hstanding] at hrole ⊢
      exact .failed (receiveFailed_fails hrole he)
    · rw [← hstanding]
      exact .done none
    · rw [← hstanding]
      exact .done (some m)

theorem standing_polled (deadline : Option Nat) (s : Session) :
    (s.polled deadline).standing = s.standing := by
  rw [polled, standing_pollWatched, standing_popDeferred]

theorem nextMessage_after (deadline : Option Nat) (hs : s.worker.connections.Sound s.env.net) :
    s.standing.Waited (s.nextMessage deadline).1 (s.nextMessage deadline).2.standing := by
  have hnext := s.next_nextMessage deadline
  have hpolled := s.standing_polled deadline
  generalize s.nextMessage deadline = r at hnext ⊢
  cases hnext with
  | deferred m => exact .done (some m)
  | nobody none_watched => exact .done none
  | unpolled f =>
    rw [hpolled]
    exact .unpolled f
  | late poll =>
    rw [hpolled]
    exact .done none
  | @ready id c watched found =>
    have hrole : s.standing.role? id = some c.role := role?_of_get? found
    have hsound := (s.steps_polled deadline).moves.sound hs
    rw [← hpolled] at hrole ⊢
    exact (readFrom_after deadline hsound hrole).waited (hpolled ▸ watched) hrole

theorem standing_of_nextMessage {deadline : Option Nat} {m : Option Message} {t : Session}
    (hs : s.worker.connections.Sound s.env.net) (h : s.nextMessage deadline = (.ok m, t)) :
    t.standing = s.standing := by
  have hafter := nextMessage_after deadline hs
  rw [h] at hafter
  exact hafter.eq_of_ok

/-- **A wait leaves the standing alone, or fails because a poll did, or a watched connection, or
because of an announced segment.** -/
theorem waitUntil_after (deadline : Option Nat) (hs : s.worker.connections.Sound s.env.net) :
    s.standing.Waited (s.waitUntil deadline).1 (s.waitUntil deadline).2.standing := by
  -- The induction follows the messages; none that is read changes the standing.
  fun_induction waitUntil deadline s with
  | case1 s e t hn =>
    have hafter := nextMessage_after deadline hs
    rw [hn] at hafter
    exact hafter
  | case2 s t hn =>
    rw [← standing_of_nextMessage hs hn]
    exact .done none
  | case3 s m t hn hk e u ht =>
    -- an announcement that cannot be attached
    have hstanding := t.standing_takeAnnouncement m
    rw [ht] at hstanding
    obtain ⟨key, size, reason, rfl⟩ := takeAnnouncement_unavailable ht
    rw [← standing_of_nextMessage hs hn, ← hstanding]
    exact .unattachable key size reason
  | case4 s m t hn hk u ht ih =>
    -- an announcement that is taken up
    have hsound := sound_of_takeAnnouncement (sound_of_nextMessage hs hn) ht
    have hstanding := t.standing_takeAnnouncement m
    rw [ht] at hstanding
    rw [← standing_of_nextMessage hs hn, ← hstanding]
    exact ih hsound
  | case5 s m t hn hk =>
    rw [← standing_of_nextMessage hs hn]
    exact .done (some m)

end Session

end PipelineWorker
