/-
Who listens is looked at by a dial, and by nothing else.

* `relisten` — the same surroundings with other listeners;
* `Blind` — an operation that nobody who listens makes a difference to;
* `blind_wait`, `blind_exchange`, `blind_sendToDatamanager` — whatever uses connections that exist;
* `Heeds` — an operation that looks at no listener outside of certain places;
* `heeds_connect` — a dial looks at its destination alone;
* `Heeds.bind` — **a sequence of steps looks where its steps look**.
-/
import PipelineWorker.Proofs.Coordinated

namespace PipelineWorker

/-! ### Other listeners -/

/-- The network with other listeners. -/
def Network.relisten (ls : List Listener) (n : Network) : Network := { n with listeners := ls }

/-- The surroundings with other listeners. -/
def Environment.relisten (ls : List Listener) (env : Environment) : Environment :=
  { env with net := env.net.relisten ls }

/-- The session with other listeners around it. -/
def Session.relisten (ls : List Listener) (s : Session) : Session :=
  { s with env := s.env.relisten ls }

namespace Network

@[simp] theorem now_relisten (ls : List Listener) (n : Network) : (n.relisten ls).now = n.now := rfl

@[simp] theorem clock_relisten (ls : List Listener) (n : Network) :
    (n.relisten ls).clock = n.clock := rfl

theorem closeSilent_relisten (watched : List Nat) (ls : List Listener) (n : Network) :
    (n.relisten ls).closeSilent watched = (n.closeSilent watched).relisten ls := by
  rw [closeSilent, closeSilent]
  induction watched generalizing n with
  | nil => rfl
  | cons i watched ih =>
    rw [List.foldl_cons, List.foldl_cons, ← ih]
    rfl

theorem await_relisten (watched : List Nat) (ms : Option Nat) (ls : List Listener) (n : Network) :
    (n.relisten ls).await watched ms =
      ((n.await watched ms).1, (n.await watched ms).2.relisten ls) := by
  have hearliest : (n.relisten ls).earliest? watched = n.earliest? watched := rfl
  unfold await
  rw [hearliest]
  cases n.earliest? watched with
  | none =>
    cases ms with
    | none =>
      dsimp only
      rw [closeSilent_relisten]
    | some ms => rfl
  | some t =>
    cases ms with
    | none => rfl
    | some ms =>
      dsimp only
      rw [now_relisten]
      split <;> rfl

theorem poll_relisten (watched : List Nat) (ms : Option Nat) (ls : List Listener) (n : Network) :
    (n.relisten ls).poll watched ms =
      ((n.poll watched ms).1, (n.poll watched ms).2.relisten ls) := by
  have hfaults : (n.relisten ls).pollFaults = n.pollFaults := rfl
  rw [poll, poll, hfaults]
  split
  · rfl
  · rfl
  · rw [await_relisten]

end Network

namespace Registry

theorem pollWatched_relisten (watched : List Connection) (deadline : Option Nat)
    (ls : List Listener) (n : Network) :
    pollWatched watched deadline (n.relisten ls) =
      ((pollWatched watched deadline n).1, (pollWatched watched deadline n).2.relisten ls) := by
  have hpoll {n n' : Network} {a : PollAnswer}
      (hn : n.poll (watched.map (·.link)) (deadline.map fun d => pollWindow d n.clock) = (a, n')) :
      (n.relisten ls).poll (watched.map (·.link))
        (deadline.map fun d => pollWindow d (n.relisten ls).clock) = (a, n'.relisten ls) := by
    rw [Network.clock_relisten, Network.poll_relisten, hn]
  -- The induction follows the faults; none of them looks at a listener.
  fun_induction pollWatched watched deadline n with
  | case1 n ready n' hn => rw [pollWatched_eq, hpoll hn]
  | case2 n e n' hn he ih =>
    rw [pollWatched_eq, hpoll hn]
    dsimp only
    rw [if_pos he, ih]
  | case3 n e n' hn he =>
    rw [pollWatched_eq, hpoll hn]
    dsimp only
    rw [if_neg he]
  | case4 n n' hn hlate =>
    rw [pollWatched_eq, hpoll hn]
    exact if_pos hlate
  | case5 n n' hn hlate ih =>
    rw [pollWatched_eq, hpoll hn]
    exact (if_neg hlate).trans ih

end Registry

/-! ### Using connections -/

namespace Connection

variable (c : Connection) (ls : List Listener) (env : Environment)

theorem send_relisten (m : Message) :
    c.send m (env.relisten ls) =
      ((c.send m env).1, (c.send m env).2.1, (c.send m env).2.2.relisten ls) := by
  rw [send, send]
  split
  · rfl
  · have hlink (event : Event) : ((env.relisten ls).report event).net.link c.link =
        (env.report event).net.link c.link := rfl
    dsimp only
    rw [hlink]
    rcases ((env.report _).net.link c.link).send m with ⟨e | _, l⟩ <;> rfl

theorem conclude_relisten (x : Except CodecError (Option Message)) (g : Reading) :
    c.conclude x g (env.relisten ls) =
      ((c.conclude x g env).1, (c.conclude x g env).2.1, (c.conclude x g env).2.2.relisten ls) := by
  rcases x with e | _ | m <;> rfl

theorem receiveWith_relisten (deadline : Option Nat) :
    c.receiveWith deadline (env.relisten ls) =
      ((c.receiveWith deadline env).1, (c.receiveWith deadline env).2.1,
        (c.receiveWith deadline env).2.2.relisten ls) := by
  rw [receiveWith, receiveWith]
  split
  · rfl
  · exact c.conclude_relisten ls env _ _

theorem receive_relisten :
    c.receive (env.relisten ls) =
      ((c.receive env).1, (c.receive env).2.1, (c.receive env).2.2.relisten ls) := by
  rw [receive, receive, receiveWith_relisten]
  rcases c.receiveWith none env with ⟨e | _ | m, d, env'⟩ <;> rfl

end Connection

namespace Registry

section Using

variable {α : Type} {f : Connection → Environment → Except NetError α × Connection × Environment}
  {ls : List Listener}

theorem withConnection_relisten (id : ConnectionId) (r : Registry) (env : Environment)
    (hf : ∀ c, f c (env.relisten ls) = ((f c env).1, (f c env).2.1, (f c env).2.2.relisten ls)) :
    r.withConnection id f (env.relisten ls) =
      ((r.withConnection id f env).1, (r.withConnection id f env).2.1,
        (r.withConnection id f env).2.2.relisten ls) := by
  rw [withConnection, withConnection]
  split
  · rfl
  · rename_i c hc
    rw [hf c]

end Using

theorem remove_relisten (id : ConnectionId) (r : Registry) (env : Environment)
    (ls : List Listener) :
    r.remove id (env.relisten ls) =
      ((r.remove id env).1, (r.remove id env).2.1, (r.remove id env).2.2.relisten ls) := by
  rw [remove, remove]
  split <;> rfl

theorem pollReadable_relisten (ids : List ConnectionId) (timeout : Option Nat) (r : Registry)
    (env : Environment) (ls : List Listener) :
    r.pollReadable ids timeout (env.relisten ls) =
      ((r.pollReadable ids timeout env).1, (r.pollReadable ids timeout env).2.relisten ls) := by
  rw [pollReadable, pollReadable, pollReadableFor, pollReadableFor]
  split
  · rfl
  · exact congrArg (fun y => (y.1, ({ env with net := y.2 } : Environment)))
      (pollWatched_relisten _ _ ls env.net)

end Registry

namespace Session

/-- Nobody who listens makes a difference to the operation. -/
def Blind {α : Type} (f : Session → α × Session) : Prop :=
  ∀ ls s, f (s.relisten ls) = ((f s).1, (f s).2.relisten ls)

theorem Blind.run {α : Type} {f : Session → α × Session} (h : Blind f) {s t : Session} {a : α}
    (hs : f s = (a, t)) (ls : List Listener) : f (s.relisten ls) = (a, t.relisten ls) := by
  rw [h ls s, hs]

/-- What was done with the connections, as something done with the session. -/
def conducted {α : Type} (s : Session) (y : α × Registry × Environment) : α × Session :=
  (y.1, { worker := { s.worker with connections := y.2.1 }, env := y.2.2 })

theorem blind_remove (id : ConnectionId) : Blind (remove id) := fun ls s =>
  congrArg (fun y => ((conducted s y).1.map (·.role), (conducted s y).2))
    (Registry.remove_relisten id s.worker.connections s.env ls)

theorem blind_send (id : ConnectionId) (m : Message) : Blind (send id m) := fun ls s =>
  congrArg s.conducted (Registry.withConnection_relisten id s.worker.connections s.env
    fun c => c.send_relisten ls s.env m)

theorem blind_receive (id : ConnectionId) : Blind (receive id) := fun ls s =>
  congrArg s.conducted (Registry.withConnection_relisten id s.worker.connections s.env
    fun c => c.receive_relisten ls s.env)

theorem blind_receiveUntil (id : ConnectionId) (deadline : Nat) :
    Blind (receiveUntil id deadline) := fun ls s =>
  congrArg s.conducted (Registry.withConnection_relisten id s.worker.connections s.env
    fun c => c.receiveWith_relisten ls s.env (some deadline))

theorem blind_receiveBy (deadline : Option Nat) (id : ConnectionId) :
    Blind (receiveBy deadline id) := by
  cases deadline with
  | some d => exact blind_receiveUntil id d
  | none =>
    intro ls s
    rw [receiveBy, receiveBy, blind_receive id ls s]

theorem blind_pollWatched (deadline : Option Nat) : Blind (pollWatched deadline) := fun ls s =>
  congrArg (fun y => (y.1, ({ s with env := y.2 } : Session)))
    (Registry.pollReadable_relisten s.worker.watched _ s.worker.connections s.env ls)

theorem blind_popDeferred : Blind popDeferred := fun _ _ => rfl

theorem blind_attachAnnounced (a : SegmentAnnouncement) : Blind (attachAnnounced a) := by
  intro ls s
  have haccess : (s.relisten ls).access = s.access := rfl
  have hfiles : (s.relisten ls).env.files = s.env.files := rfl
  rw [attachAnnounced, attachAnnounced, haccess, hfiles]
  rcases s.access.attach a.key a.size.toNat s.env.files with ⟨e | h, access, files, events⟩ <;> rfl

theorem blind_takeAnnouncement (m : Message) : Blind (takeAnnouncement m) := by
  intro ls s
  rw [takeAnnouncement, takeAnnouncement]
  split
  · rfl
  · exact blind_attachAnnounced _ ls s

theorem blind_drop (id : ConnectionId) : Blind (drop id) := by
  intro ls s
  rw [drop, drop, blind_remove id ls s]
  rfl

theorem blind_connectionLost (id : ConnectionId) : Blind (connectionLost id) := by
  intro ls s
  rw [connectionLost, connectionLost, blind_drop id ls s]
  rcases s.drop id with ⟨_ | _ | _, t⟩ <;> rfl

theorem blind_receiveFailed (id : ConnectionId) (e : NetError) : Blind (receiveFailed id e) := by
  intro ls s
  unfold receiveFailed
  split
  · exact blind_connectionLost id ls s
  · exact congrArg (fun y => (_, y.2)) (blind_connectionLost id ls (s.report _))

theorem blind_sendFailed (id : ConnectionId) : Blind (sendFailed id) := by
  intro ls s
  have hdatamanager : (s.relisten ls).worker.datamanager = s.worker.datamanager := rfl
  rw [sendFailed, sendFailed, hdatamanager]
  split
  · rw [blind_drop id ls s]
    rfl
  · exact blind_connectionLost id ls s

/-! ### Waiting -/

theorem blind_readFrom (deadline : Option Nat) (id : ConnectionId) :
    Blind (readFrom deadline id) := by
  intro ls s
  rw [readFrom, readFrom, blind_receiveBy deadline id ls s]
  rcases s.receiveBy deadline id with ⟨e | _ | m, t⟩
  · dsimp only
    rw [blind_receiveFailed id e ls t]
  · rfl
  · rfl

theorem blind_readNext (deadline : Option Nat) : Blind (readNext deadline) := by
  intro ls s
  rw [readNext, readNext, blind_pollWatched deadline ls s]
  rcases s.pollWatched deadline with ⟨e | _ | id, t⟩
  · rfl
  · rfl
  · exact blind_readFrom deadline id ls t

theorem blind_nextMessage (deadline : Option Nat) : Blind (nextMessage deadline) := by
  intro ls s
  rw [nextMessage, nextMessage, blind_popDeferred ls s]
  rcases s.popDeferred with ⟨_ | m, t⟩
  · dsimp only
    have hwatched : (t.relisten ls).worker.watched = t.worker.watched := rfl
    rw [hwatched]
    split
    · rfl
    · exact blind_readNext deadline ls t
  · rfl

theorem blind_waitUntil (deadline : Option Nat) : Blind (waitUntil deadline) := by
  intro ls s
  have hnext := blind_nextMessage deadline
  fun_induction waitUntil deadline s with
  | case1 s e t hn => rw [waitUntil_eq, hnext.run hn]
  | case2 s t hn => rw [waitUntil_eq, hnext.run hn]
  | case3 s m t hn hk e u ht =>
    rw [waitUntil_eq, hnext.run hn]
    dsimp only
    rw [if_pos hk, (blind_takeAnnouncement m).run ht]
  | case4 s m t hn hk u ht ih =>
    rw [waitUntil_eq, hnext.run hn]
    dsimp only
    rw [if_pos hk, (blind_takeAnnouncement m).run ht]
    exact ih
  | case5 s m t hn hk =>
    rw [waitUntil_eq, hnext.run hn]
    dsimp only
    rw [if_neg hk]

theorem blind_wait : Blind wait := by
  intro ls s
  rw [wait, wait, blind_waitUntil none ls s]
  rcases s.waitUntil none with ⟨e | _ | m, t⟩ <;> rfl

/-! ### Exchanges -/

theorem blind_awaitReply (id : ConnectionId) (role : Role) (expected : List Kind) :
    Blind (awaitReply id role expected) := by
  intro ls s
  have hreceive := blind_receive id
  -- The induction follows the receives; both runs take the same branch each time.
  fun_induction awaitReply id role expected s with
  | case1 s e t hr e' u hf =>
    rw [awaitReply_eq, hreceive.run hr]
    dsimp only
    rw [(blind_receiveFailed id e).run hf]
  | case2 s m t hr hk e u ht =>
    rw [awaitReply_eq, hreceive.run hr]
    dsimp only
    rw [if_pos hk, (blind_takeAnnouncement m).run ht]
  | case3 s m t hr hk u ht ih =>
    rw [awaitReply_eq, hreceive.run hr]
    dsimp only
    rw [if_pos hk, (blind_takeAnnouncement m).run ht]
    exact ih
  | case4 s m t hr hk he =>
    rw [awaitReply_eq, hreceive.run hr]
    dsimp only
    rw [if_neg hk, if_pos he]
  | case5 s m t hr hk he hclosed e u hl =>
    rw [awaitReply_eq, hreceive.run hr]
    dsimp only
    rw [if_neg hk, if_neg he, if_pos hclosed, (blind_connectionLost id).run hl]
  | case6 s m t hr hk he hclosed ih =>
    rw [awaitReply_eq, hreceive.run hr]
    dsimp only
    rw [if_neg hk, if_neg he, if_neg hclosed]
    exact ih

theorem blind_exchange (id : ConnectionId) (request : Message) (expected : List Kind) :
    Blind (exchange id request expected) := by
  intro ls s
  have hfound : (s.relisten ls).worker.connections.get? id = s.worker.connections.get? id := rfl
  rw [exchange, exchange, hfound]
  cases s.worker.connections.get? id with
  | none => rfl
  | some c =>
    dsimp only
    rw [blind_send id request ls s]
    rcases s.send id request with ⟨e | _, t⟩
    · dsimp only
      have hfailed := blind_sendFailed id ls (t.report (.exchangeSendFailed c.role e))
      exact congrArg (fun y => (Except.error y.1, y.2)) hfailed
    · exact blind_awaitReply id c.role expected ls t

theorem blind_sendToDatamanager (m : Message) : Blind (sendToDatamanager m) := by
  intro ls s
  have hdatamanager : (s.relisten ls).worker.datamanager = s.worker.datamanager := rfl
  rw [sendToDatamanager, sendToDatamanager, hdatamanager]
  cases s.worker.datamanager with
  | none => rfl
  | some id =>
    dsimp only
    rw [blind_send id m ls s]
    rcases s.send id m with ⟨e | _, t⟩
    · dsimp only
      have hfailed := blind_sendFailed id ls (t.report (.datamanagerSendFailed e m.kind))
      exact congrArg (fun y => (Except.error y.1, y.2)) hfailed
    · rfl

end Session

/-! ### Dialling -/

/-- The listener that is met at a place. -/
def listenerAt (addr : Ipv4) (port : Port) (ls : List Listener) : Option Listener :=
  ls.find? fun l => l.addr = addr && l.port = port

/-- At the places of `P` the same listeners are met. -/
def SameAt (P : Ipv4 → Port → Prop) (ls ls' : List Listener) : Prop :=
  ∀ addr port, P addr port → listenerAt addr port ls = listenerAt addr port ls'

namespace Network

theorem awaitAnswer_relisten (l : Listener) (timeout : Nat) (ls : List Listener) (n : Network) :
    (n.relisten ls).awaitAnswer l timeout =
      ((n.awaitAnswer l timeout).1, (n.awaitAnswer l timeout).2.relisten ls) := by
  have hfaults : (n.relisten ls).pollFaults = n.pollFaults := rfl
  rw [awaitAnswer, awaitAnswer, hfaults]
  split <;> rfl

/-- A dial looks at its destination alone. -/
theorem dial_relisten {addr : Ipv4} {port : Port} {ls : List Listener} {n : Network}
    (h : listenerAt addr port ls = listenerAt addr port n.listeners) (timeout : Option Nat) :
    (n.relisten ls).dial addr port timeout =
      ((n.dial addr port timeout).1, (n.dial addr port timeout).2.relisten ls) := by
  have hfind : ((n.relisten ls).listeners.find? fun l => l.addr = addr && l.port = port) =
      n.listeners.find? fun l => l.addr = addr && l.port = port := h
  rw [dial, dial, hfind]
  cases n.listeners.find? fun l => l.addr = addr && l.port = port with
  | none => rfl
  | some l =>
    dsimp only
    cases l.welcome with
    | accepted => rfl
    | refused e => rfl
    | silence =>
      match timeout with
      | none => rfl
      | some 0 => rfl
      | some (t + 1) => exact n.awaitAnswer_relisten l (t + 1) ls

end Network

namespace Session

/-- Started in `s`, the operation looks at no listener outside of the places of `P`. -/
def Heeds {α : Type} (P : Ipv4 → Port → Prop) (f : Session → α × Session) (s : Session) : Prop :=
  ∀ ls, SameAt P ls s.env.net.listeners → f (s.relisten ls) = ((f s).1, (f s).2.relisten ls)

theorem Blind.heeds {α : Type} {f : Session → α × Session} (h : Blind f)
    (P : Ipv4 → Port → Prop) (s : Session) : Heeds P f s := fun ls _ => h ls s

/-- An operation that looks at no place at all is blind. -/
theorem blind_iff {α : Type} {f : Session → α × Session} :
    Blind f ↔ ∀ s, Heeds (fun _ _ => False) f s :=
  ⟨fun h s => h.heeds _ s, fun h ls s => h s ls fun _ _ h => h.elim⟩

/-- Who listens stays the same. -/
theorem Heeds.listeners {α : Type} {P : Ipv4 → Port → Prop} {f : Session → α × Session}
    {s : Session} (h : Heeds P f s) : (f s).2.env.net.listeners = s.env.net.listeners := by
  have hsame := h s.env.net.listeners fun _ _ _ => rfl
  exact congrArg (fun y => y.2.env.net.listeners) hsame

theorem heeds_addConnection {P : Ipv4 → Port → Prop} (role : Role) {endpoint : Endpoint}
    {port : Port} (h : P endpoint.addr port) (timeout : Option Nat) (s : Session) :
    Heeds P (addConnection role endpoint port timeout) s := by
  intro ls hsame
  have hdial := Network.dial_relisten (hsame endpoint.addr port h) timeout
  have hnet : (s.relisten ls).env.net = s.env.net.relisten ls := rfl
  rw [addConnection, addConnection, Registry.add, Registry.add, Connection.dial, Connection.dial,
    hnet, hdial]
  rcases s.env.net.dial endpoint.addr port timeout with ⟨f | i, net⟩ <;> rfl

end Session

namespace Coordinated

open Session

variable {α β : Type} {P : Ipv4 → Port → Prop} {s : Session}

/-- **A sequence of steps looks where its steps look.** -/
theorem heeds_bind {x : Coordinated α} {f : α → Coordinated β} (hx : Heeds P x s)
    (hf : ∀ a t, x s = (.ok a, t) → Heeds P (f a) t) : Heeds P (x >>= f) s := by
  intro ls hsame
  have hlisteners := hx.listeners
  have hrun := hx ls hsame
  rw [run_bind, run_bind, hrun]
  rcases hs : x s with ⟨e | a, t⟩
  · rfl
  · rw [hs] at hlisteners
    refine hf a t hs ls ?_
    rw [hlisteners]
    exact hsame

/-- What is looked up in the session first is no listener. -/
theorem heeds_get {f : Session → Coordinated β} (hsame : ∀ ls, f (s.relisten ls) = f s)
    (hf : Heeds P (f s) s) : Heeds P (get >>= f) s := by
  intro ls h
  have hrun := hf ls h
  rw [run_bind, run_bind, run_get, run_get]
  dsimp only
  rw [hsame ls]
  exact hrun

theorem blind_bind {x : Coordinated α} {f : α → Coordinated β} (hx : Blind x)
    (hf : ∀ a, Blind (f a)) : Blind (x >>= f) :=
  blind_iff.2 fun s => heeds_bind (hx.heeds _ s) fun a t _ => (hf a).heeds _ t

theorem blind_get {f : Session → Coordinated β} (hsame : ∀ ls s, f (s.relisten ls) = f s)
    (hf : ∀ s, Blind (f s)) : Blind (get >>= f) :=
  blind_iff.2 fun s => heeds_get (fun ls => hsame ls s) ((hf s).heeds _ s)

theorem blind_pure (a : α) : Blind (pure a : Coordinated α) := fun _ _ => rfl

theorem blind_throw (e : CoordinatorError) : Blind (throw e : Coordinated α) := fun _ _ => rfl

theorem blind_modify {g : Session → Session} (h : ∀ ls s, g (s.relisten ls) = (g s).relisten ls) :
    Blind (modify g : Coordinated PUnit) := by
  intro ls s
  rw [run_modify, run_modify, h ls s]

theorem blind_report (event : Event) : Blind (report event) := fun _ _ => rfl

theorem blind_enter (stage : Stage) : Blind (enter stage) := fun _ _ => rfl

theorem blind_violation (expected received : Kind) :
    Blind (violation expected received : Coordinated α) := fun _ _ => rfl

theorem blind_decoded (x : Except CodecError α) : Blind (decoded x) := by
  cases x with
  | ok a => exact blind_pure a
  | error e => exact blind_throw (.codec e)

theorem blind_resolve (host : String) : Blind (resolve host) := by
  refine blind_get (fun _ _ => rfl) fun s => ?_
  refine blind_bind (blind_modify fun _ _ => rfl) fun _ => ?_
  split
  · exact blind_throw _
  · split
    · exact blind_pure _
    · exact blind_throw _

theorem heeds_connect (role : Role) {endpoint : Endpoint} {port : Port} (h : P endpoint.addr port)
    (s : Session) : Heeds P (connect role endpoint port) s := by
  intro ls hsame
  have hconfig : (s.relisten ls).worker.config = s.worker.config := rfl
  rw [run_connect, run_connect, hconfig, heeds_addConnection role h _ s ls hsame]

theorem blind_attachWorking (a : SegmentAnnouncement) : Blind (attachWorking a) := by
  intro ls s
  have hconfig : (s.relisten ls).worker.config = s.worker.config := rfl
  have hfiles : (s.relisten ls).env.files = s.env.files := rfl
  rw [run_attachWorking, run_attachWorking, hconfig, hfiles]
  rcases SegmentAccess.attach a.key a.size.toNat _ s.env.files with
    ⟨e | h, access, files, events⟩ <;> rfl

end Coordinated

end PipelineWorker
