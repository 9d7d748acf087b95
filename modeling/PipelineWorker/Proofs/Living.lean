/-
A connection that has failed is given up.

The use of a connection may make that connection dead, and no other.  Whatever the worker does, it
gives a dead connection up before it answers, so between two operations all are alive.

* `Registry.livingBut_withConnection` — the use of a connection leaves all others alive;
* `living_receiveFailed`, `living_sendFailed` — giving it up leaves only such as are alive;
* `living_exchange`, `living_waitUntil`, `living_sendToDatamanager`, `living_receiveFromDatamanager`
  — **after an operation all connections are alive, if they were before**.
-/
import PipelineWorker.Proofs.Using

namespace PipelineWorker

namespace Connection

theorem alive_of_send_ok {m : Message} {c : Connection} {env : Environment}
    (h : (c.send m env).1 = .ok ()) : (c.send m env).2.1.alive = true := by
  obtain ⟨halive, -, hsame⟩ := send_ok h
  rw [hsame]
  exact halive

theorem alive_of_receive_ok {c : Connection} {env : Environment} {m : Message}
    (h : (c.receive env).1 = .ok m) : (c.receive env).2.1.alive = true := by
  rw [receive_snd]
  refine alive_of_receiveWith_ok (x := some m) ?_
  rw [receive] at h
  split at h
  · rename_i m' c' env' heq
    rw [heq]
    exact congrArg (Except.map some) h
  · cases h
  · cases h

end Connection

namespace Registry

/-- All connections are alive. -/
def Living (r : Registry) : Prop := ∀ c ∈ r.connections, c.alive = true

/-- All connections are alive, save perhaps one. -/
def LivingBut (id : ConnectionId) (r : Registry) : Prop :=
  ∀ c ∈ r.connections.eraseP (·.id = id), c.alive = true

/-! ### The use of a connection -/

theorem mem_or_eq_of_mem_replaceIn {c d : Connection} {cs : List Connection}
    (h : c ∈ replaceIn d cs) : c ∈ cs ∨ c = d := by
  induction cs with
  | nil => exact absurd h List.not_mem_nil
  | cons e es ih =>
    rw [replaceIn] at h
    split at h
    · rcases List.mem_cons.1 h with h | h
      · exact .inr h
      · exact .inl (List.mem_cons_of_mem _ h)
    · rcases List.mem_cons.1 h with rfl | h
      · exact .inl List.mem_cons_self
      · exact (ih h).imp_left (List.mem_cons_of_mem _)

/-- Without it, it does not matter what took the place of a connection. -/
theorem eraseP_replaceIn (d : Connection) (cs : List Connection) :
    (replaceIn d cs).eraseP (·.id = d.id) = cs.eraseP (·.id = d.id) := by
  induction cs with
  | nil => rfl
  | cons e es ih =>
    rw [replaceIn]
    split
    · rename_i he
      rw [List.eraseP_cons_of_pos (by simp), List.eraseP_cons_of_pos (by simpa using he)]
    · rename_i he
      rw [List.eraseP_cons_of_neg (by simpa using he), List.eraseP_cons_of_neg (by simpa using he),
        ih]

theorem Living.but {r : Registry} (h : r.Living) (id : ConnectionId) : r.LivingBut id :=
  fun c hc => h c (List.mem_of_mem_eraseP hc)

theorem LivingBut.remove {r : Registry} {id : ConnectionId} (h : r.LivingBut id)
    (env : Environment) : (r.remove id env).2.1.Living := by
  rw [Living, connections_remove]
  exact h

variable {α : Type} {id : ConnectionId}
  {f : Connection → Environment → Except NetError α × Connection × Environment}

/-- **The use of a connection leaves all others alive.** -/
theorem livingBut_withConnection {r : Registry} (h : r.Living)
    (hid : ∀ c env, (f c env).2.1.id = c.id) (env : Environment) :
    (r.withConnection id f env).2.1.LivingBut id := by
  rw [withConnection]
  cases hc : r.get? id with
  | none => exact h.but id
  | some c =>
    have hsame : (f c env).2.1.id = id := (hid c env).trans (id_of_get? hc)
    intro d hd
    have herase := eraseP_replaceIn (f c env).2.1 r.connections
    rw [hsame] at herase
    refine h d (List.mem_of_mem_eraseP (p := fun c => c.id = id) ?_)
    rw [← herase]
    exact hd

/-- A use that succeeds leaves them all alive. -/
theorem living_withConnection {r : Registry} (h : r.Living)
    (hf : ∀ c env a, (f c env).1 = .ok a → (f c env).2.1.alive = true) {env : Environment} {a : α}
    (hok : (r.withConnection id f env).1 = .ok a) : (r.withConnection id f env).2.1.Living := by
  rw [withConnection] at hok ⊢
  cases hc : r.get? id with
  | none => exact h
  | some c =>
    rw [hc] at hok
    intro d hd
    rcases mem_or_eq_of_mem_replaceIn hd with hd | rfl
    · exact h d hd
    · exact hf c env a hok

end Registry

namespace Session

/-- All connections are alive. -/
def Living (s : Session) : Prop := s.worker.connections.Living

/-- All connections are alive, save perhaps one. -/
def LivingBut (id : ConnectionId) (s : Session) : Prop := s.worker.connections.LivingBut id

variable {id : ConnectionId} {s t : Session}

/-! ### Single steps -/

theorem Living.of_eq (h : s.Living) (hc : t.worker.connections = s.worker.connections) :
    t.Living := by
  rw [Living, hc]
  exact h

theorem Living.takeAnnouncement {m : Message} {x : Except CoordinatorError Unit} (h : s.Living)
    (ht : s.takeAnnouncement m = (x, t)) : t.Living := by
  refine h.of_eq ?_
  have hsame := s.connections_takeAnnouncement m
  rw [ht] at hsame
  exact hsame

theorem Living.send_ok {m : Message} (h : s.Living) (hs : s.send id m = (.ok (), t)) :
    t.Living := by
  obtain rfl : (s.send id m).2 = t := congrArg Prod.snd hs
  exact Registry.living_withConnection h (fun _ _ _ => Connection.alive_of_send_ok)
    (congrArg Prod.fst hs)

theorem Living.send_error {m : Message} {e : NetError} (h : s.Living)
    (hs : s.send id m = (.error e, t)) : t.LivingBut id := by
  obtain rfl : (s.send id m).2 = t := congrArg Prod.snd hs
  exact Registry.livingBut_withConnection h (Connection.id_send m) s.env

theorem Living.receive_ok {m : Message} (h : s.Living) (hr : s.receive id = (.ok m, t)) :
    t.Living := by
  obtain rfl : (s.receive id).2 = t := congrArg Prod.snd hr
  exact Registry.living_withConnection h (fun _ _ _ => Connection.alive_of_receive_ok)
    (congrArg Prod.fst hr)

theorem Living.receive_error {e : NetError} (h : s.Living) (hr : s.receive id = (.error e, t)) :
    t.LivingBut id := by
  obtain rfl : (s.receive id).2 = t := congrArg Prod.snd hr
  exact Registry.livingBut_withConnection h Connection.id_receive s.env

theorem Living.receiveBy_ok {deadline : Option Nat} {x : Option Message} (h : s.Living)
    (hr : s.receiveBy deadline id = (.ok x, t)) : t.Living := by
  obtain rfl : (s.receiveBy deadline id).2 = t := congrArg Prod.snd hr
  cases deadline with
  | some d =>
    exact Registry.living_withConnection h (fun _ _ _ => Connection.alive_of_receiveWith_ok)
      (congrArg Prod.fst hr)
  | none =>
    cases hx : s.receive id with
    | mk y u =>
      cases y with
      | ok m =>
        rw [receiveBy, hx]
        exact h.receive_ok hx
      | error e =>
        rw [receiveBy, hx] at hr
        cases hr

theorem Living.receiveBy_error {deadline : Option Nat} {e : NetError} (h : s.Living)
    (hr : s.receiveBy deadline id = (.error e, t)) : t.LivingBut id := by
  obtain rfl : (s.receiveBy deadline id).2 = t := congrArg Prod.snd hr
  cases deadline with
  | some d => exact Registry.livingBut_withConnection h (Connection.id_receiveWith (some d)) s.env
  | none => exact Registry.livingBut_withConnection h Connection.id_receive s.env

/-! ### Giving a connection up -/

theorem LivingBut.connectionLost (h : s.LivingBut id) : (s.connectionLost id).2.Living := by
  rw [Living, connections_connectionLost]
  exact Registry.LivingBut.remove h s.env

/-- **Where receiving failed the connection is given up.** -/
theorem living_receiveFailed (h : s.LivingBut id) (e : NetError) :
    (s.receiveFailed id e).2.Living := by
  rw [Living, connections_receiveFailed]
  exact Registry.LivingBut.remove h s.env

/-- **Where sending failed, too.** -/
theorem living_sendFailed (h : s.LivingBut id) : (s.sendFailed id).2.Living := by
  rw [sendFailed]
  split
  · rw [Living, connections_terminate]
    exact Registry.LivingBut.remove h s.env
  · exact h.connectionLost

/-! ### Operations -/

theorem Living.awaitReply (role : Role) (expected : List Kind) (h : s.Living) :
    (s.awaitReply id role expected).2.Living := by
  -- The induction follows the receives; those that succeed leave the connection alive.
  fun_induction Session.awaitReply id role expected s with
  | case1 s e t hr e' u hf =>
    have hfailed := living_receiveFailed (h.receive_error hr) e
    rw [hf] at hfailed
    exact hfailed
  | case2 s m t hr hk e u ht => exact (h.receive_ok hr).takeAnnouncement ht
  | case3 s m t hr hk u ht ih => exact ih ((h.receive_ok hr).takeAnnouncement ht)
  | case4 s m t hr => exact h.receive_ok hr
  | case5 s m t hr hk hw hclosed e u hl =>
    have hbut : t.LivingBut id := Registry.Living.but (h.receive_ok hr) id
    have hlost := hbut.connectionLost
    rw [hl] at hlost
    exact hlost
  | case6 s m t hr hk hw hclosed ih =>
    have ht : t.Living := h.receive_ok hr
    exact ih ht

theorem living_exchange (id : ConnectionId) (request : Message) (expected : List Kind)
    (h : s.Living) : (s.exchange id request expected).2.Living := by
  rw [exchange]
  split
  · exact h
  · rename_i c hc
    cases hs : s.send id request with
    | mk x t =>
      cases x with
      | error e =>
        have hbut : t.LivingBut id := h.send_error hs
        exact living_sendFailed (s := t.report (.exchangeSendFailed c.role e)) hbut
      | ok _ => exact (h.send_ok hs).awaitReply c.role expected

theorem living_exchangeWithDatamanager (request : Message) (expected : List Kind) (h : s.Living) :
    (s.exchangeWithDatamanager request expected).2.Living := by
  rw [exchangeWithDatamanager]
  split
  · exact h
  · exact living_exchange _ request expected h

theorem living_sendToDatamanager (m : Message) (h : s.Living) :
    (s.sendToDatamanager m).2.Living := by
  rw [sendToDatamanager]
  split
  · exact h
  · rename_i id hd
    cases hs : s.send id m with
    | mk x t =>
      cases x with
      | error e =>
        have hbut : t.LivingBut id := h.send_error hs
        exact living_sendFailed (s := t.report (.datamanagerSendFailed e m.kind)) hbut
      | ok _ => exact h.send_ok hs

theorem living_receiveFromDatamanager (h : s.Living) : s.receiveFromDatamanager.2.Living := by
  rw [receiveFromDatamanager]
  split
  · exact h
  · rename_i id hd
    cases hr : s.receive id with
    | mk x t =>
      cases x with
      | error e => exact living_receiveFailed (h.receive_error hr) e
      | ok m => exact h.receive_ok hr

theorem Living.readFrom (deadline : Option Nat) (id : ConnectionId) (h : s.Living) :
    (s.readFrom deadline id).2.Living := by
  rw [Session.readFrom]
  cases hr : s.receiveBy deadline id with
  | mk x t =>
    rcases x with e | _ | m
    · exact living_receiveFailed (h.receiveBy_error hr) e
    · have ht : t.Living := h.receiveBy_ok hr
      exact ht
    · have ht : t.Living := h.receiveBy_ok hr
      exact ht

theorem Living.nextMessage (deadline : Option Nat) (h : s.Living) :
    (s.nextMessage deadline).2.Living := by
  have hnext := s.next_nextMessage deadline
  generalize s.nextMessage deadline = r at hnext ⊢
  cases hnext with
  | deferred m => exact h
  | nobody none_watched => exact h
  | unpolled f => exact h
  | late poll => exact h
  | ready watched found => exact Living.readFrom (s := s.polled deadline) deadline _ h

theorem living_waitUntil (deadline : Option Nat) (h : s.Living) :
    (s.waitUntil deadline).2.Living := by
  have next {s t : Session} {x : Except CoordinatorError (Option Message)} (h : s.Living)
      (hn : s.nextMessage deadline = (x, t)) : t.Living := by
    obtain rfl : (s.nextMessage deadline).2 = t := congrArg Prod.snd hn
    exact h.nextMessage deadline
  fun_induction waitUntil deadline s with
  | case1 s e t hn => exact next h hn
  | case2 s t hn => exact next h hn
  | case3 s m t hn hk e u ht => exact (next h hn).takeAnnouncement ht
  | case4 s m t hn hk u ht ih => exact ih ((next h hn).takeAnnouncement ht)
  | case5 s m t hn hk => exact next h hn

theorem living_wait (h : s.Living) : s.wait.2.Living := by
  rw [snd_wait]
  exact living_waitUntil none h

end Session

end PipelineWorker
