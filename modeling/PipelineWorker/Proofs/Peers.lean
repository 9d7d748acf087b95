/-
What a peer can do to a worker.

An exchange with a peer leaves the stage of the worker and all its other connections alone, whatever
the peer sends and however its connection ends.  What goes away is lost without harm.  Only bytes that
cannot be read are told as a fatal error, though the worker goes on (`Unreadable`): a header that is
over the limit, or a failure of the stream that is not a way of going away.

* `fatal_awaitReply_iff` — waiting for the reply of a peer fails fatally exactly where its stream
  becomes unreadable;
* `exchange_with_peer` — **an exchange with a peer disturbs nothing else, and fails fatally exactly
  there**.
-/
import PipelineWorker.Proofs.Handshake
import PipelineWorker.Proofs.Standing

namespace PipelineWorker

/-! ### Streams that cannot be read -/

/-- Behind messages that are passed over comes a header that is over the limit, or a failure that is
not a way of going away. -/
def Unreadable (wanted : Kind → Prop) (bs : Bytes) (ending : OsFailure) : Prop :=
  (∀ m ∈ Frame.messages bs, PassedOver wanted m) ∧
    ((∃ n, Frame.decode (bs.drop (Frame.span (Frame.messages bs)))
        = .error (.payloadTooLarge n Frame.maxPayload)) ∨
      ending.kind.isDisconnect = false)

section Unreadable

variable {wanted : Kind → Prop} {bs : Bytes} {ending : OsFailure}

theorem unreadable_of_error {e : CodecError} (h : Frame.decode bs = .error e) :
    Unreadable wanted bs ending ↔
      (∃ n, Frame.decode bs = .error (.payloadTooLarge n Frame.maxPayload)) ∨
        ending.kind.isDisconnect = false := by
  rw [Unreadable, Frame.messages_eq_nil h, Frame.span_nil, List.drop_zero]
  exact and_iff_right fun _ hm => absurd hm List.not_mem_nil

/-- What can be read is passed over, and the rest is unreadable. -/
theorem unreadable_cons {m : Message} {n : Nat} (h : Frame.decode bs = .ok (m, n)) :
    Unreadable wanted bs ending ↔ PassedOver wanted m ∧ Unreadable wanted (bs.drop n) ending := by
  have hspan : Frame.span (m :: Frame.messages (bs.drop n))
      = n + Frame.span (Frame.messages (bs.drop n)) := by
    rw [Frame.span_cons, ← (Frame.length_of_decode h).1]
  rw [Unreadable, Frame.messages_eq_cons h, hspan, ← List.drop_drop, List.forall_mem_cons,
    and_assoc, Unreadable]

end Unreadable

namespace Session

variable {id : ConnectionId} {c : Connection} {s : Session}

/-! ### Receiving from a peer -/

/-- What the session receives is what the connection receives. -/
theorem receive_reception (hc : s.worker.connections.get? id = some c) (hs : c.InStep s.env.net)
    (ha : c.alive = true) :
    Connection.Reception none c s.env ((s.receive id).1.map some) (c.receive s.env).2.1
      (s.receive id).2.env := by
  have hr := Connection.receiveWith_reception none hs ha
  rw [← Connection.receive_eq_receiveWith hs] at hr
  rw [receive_eq hc]
  exact hr

/-- The loss of a peer is not fatal. -/
theorem isFatal_connectionLost_peer (hrole : s.standing.role? id = some .peer) :
    (s.connectionLost id).1.isFatal = false := by
  rw [fst_connectionLost_eq, hrole]
  rfl

/-- Nor is it when a message could not be sent to a peer that the worker does not depend on. -/
theorem isFatal_sendFailed_peer (hrole : s.standing.role? id = some .peer)
    (hfree : id ∉ s.worker.watched) : (s.sendFailed id).1.isFatal = false := by
  have hd : s.worker.datamanager ≠ some id := fun h =>
    hfree (List.mem_append_right _ (Option.mem_toList.2 h))
  rw [sendFailed, if_neg hd]
  exact isFatal_connectionLost_peer hrole

/-- A receive from a peer that fails is told as fatal exactly where the stream is unreadable. -/
theorem fatal_receiveFailed_iff (wanted : Kind → Prop)
    (hc : s.worker.connections.get? id = some c) (hs : c.InStep s.env.net) (ha : c.alive = true)
    (hpeer : c.role = .peer) {e : NetError} {t : Session} (h : s.receive id = (.error e, t)) :
    (t.receiveFailed id e).1.isFatal = true ↔
      Unreadable wanted (c.stream s.env.net) (s.env.net.link c.link).ending := by
  have hreads := reads_receive hc hs
  have hreception := receive_reception hc hs ha
  rw [h] at hreads hreception
  have hrole := role?_of_get? hreads.found
  rw [hreads.role, hpeer] at hrole
  have hlost := isFatal_connectionLost_peer hrole
  generalize hx : Except.map some (.error e : Except NetError Message) = x at hreception
  cases hreception with
  | message => cases hx
  | late limited => exact absurd limited Bool.false_ne_true
  | @refused f c' env' header dead emptied rest reported =>
    -- a header that is over the limit
    obtain rfl : e = .codec f := Except.error.inj hx
    obtain ⟨n, rfl⟩ := Frame.exists_of_length?_error header
    have hd := Frame.decode_of_length?_error header
    rw [unreadable_of_error hd]
    exact ⟨fun _ => .inl ⟨n, hd⟩, fun _ => rfl⟩
  | ended short dead emptied reported =>
    -- the end of the stream, which is a way of going away or not
    obtain rfl := Except.error.inj hx
    have hnot : ¬ ∃ n, Frame.decode (c.stream s.env.net)
        = .error (.payloadTooLarge n Frame.maxPayload) := by
      rintro ⟨n, hn⟩
      rw [short] at hn
      cases hn
    rw [unreadable_of_error short, or_iff_right hnot, Connection.lossOf]
    cases hkind : (s.env.net.link c.link).ending.kind.isDisconnect with
    | true =>
      rw [if_pos rfl]
      rw [show (t.receiveFailed id (.connectionClosed c.id)).1.isFatal = false from hlost]
      exact ⟨(fun h => nomatch h), (fun h => nomatch h)⟩
    | false =>
      rw [if_neg Bool.false_ne_true]
      exact ⟨fun _ => rfl, fun _ => rfl⟩

/-- A message that is received leaves the rest of the stream, which ends as it did before. -/
theorem receive_message (hc : s.worker.connections.get? id = some c) (hs : c.InStep s.env.net)
    (ha : c.alive = true) {m : Message} {t : Session} (h : s.receive id = (.ok m, t)) :
    ∃ m₀ n c', m = m₀.withOrigin id ∧ Frame.decode (c.stream s.env.net) = .ok (m₀, n) ∧
      Reads id c c' s t ∧ c'.alive = true ∧
      c'.stream t.env.net = (c.stream s.env.net).drop n ∧
      (t.env.net.link c'.link).ending = (s.env.net.link c.link).ending := by
  obtain ⟨m₀, n, c', hm, hd, hreads, halive, hstream, -⟩ := receive_ok hc hs h
  have hreception := receive_reception hc hs ha
  rw [h] at hreception
  generalize hx : Except.map some (.ok m : Except NetError Message) = x at hreception
  cases hreception with
  | message frame alive emptied rest ending reported =>
    refine ⟨m₀, n, c', hm, hd, hreads, halive, hstream, ?_⟩
    rw [hreads.link]
    exact ending
  | late limited => exact absurd limited Bool.false_ne_true
  | refused => cases hx
  | ended => cases hx

/-! ### Exchanges with a peer -/

/-- **Waiting for the reply of a peer fails fatally exactly where its stream becomes unreadable**;
the segments that it announces are taken to be attached. -/
theorem fatal_awaitReply_iff (role : Role) (expected : List Kind)
    (hc : s.worker.connections.get? id = some c) (hs : c.InStep s.env.net) (ha : c.alive = true)
    (hpeer : c.role = .peer)
    (hattached : ∀ f, (s.awaitReply id role expected).1 ≠ .error (.segment f)) :
    (∃ e, (s.awaitReply id role expected).1 = .error e ∧ e.isFatal = true) ↔
      Unreadable (· ∈ expected) (c.stream s.env.net) (s.env.net.link c.link).ending := by
  -- The induction follows the receives; each message is either passed over or the last one.
  fun_induction awaitReply id role expected s generalizing c with
  | case1 s e t hr e' u hf =>
    have hiff := fatal_receiveFailed_iff (· ∈ expected) hc hs ha hpeer hr
    rw [hf] at hiff
    rw [← hiff]
    simp
  | case2 s m t hr hk e u ht =>
    obtain ⟨key, size, reason, rfl⟩ := takeAnnouncement_unavailable ht
    exact absurd rfl (hattached _)
  | case3 s m t hr hk u ht ih =>
    -- an announcement, which is taken up
    obtain ⟨m₀, n, c', rfl, hd, hreads, halive, hstream, hending⟩ := receive_message hc hs ha hr
    have hworker := t.worker_takeAnnouncement (m₀.withOrigin id)
    have hnet := t.net_takeAnnouncement (m₀.withOrigin id)
    rw [ht] at hworker hnet
    have hiff := ih (by rw [hworker]; exact hreads.found) (by rw [hnet]; exact hreads.inStep)
      halive (hreads.role.trans hpeer) hattached
    rw [hiff, hnet, hstream, hending, unreadable_cons hd]
    exact (and_iff_right (.inl hk)).symm
  | case4 s m t hr hk hw =>
    -- the reply
    obtain ⟨m₀, n, c', rfl, hd, -⟩ := receive_message hc hs ha hr
    rw [unreadable_cons hd]
    refine ⟨?_, ?_⟩
    · rintro ⟨e, he, -⟩
      cases he
    · rintro ⟨hover | ⟨hover, -⟩, -⟩
      · exact absurd hover hk
      · exact absurd hw hover
  | case5 s m t hr hk hw hclosed e u hl =>
    -- a farewell, which is a loss
    obtain ⟨m₀, n, c', rfl, hd, hreads, -⟩ := receive_message hc hs ha hr
    have hrole := role?_of_get? hreads.found
    rw [hreads.role, hpeer] at hrole
    have hlost := isFatal_connectionLost_peer hrole
    rw [hl] at hlost
    rw [unreadable_cons hd]
    refine ⟨?_, ?_⟩
    · rintro ⟨e', he, hfatal⟩
      obtain rfl := Except.error.inj he
      rw [hlost] at hfatal
      cases hfatal
    · rintro ⟨hover | ⟨-, hover⟩, -⟩
      · exact absurd hover hk
      · exact absurd hclosed hover
  | case6 s m t hr hk hw hclosed ih =>
    -- any other message is deferred
    obtain ⟨m₀, n, c', rfl, hd, hreads, halive, hstream, hending⟩ := receive_message hc hs ha hr
    have hiff := ih hreads.found hreads.inStep halive (hreads.role.trans hpeer) hattached
    rw [hiff, unreadable_cons hd, ← hstream, ← hending]
    exact (and_iff_right (.inr ⟨hw, hclosed⟩)).symm

/-- From `s` to `t` nothing changed for the worker but messages, segments and connection `id`. -/
structure Undisturbed (id : ConnectionId) (s t : Session) : Prop where
  stage : t.worker.stage = s.worker.stage
  controller : t.worker.controller = s.worker.controller
  datamanager : t.worker.datamanager = s.worker.datamanager
  others : ∀ j, j ≠ id → t.worker.connections.get? j = s.worker.connections.get? j

/-- The loss of a peer that the worker does not depend on disturbs nothing else. -/
theorem undisturbed_of_after {α : Type} {x : Except CoordinatorError α} {t : Session}
    (hafter : s.standing.After id x t.standing) (huses : Uses id s t)
    (hrole : s.standing.role? id = some .peer) (hfree : id ∉ s.worker.watched) :
    Undisturbed id s t := by
  have hc : s.worker.controller ≠ some id := fun h =>
    hfree (List.mem_append_left _ (Option.mem_toList.2 h))
  have hd : s.worker.datamanager ≠ some id := fun h =>
    hfree (List.mem_append_right _ (Option.mem_toList.2 h))
  have hothers : ∀ j, j ≠ id → t.worker.connections.get? j = s.worker.connections.get? j :=
    fun j hj => huses.get?_of_ne hj
  -- nobody depends on the connection, so that nothing but its entry goes with it
  have hlose : s.standing.lose id = s.standing.without id := by
    rw [Standing.lose, hrole]
    rfl
  have hwithout (h : t.standing = s.standing.without id) : Undisturbed id s t := by
    refine ⟨congrArg Standing.stage h, ?_, ?_, hothers⟩
    · exact (congrArg Standing.controller h).trans (if_neg hc)
    · exact (congrArg Standing.datamanager h).trans (if_neg hd)
  have hsame (h : t.standing = s.standing) : Undisturbed id s t :=
    ⟨congrArg Standing.stage h, congrArg Standing.controller h,
      congrArg Standing.datamanager h, hothers⟩
  generalize ht : t.standing = q at hafter
  cases hafter with
  | done a => exact hsame ht
  | unattachable key size reason => exact hsame ht
  | failed fails =>
    cases fails with
    | unknown missing => exact hsame ht
    | lost found => exact hwithout (ht.trans hlose)
    | garbled found e => exact hwithout (ht.trans hlose)
    | unsent datamanager => exact absurd datamanager hd

/-- **An exchange with a peer disturbs neither the worker nor its other connections, and fails
fatally exactly where the stream of the peer becomes unreadable**; the segments that the peer
announces are taken to be attached. -/
theorem exchange_with_peer {request : Message} {expected : List Kind} (hr : s.Reachable)
    (hc : s.worker.connections.get? id = some c) (hpeer : c.role = .peer)
    (hfree : id ∉ s.worker.watched)
    (hattached : ∀ f, (s.exchange id request expected).1 ≠ .error (.segment f)) :
    Undisturbed id s (s.exchange id request expected).2 ∧
      ((∃ e, (s.exchange id request expected).1 = .error e ∧ e.isFatal = true) ↔
        (s.send id request).1 = .ok () ∧
          Unreadable (· ∈ expected) (c.stream s.env.net) (s.env.net.link c.link).ending) := by
  have hrole := role?_of_get? hc
  rw [hpeer] at hrole
  refine ⟨undisturbed_of_after (exchange_after id request expected hr.sound)
    (s.uses_exchange id request expected) hrole hfree, ?_⟩
  have hs := hr.sound.get? hc
  cases hsent : (s.send id request).1 with
  | ok _ =>
    obtain ⟨ha, -, hsend⟩ := send_ok hc hsent
    obtain ⟨hfound, hstep, hstream⟩ := found_afterSend request hc hs
    have hw := Connection.writesOn_written request hs.linked
    have hending : ((s.afterSend request c).env.net.link c.link).ending
        = (s.env.net.link c.link).ending := by
      rw [Link.ending, Link.ending]
      exact congrArg Link.endOf (hw.arrivals c.link)
    have hexchange : s.exchange id request expected
        = (s.afterSend request c).awaitReply id c.role expected := by
      rw [exchange, hc]
      dsimp only
      rw [hsend]
    rw [hexchange] at hattached ⊢
    rw [fatal_awaitReply_iff c.role expected hfound hstep ha hpeer hattached, hstream, hending]
    exact (and_iff_right rfl).symm
  | error e =>
    -- the request cannot be sent, which is a loss
    refine ⟨?_, by rintro ⟨⟨⟩, -⟩⟩
    rintro ⟨e', he, hfatal⟩
    have hstanding := s.standing_send id request
    rw [exchange, hc] at he
    cases hsend : s.send id request with
    | mk x t =>
      rw [hsend] at he hsent hstanding
      obtain rfl : x = .error e := hsent
      have hwatched : t.worker.watched = s.worker.watched := congrArg Standing.watched hstanding
      rw [← hwatched] at hfree
      rw [← hstanding] at hrole
      have hnot := isFatal_sendFailed_peer (s := t.report (.exchangeSendFailed c.role e)) hrole hfree
      rw [Except.error.inj he, hfatal] at hnot
      cases hnot

/-! ### Two peers -/

/-- A running worker that is connected to this peer as well. -/
def meeting (peer : Listener) : Session :=
  let started := Call.handshake.run (fresh (.ofController "127.0.0.1" 4000) 7
    { net := { listeners := [.assigning, .supplying, peer] } })
  ((Call.addConnection .peer ⟨.loopback, "127.0.0.1"⟩ peer.port none).run started.2).2

theorem reachable_meeting (peer : Listener) : Reachable (meeting peer) :=
  ((Reachable.fresh _ _ _).call .handshake).call (.addConnection .peer _ _ none)

/-- A peer goes away inside of a frame. -/
theorem undisturbed_by_leaving_peer :
    let s := meeting
      { addr := .loopback, port := 6000, script := [(0, .data [0, 0, 0, 6]), (0, .close)] }
    s.worker.stage = .running ∧
      (s.exchange ⟨2⟩ (.empty .start) [.finished]).1 = .error (.peerDisconnected .peer) ∧
      Undisturbed ⟨2⟩ s (s.exchange ⟨2⟩ (.empty .start) [.finished]).2 := by
  intro s
  have hpeer : (s.worker.connections.get? ⟨2⟩).map (·.role) = some .peer := by decide +kernel
  obtain ⟨c, hc, hrole⟩ := Option.map_eq_some_iff.1 hpeer
  have herror : (s.exchange ⟨2⟩ (.empty .start) [.finished]).1
      = .error (.peerDisconnected .peer) := by decide +kernel
  have hattached : ∀ f, (s.exchange ⟨2⟩ (.empty .start) [.finished]).1
      ≠ .error (.segment f) := by
    intro f h
    rw [herror] at h
    cases h
  exact ⟨by decide +kernel, herror,
    (exchange_with_peer (reachable_meeting _) hc hrole (by decide +kernel) hattached).1⟩

/-- A peer sends a header that is over the limit. -/
theorem fatal_exchange_with_peer :
    let s := meeting
      { addr := .loopback, port := 6000, script := [(0, .data [0, 0, 0, 6, 255, 255, 255, 255])] }
    Reachable s ∧ s.worker.stage = .running ∧
      (s.worker.connections.get? ⟨2⟩).map (·.role) = some .peer ∧
      ∃ e, (s.exchange ⟨2⟩ (.empty .start) [.finished]).1 = .error e ∧ e.isFatal = true ∧
        ∀ f, e ≠ .segment f := by
  intro s
  have herror : (s.exchange ⟨2⟩ (.empty .start) [.finished]).1
      = .error (.net (.codec (.payloadTooLarge 4294967295 Frame.maxPayload))) := by decide +kernel
  exact ⟨reachable_meeting _, by decide +kernel, by decide +kernel, _, herror, rfl,
    fun _ h => nomatch h⟩

end Session

end PipelineWorker
