/-
Sending until something fails.

A `Conversation` has dialled a connection and sends and receives on it in any order; between two
calls anything may arrive, and anything may become of the coming writes.  The calls are listed with
their answers.

* `conversation_unbroken` — **the socket takes whole frames and nothing else, until a send fails in
  the middle of one; behind the first failure nothing is sent or received any more**;
* `Sink.cut_of_writeMessage` — a write that fails has stopped short of the end of the frame;
* `Transcript.Wrote.messages` — who reads what was sent finds the messages whose send succeeded.
-/
import PipelineWorker.Proofs.Living
import PipelineWorker.Proofs.Receiving

namespace PipelineWorker

/-! ### Writes that fail -/

theorem Frame.length_of_encode {m : Message} {frame : Bytes} (h : encode m = .ok frame) :
    frame.length = headerLength + m.payload.length := by
  obtain ⟨-, hbytes⟩ := encode_eq_ok_iff.1 h
  rw [hbytes, List.length_append, length_header, Payload.length_toList]

/-- Part of the frame of a message, and not all of it; of a message that has no frame, nothing. -/
def Frame.Cut (m : Message) (bs : Bytes) : Prop :=
  bs = [] ∨ ∃ frame, encode m = .ok frame ∧ bs <+: frame ∧ bs ≠ frame

/-- A part of a frame is not taken for a message. -/
theorem Frame.Cut.messages {m : Message} {bs : Bytes} (h : Cut m bs) : messages bs = [] := by
  cases hd : decode bs with
  | error e => exact messages_eq_nil hd
  | ok r =>
    obtain ⟨m', n⟩ := r
    obtain ⟨hn, hle⟩ := length_of_decode hd
    rcases h with rfl | ⟨frame, hframe, ⟨rest, rfl⟩, hne⟩
    · have : headerLength = 8 := rfl
      rw [List.length_nil] at hle
      omega
    · -- The part would be the frame of the same message, and so as long as the whole.
      have hwhole := decode_encode_append hframe []
      rw [List.append_nil] at hwhole
      obtain ⟨-, hsame⟩ := decode_unique (decode_append hd rest) hwhole
      have hlength := length_of_encode hframe
      rw [List.length_append] at hlength
      have hrest : rest = [] := List.length_eq_zero_iff.1 (by omega)
      exact absurd (by rw [hrest, List.append_nil]) hne

namespace Sink

/-- A write that failed has stopped short of the end. -/
theorem written_of_error {bs : Bytes} {sink : Sink} {f : OsFailure}
    (h : (writeAll bs sink).result = .error f) :
    ∃ rest, rest ≠ [] ∧ (writeAll bs sink).written ++ rest = bs := by
  fun_induction writeAll bs sink with
  | case1 sink => cases h
  | case2 bs hbs => cases h
  | case3 bs f sink hbs hf o ih => exact ih h
  | case4 bs f sink hbs hf => exact ⟨bs, hbs, rfl⟩
  | case5 bs sink hbs => exact ⟨bs, hbs, rfl⟩
  | case6 bs n sink hbs hn o ih =>
    obtain ⟨rest, hrest, hsplit⟩ := ih h
    refine ⟨rest, hrest, ?_⟩
    show bs.take n ++ o.written ++ rest = bs
    rw [List.append_assoc, hsplit, List.take_append_drop]

/-- **A message that was not sent left at most a part of its frame on the stream.** -/
theorem cut_of_writeMessage {m : Message} {sink : Sink} {e : CodecError}
    (h : (writeMessage m (.ok ()) sink).1 = .error e) :
    Frame.Cut m (writeMessage m (.ok ()) sink).2.written := by
  rw [writeMessage] at h ⊢
  cases hf : Frame.encode m with
  | error e' => exact .inl rfl
  | ok frame =>
    rw [hf] at h
    cases hr : (writeAll frame sink).result with
    | ok u =>
      simp only [hr] at h
      cases h
    | error f =>
      obtain ⟨rest, hrest, hsplit⟩ := written_of_error hr
      simp only [hr]
      refine .inr ⟨frame, hf, ⟨rest, hsplit⟩, fun heq => hrest ?_⟩
      rw [heq] at hsplit
      exact List.append_right_eq_self.1 hsplit

end Sink

namespace Network

/-- The worker does nothing on link `i`, and no link goes away. -/
structure LeavesSocket (i : Nat) (net net' : Network) : Prop where
  count : net.links.length ≤ net'.links.length
  sent : (net'.link i).sent = (net.link i).sent
  readTimeout : (net'.link i).readTimeout = (net.link i).readTimeout

end Network

namespace Connection

/-! ### Calls in both directions -/

/-- A call on a connection. -/
inductive Action
  | send (m : Message)
  | await (call : Call)

/-- Makes the call; a send hands no message out. -/
def Action.run (action : Action) (c : Connection) (env : Environment) :
    Except NetError (Option Message) × Connection × Environment :=
  match action with
  | send m => ((c.send m env).1.map fun _ => none, (c.send m env).2)
  | await call => call.run c env

/-- Calls, each with its answer. -/
abbrev Transcript := List (Action × Except NetError (Option Message))

namespace Transcript

/-- The messages whose send succeeded. -/
def delivered (calls : Transcript) : List Message :=
  calls.filterMap fun call => match call with
    | (.send m, .ok _) => some m
    | _ => none

@[simp] theorem delivered_append (calls more : Transcript) :
    delivered (calls ++ more) = delivered calls ++ delivered more :=
  List.filterMap_append

/-- Some call has failed. -/
def Failed (calls : Transcript) : Prop := ∃ action e, (action, .error e) ∈ calls

theorem not_failed_nil : ¬ Failed [] := fun ⟨_, _, h⟩ => nomatch h

theorem failed_append_error (calls : Transcript) (action : Action) (e : NetError) :
    Failed (calls ++ [(action, .error e)]) :=
  ⟨action, e, List.mem_append_right _ (List.mem_singleton_self _)⟩

theorem failed_append_ok {calls : Transcript} {action : Action} {x : Option Message} :
    Failed (calls ++ [(action, .ok x)]) ↔ Failed calls := by
  constructor
  · rintro ⟨a, e, h⟩
    rcases List.mem_append.1 h with h | h
    · exact ⟨a, e, h⟩
    · simp at h
  · rintro ⟨a, e, h⟩
    exact ⟨a, e, List.mem_append_left _ h⟩

/-- What the first call that failed left on the stream behind the whole frames: part of a frame, if
it was a send. -/
def Remains (calls : Transcript) (cut : Bytes) : Prop :=
  cut = [] ∨ ∃ before m e after, calls = before ++ (.send m, .error e) :: after ∧
    ¬ Failed before ∧ Frame.Cut m cut

theorem Remains.append {calls : Transcript} {cut : Bytes} (h : calls.Remains cut)
    (more : Transcript) : Remains (calls ++ more) cut := by
  rcases h with h | ⟨before, m, e, after, rfl, hbefore, hcut⟩
  · exact .inl h
  · refine .inr ⟨before, m, e, after ++ more, ?_, hbefore, hcut⟩
    rw [List.append_assoc, List.cons_append]

theorem Remains.eq_nil {calls : Transcript} {cut : Bytes} (h : calls.Remains cut)
    (hfine : ¬ calls.Failed) : cut = [] := by
  rcases h with h | ⟨before, m, e, after, rfl, -, -⟩
  · exact h
  · exact absurd ⟨_, e, List.mem_append_right _ List.mem_cons_self⟩ hfine

/-- These bytes are the frames of the messages whose send succeeded, in order, and behind them
at most a part of the frame of the send that failed first. -/
def Wrote (calls : Transcript) (bs : Bytes) : Prop :=
  ∃ frames cut, calls.delivered.mapM Frame.encode = .ok frames ∧ bs = frames.flatten ++ cut ∧
    calls.Remains cut

/-- A call that delivered nothing and left nothing. -/
theorem Wrote.append {calls : Transcript} {bs : Bytes} (h : calls.Wrote bs) {more : Transcript}
    (hmore : more.delivered = []) : Wrote (calls ++ more) bs := by
  obtain ⟨frames, cut, hframes, hbs, hcut⟩ := h
  refine ⟨frames, cut, ?_, hbs, hcut.append more⟩
  rw [delivered_append, hmore, List.append_nil, hframes]

/-- As long as no call has failed, the bytes are whole frames. -/
theorem Wrote.whole {calls : Transcript} {bs : Bytes} (h : calls.Wrote bs)
    (hfine : ¬ calls.Failed) :
    ∃ frames, calls.delivered.mapM Frame.encode = .ok frames ∧ bs = frames.flatten := by
  obtain ⟨frames, cut, hframes, hbs, hcut⟩ := h
  rw [hcut.eq_nil hfine, List.append_nil] at hbs
  exact ⟨frames, hframes, hbs⟩

theorem Wrote.send_ok {calls : Transcript} {bs frame : Bytes} {m : Message}
    (h : calls.Wrote bs) (hfine : ¬ calls.Failed) (hm : Frame.encode m = .ok frame) :
    Wrote (calls ++ [(.send m, .ok none)]) (bs ++ frame) := by
  obtain ⟨frames, hframes, rfl⟩ := h.whole hfine
  refine ⟨frames ++ [frame], [], ?_, ?_, .inl rfl⟩
  · rw [delivered_append, List.mapM_append, hframes]
    show (do let ys ← [m].mapM Frame.encode; pure (frames ++ ys)) = Except.ok (frames ++ [frame])
    rw [List.mapM_cons, hm]
    rfl
  · rw [List.flatten_append, List.flatten_singleton, List.append_nil]

theorem Wrote.send_error {calls : Transcript} {bs cut : Bytes} {m : Message}
    (h : calls.Wrote bs) (hfine : ¬ calls.Failed) (hm : Frame.Cut m cut) (e : NetError) :
    Wrote (calls ++ [(.send m, .error e)]) (bs ++ cut) := by
  obtain ⟨frames, hframes, rfl⟩ := h.whole hfine
  refine ⟨frames, cut, ?_, rfl, .inr ⟨calls, m, e, [], rfl, hfine, hm⟩⟩
  rw [delivered_append]
  show (calls.delivered ++ []).mapM _ = _
  rw [List.append_nil, hframes]

/-- **Who reads these bytes finds the messages whose send succeeded, and no other.** -/
theorem Wrote.messages {calls : Transcript} {bs : Bytes} (h : calls.Wrote bs) :
    Frame.messages bs
      = calls.delivered.map fun m => { kind := .ofTag m.kind.tag, payload := m.payload } := by
  obtain ⟨frames, cut, hframes, rfl, hcut⟩ := h
  have hnil : Frame.messages cut = [] := by
    rcases hcut with rfl | ⟨before, m, e, after, -, -, hcut⟩
    · exact Frame.messages_eq_nil (e := .truncated Frame.headerLength 0) rfl
    · exact hcut.messages
  generalize calls.delivered = ms at hframes
  -- The induction follows the messages that were sent; the frame that was cut short stands last.
  induction ms generalizing frames with
  | nil =>
    cases hframes
    exact hnil
  | cons m ms ih =>
    rw [List.mapM_cons] at hframes
    cases hm : Frame.encode m with
    | error e =>
      rw [hm] at hframes
      cases hframes
    | ok frame =>
      cases hms : ms.mapM Frame.encode with
      | error e =>
        rw [hm, hms] at hframes
        cases hframes
      | ok more =>
        rw [hm, hms] at hframes
        cases hframes
        rw [List.flatten_cons, List.append_assoc, List.map_cons,
          Frame.messages_eq_cons (Frame.decode_encode_append hm _),
          ← Frame.length_of_encode hm, List.drop_left, ih more hms]

end Transcript

/-- A connection, from when it was dialled, and the calls that were made on it. -/
inductive Conversation (c₀ : Connection) (env₀ : Environment) :
    Transcript → Connection → Environment → Prop
  | start : Conversation c₀ env₀ [] c₀ env₀
  | call {calls : Transcript} {c : Connection} {env : Environment} (action : Action)
      (before : Conversation c₀ env₀ calls c env) :
      Conversation c₀ env₀ (calls ++ [(action, (action.run c env).1)]) (action.run c env).2.1
        (action.run c env).2.2
  | meanwhile {calls : Transcript} {c : Connection} {env env' : Environment}
      (before : Conversation c₀ env₀ calls c env) (left : env.net.LeavesSocket c.link env'.net) :
      Conversation c₀ env₀ calls c env'

/-- The calls on connection `id` have kept the stream that it sends in order. -/
structure Unbroken (id : ConnectionId) (calls : Transcript) (c : Connection)
    (env : Environment) : Prop where
  /-- The socket took whole frames, and at the end perhaps a part of one. -/
  wrote : calls.Wrote (env.net.link c.link).sent
  /-- The connection is dead once a call has failed, and not before. -/
  dead_iff : c.alive = false ↔ calls.Failed
  /-- A dead connection keeps nothing of a frame. -/
  emptied : c.alive = false → c.buffered = []
  /-- All calls behind the first that failed were told that the connection is closed. -/
  closed : ∀ before action e after, calls = before ++ (action, .error e) :: after →
    ∀ call ∈ after, call.2 = .error (.connectionClosed id)
  /-- On a dead connection no call does anything any more. -/
  silent : c.alive = false → ∀ action : Action,
    action.run c env = (.error (.connectionClosed id), c, env)

/-! ### One call -/

/-- On a dead connection every call fails and changes nothing. -/
theorem Action.run_of_dead (action : Action) {c : Connection} {env : Environment}
    (h : c.alive = false) : action.run c env = (.error (.connectionClosed c.id), c, env) := by
  cases action with
  | send m =>
    rw [run, send_of_dead h]
    rfl
  | await call =>
    cases call with
    | receiveUntil d => exact receiveWith_of_dead h
    | receive =>
      show ((c.receive env).1.map some, (c.receive env).2) = _
      rw [Connection.receive, receiveWith_of_dead h]
      rfl

theorem dead_of_receiveWith_error {deadline : Option Nat} {c : Connection}
    {env : Environment} {e : NetError} (hs : c.InStep env.net) (ha : c.alive = true)
    (h : (c.receiveWith deadline env).1 = .error e) :
    (c.receiveWith deadline env).2.1.alive = false ∧
      (c.receiveWith deadline env).2.1.buffered = [] := by
  have hr := receiveWith_reception deadline hs ha
  rw [h] at hr
  cases hr with
  | refused header dead emptied rest reported => exact ⟨dead, emptied⟩
  | ended short dead emptied reported => exact ⟨dead, emptied⟩

/-- The socket takes the frame of a message that is sent, or a part of it. -/
theorem sent_written (m : Message) {c : Connection} {env : Environment}
    (h : c.link < env.net.links.length) :
    ((c.written m env).net.link c.link).sent = (env.net.link c.link).sent
      ++ (Sink.writeMessage m (.ok ()) (env.net.link c.link).sink).2.written :=
  congrArg Link.sent (Network.link_setLink h _)

/-- Where the last call of a longer transcript stands when it is split at another call. -/
theorem Transcript.concat_eq_split {calls before after : Transcript}
    {x y : Action × Except NetError (Option Message)} (h : calls ++ [x] = before ++ y :: after) :
    (after = [] ∧ calls = before ∧ x = y) ∨
      ∃ after', after = after' ++ [x] ∧ calls = before ++ y :: after' := by
  rcases List.eq_nil_or_concat' after with rfl | ⟨after', z, rfl⟩
  · obtain ⟨hcalls, hx⟩ := List.append_inj' h rfl
    exact .inl ⟨rfl, hcalls, List.singleton_inj.1 hx⟩
  · rw [← List.cons_append, ← List.append_assoc] at h
    obtain ⟨hcalls, hx⟩ := List.append_inj' h rfl
    rw [List.singleton_inj.1 hx]
    exact .inr ⟨after', rfl, hcalls⟩

variable {id : ConnectionId} {calls : Transcript} {c c' : Connection} {env env' : Environment}
  {action : Action}

theorem Unbroken.not_failed (h : Unbroken id calls c env) (ha : c.alive = true) :
    ¬ calls.Failed := by
  intro hfailed
  have hdead := h.dead_iff.2 hfailed
  rw [ha] at hdead
  exact Bool.false_ne_true hdead.symm

/-- One more call that did not fail. -/
theorem Unbroken.append_ok (h : Unbroken id calls c env) (ha : c.alive = true)
    {x : Option Message} (alive : c'.alive = true)
    (wrote : Transcript.Wrote (calls ++ [(action, .ok x)]) (env'.net.link c'.link).sent) :
    Unbroken id (calls ++ [(action, .ok x)]) c' env' := by
  have hfine : ¬ Transcript.Failed (calls ++ [(action, .ok x)]) := by
    rw [Transcript.failed_append_ok]
    exact h.not_failed ha
  have hnot : ¬ c'.alive = false := by
    rw [alive]
    exact Bool.false_ne_true.symm
  refine ⟨wrote, ⟨fun hdead => absurd hdead hnot, fun hf => absurd hf hfine⟩,
    fun hdead => absurd hdead hnot, ?_, fun hdead => absurd hdead hnot⟩
  intro before a e after hsplit
  refine absurd ⟨a, e, ?_⟩ hfine
  rw [hsplit]
  exact List.mem_append_right _ List.mem_cons_self

/-- The first call that fails. -/
theorem Unbroken.append_error (h : Unbroken id calls c env) (ha : c.alive = true) {e : NetError}
    (dead : c'.alive = false) (emptied : c'.buffered = []) (hid : c'.id = id)
    (wrote : Transcript.Wrote (calls ++ [(action, .error e)]) (env'.net.link c'.link).sent) :
    Unbroken id (calls ++ [(action, .error e)]) c' env' := by
  refine ⟨wrote, ⟨fun _ => Transcript.failed_append_error calls action e, fun _ => dead⟩,
    fun _ => emptied, ?_, ?_⟩
  · -- No call has failed before, so nothing stands behind this one.
    intro before a e' after hsplit call hcall
    rcases Transcript.concat_eq_split hsplit with ⟨rfl, -, -⟩ | ⟨after', -, rfl⟩
    · exact absurd hcall List.not_mem_nil
    · exact absurd ⟨a, e', List.mem_append_right _ List.mem_cons_self⟩ (h.not_failed ha)
  · intro _ a
    rw [a.run_of_dead dead, hid]

/-- A call on a dead connection. -/
theorem Unbroken.append_closed (h : Unbroken id calls c env) (ha : c.alive = false)
    (action : Action) :
    Unbroken id (calls ++ [(action, .error (.connectionClosed id))]) c env := by
  refine ⟨h.wrote.append ?_, ⟨fun _ => Transcript.failed_append_error calls action _,
    fun _ => ha⟩, h.emptied, ?_, h.silent⟩
  · cases action <;> rfl
  · intro before a e after hsplit call hcall
    rcases Transcript.concat_eq_split hsplit with ⟨rfl, -, -⟩ | ⟨after', rfl, hcalls⟩
    · exact absurd hcall List.not_mem_nil
    · rcases List.mem_append.1 hcall with hcall | hcall
      · exact h.closed before a e after' hcalls call hcall
      · rw [List.mem_singleton.1 hcall]

/-- What is the same throughout the calls. -/
structure Conversing (id : ConnectionId) (calls : Transcript) (c : Connection)
    (env : Environment) : Prop where
  id_eq : c.id = id
  inStep : c.InStep env.net
  unbroken : Unbroken id calls c env

/-- **A send on a live connection puts the whole frame on the stream, or fails and puts a part of it
there.** -/
theorem Conversing.send (h : Conversing id calls c env) (ha : c.alive = true) (m : Message) :
    Unbroken id (calls ++ [(.send m, (c.send m env).1.map fun _ => none)]) (c.send m env).2.1
      (c.send m env).2.2 := by
  have hu := h.unbroken
  have hsent := sent_written m h.inStep.linked
  cases hw : ((env.net.link c.link).send m).1 with
  | ok u =>
    rw [send_of_ok ha hw]
    refine hu.append_ok ha ha ?_
    rw [hsent]
    exact hu.wrote.send_ok (hu.not_failed ha) (Sink.frame_of_writeMessage hw)
  | error e =>
    have hcut := Sink.cut_of_writeMessage hw
    rw [send_of_error ha hw, failed_connection]
    refine hu.append_error ha rfl rfl h.id_eq ?_
    rw [Environment.net_reportAll, hsent]
    exact hu.wrote.send_error (hu.not_failed ha) hcut _

/-- **A receive puts nothing on the stream.** -/
theorem Conversing.await (h : Conversing id calls c env) (ha : c.alive = true) (call : Call) :
    Unbroken id (calls ++ [(.await call, (c.receiveWith call.deadline env).1)])
      (c.receiveWith call.deadline env).2.1 (c.receiveWith call.deadline env).2.2 := by
  have hu := h.unbroken
  have hwrote (x : Except NetError (Option Message)) :
      Transcript.Wrote (calls ++ [(.await call, x)])
        ((c.receiveWith call.deadline env).2.2.net.link
          (c.receiveWith call.deadline env).2.1.link).sent := by
    rw [link_receiveWith, (readsOn_receiveWith call.deadline h.inStep.linked).sent]
    exact hu.wrote.append rfl
  cases hx : (c.receiveWith call.deadline env).1 with
  | ok x => exact hu.append_ok ha (alive_of_receiveWith_ok hx) (hwrote _)
  | error e =>
    obtain ⟨hdead, hemptied⟩ := dead_of_receiveWith_error h.inStep ha hx
    exact hu.append_error ha hdead hemptied (by rw [id_receiveWith, h.id_eq]) (hwrote _)

/-- Every call keeps what is the same throughout. -/
theorem Conversing.call (h : Conversing id calls c env) (action : Action) :
    Conversing id (calls ++ [(action, (action.run c env).1)]) (action.run c env).2.1
      (action.run c env).2.2 := by
  cases ha : c.alive with
  | false =>
    rw [action.run_of_dead ha, h.id_eq]
    exact ⟨h.id_eq, h.inStep, h.unbroken.append_closed ha action⟩
  | true =>
    cases action with
    | send m => exact ⟨(id_send ..).trans h.id_eq, inStep_send m h.inStep, h.send ha m⟩
    | await call =>
      show Conversing id (calls ++ [(.await call, (call.run c env).1)]) (call.run c env).2.1
        (call.run c env).2.2
      rw [call.run_eq_receiveWith h.inStep]
      exact ⟨(id_receiveWith ..).trans h.id_eq, inStep_receiveWith h.inStep, h.await ha call⟩

/-- What happens elsewhere meanwhile changes nothing. -/
theorem Conversing.meanwhile (h : Conversing id calls c env)
    (hl : env.net.LeavesSocket c.link env'.net) : Conversing id calls c env' := by
  have hu := h.unbroken
  refine ⟨h.id_eq, h.inStep.of_readTimeout hl.count hl.readTimeout, ?_, hu.dead_iff, hu.emptied,
    hu.closed, fun ha action => ?_⟩
  · rw [hl.sent]
    exact hu.wrote
  · rw [action.run_of_dead ha, h.id_eq]

/-! ### All calls -/

/-- **The bytes that the socket took are the frames of the messages whose send succeeded, in the
order of the calls, and behind them at most a part of the frame of the first send that failed.  With
the first failure the connection is dead: it keeps nothing of a frame, no call writes or reads on it
any more, and all are told that it is closed.** -/
theorem conversation_unbroken {role : Role} {endpoint : Endpoint} {port : Port}
    {timeout : Option Nat} {before env₀ : Environment} {c₀ : Connection}
    (hd : dial id role endpoint port timeout before = (.ok c₀, env₀))
    (h : Conversation c₀ env₀ calls c env) : Unbroken id calls c env := by
  suffices Conversing id calls c env from this.unbroken
  induction h with
  | start =>
    obtain ⟨l, -, ho, hc, -⟩ := dial_ok hd
    have halive : ¬ c₀.alive = false := by
      rw [hc]
      exact Bool.false_ne_true.symm
    refine ⟨by rw [hc], inStep_dial hd, ?_,
      ⟨fun hdead => absurd hdead halive, fun hf => absurd hf Transcript.not_failed_nil⟩,
      fun hdead => absurd hdead halive, ?_, fun hdead => absurd hdead halive⟩
    · rw [ho.link, Listener.sent_opened]
      exact ⟨[], [], rfl, rfl, .inl rfl⟩
    · intro before a e after hsplit
      exact absurd hsplit (List.append_ne_nil_of_right_ne_nil _ (List.cons_ne_nil _ _)).symm
  | call action before ih => exact ih.call action
  | meanwhile before left ih => exact ih.meanwhile left

/-- A message is sent by three writes, one of them interrupted; the next one breaks after nine bytes
of its ten, and nothing follows. -/
theorem conversation_unbroken_broken_pipe :
    let net : Network :=
      { listeners := [
          { addr := .unspecified, port := 5000,
            script := [(0, .data [0, 0, 0, 6, 0, 0, 0, 0])]
            sink := [.upTo 3, .failure (.number .intr), .upTo 4, .upTo 8, .upTo 9,
              .failure (.number .pipe)] }] }
    ∃ c₀ env₀, dial ⟨0⟩ .peer ⟨.unspecified, "here"⟩ 5000 none { net } = (.ok c₀, env₀) ∧
      ∃ calls c env,
        calls.map (·.2) = [.ok none, .error (.connectionClosed ⟨0⟩),
          .error (.connectionClosed ⟨0⟩), .error (.connectionClosed ⟨0⟩)] ∧
        (env.net.link c.link).sent
          = [0, 0, 0, 6, 0, 0, 0, 1, 7] ++ [0, 0, 0, 6, 0, 0, 0, 2, 8] ∧
        Unbroken ⟨0⟩ calls c env := by
  intro net
  have hd : dial ⟨0⟩ .peer ⟨.unspecified, "here"⟩ 5000 none { net } = (.ok _, _) := rfl
  exact ⟨_, _, hd, _, _, _, rfl, rfl, conversation_unbroken hd
    (.call (.send (.ofBytes .info [9])) (.call (.await .receive)
      (.call (.send (.ofBytes .info [8, 8]))
        (.call (.send (.ofBytes .info [7])) .start))))⟩

end Connection

end PipelineWorker
