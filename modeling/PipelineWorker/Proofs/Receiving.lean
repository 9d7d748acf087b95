/-
Receiving again and again.

A `Receiver` has dialled a connection and makes any calls on it, with and without deadlines, in any
order; between two calls time may pass and the other links may be used.  The calls are listed with
their answers.

* `receiver_inSync` — the answers are the messages of the stream, in order, and what was not handed
  out is still there: in the buffer, where it is the beginning of one frame, or on the link.
-/
import PipelineWorker.Proofs.Dialing

namespace PipelineWorker

namespace Network

/-- Link `i` is left alone, and no link goes away. -/
structure LeavesLink (i : Nat) (net net' : Network) : Prop where
  count : net.links.length ≤ net'.links.length
  arrivals : (net'.link i).arrivals = (net.link i).arrivals
  readTimeout : (net'.link i).readTimeout = (net.link i).readTimeout

end Network

namespace Connection

/-- A call that waits for a message. -/
inductive Call
  | receive
  | receiveUntil (deadline : Nat)
  deriving DecidableEq, Repr

namespace Call

/-- The deadline of the call. -/
def deadline : Call → Option Nat
  | receive => none
  | receiveUntil d => some d

/-- Makes the call. -/
def run (call : Call) (c : Connection) (env : Environment) :
    Except NetError (Option Message) × Connection × Environment :=
  match call with
  | receive => ((c.receive env).1.map some, (c.receive env).2)
  | receiveUntil d => c.receiveUntil d env

end Call

/-- Calls, each with its answer. -/
abbrev Answers := List (Call × Except NetError (Option Message))

/-- The messages that calls have handed out. -/
def Answers.messages (calls : Answers) : List Message :=
  calls.filterMap fun call => match call.2 with
    | .ok m => m
    | .error _ => none

@[simp] theorem Answers.messages_append (calls more : Answers) :
    messages (calls ++ more) = messages calls ++ messages more :=
  List.filterMap_append

/-- A connection, from when it was dialled, and the calls that were made on it. -/
inductive Receiver (c₀ : Connection) (env₀ : Environment) :
    Answers → Connection → Environment → Prop
  | start : Receiver c₀ env₀ [] c₀ env₀
  | call {calls : Answers} {c : Connection} {env : Environment} (call : Call)
      (before : Receiver c₀ env₀ calls c env) :
      Receiver c₀ env₀ (calls ++ [(call, (call.run c env).1)]) (call.run c env).2.1
        (call.run c env).2.2
  | meanwhile {calls : Answers} {c : Connection} {env env' : Environment}
      (before : Receiver c₀ env₀ calls c env) (left : env.net.LeavesLink c.link env'.net) :
      Receiver c₀ env₀ calls c env'

/-- Why there is no message at the beginning of these bytes, and how that is told. -/
inductive NoMessage (id : ConnectionId) (bs : Bytes) : NetError → Prop
  /-- The stream ends before a frame is complete. -/
  | ended {needed : Nat} (short : Frame.decode bs = .error (.truncated needed bs.length)) :
      NoMessage id bs (.connectionClosed id)
  /-- The next header is that of a payload over the limit. -/
  | oversized {n : Nat} (header : Frame.decode bs = .error (.payloadTooLarge n Frame.maxPayload)) :
      NoMessage id bs (.codec (.payloadTooLarge n Frame.maxPayload))
  /-- As before, told once more. -/
  | oversizedBefore {n : Nat}
      (header : Frame.decode bs = .error (.payloadTooLarge n Frame.maxPayload)) :
      NoMessage id bs (.connectionClosed id)

/-- The calls on connection `id` have kept in step with the stream `bs`. -/
structure InSync (bs : Bytes) (id : ConnectionId) (calls : Answers) (c : Connection)
    (env : Environment) : Prop where
  /-- The messages that were handed out are the first ones of the stream, in order. -/
  handed : calls.messages <+: (Frame.messages bs).map (·.withOrigin id)
  /-- The bytes behind them are all still there. -/
  kept : c.alive = true → c.stream env.net = bs.drop (Frame.span calls.messages)
  /-- The connection keeps the beginning of a frame and never a whole one. -/
  begun : Frame.IsPartial c.buffered
  /-- The connection is dead once a call has failed, and not before. -/
  dead_iff : c.alive = false ↔ ∃ call e, (call, .error e) ∈ calls
  /-- A call without a deadline hands a message out or fails. -/
  answered : (.receive, .ok none) ∉ calls
  /-- A call fails only where the stream has no next message. -/
  failed : ∀ call e, (call, .error e) ∈ calls →
    NoMessage id (bs.drop (Frame.span calls.messages)) e
  /-- Of a frame that is over the limit only the header is read. -/
  refused : c.alive = false →
    (∃ n, Frame.decode (bs.drop (Frame.span calls.messages))
      = .error (.payloadTooLarge n Frame.maxPayload)) →
    (env.net.link c.link).coming
      = (bs.drop (Frame.span calls.messages)).drop Frame.headerLength

/-! ### One call -/

/-- A call without a deadline never runs out of time. -/
theorem Call.run_eq_receiveWith (call : Call) {c : Connection} {env : Environment}
    (hs : c.InStep env.net) : call.run c env = c.receiveWith call.deadline env := by
  cases call with
  | receiveUntil d => rfl
  | receive => exact receive_eq_receiveWith hs

/-- The next message of the stream joins those that were handed out. -/
theorem handed_next {bs : Bytes} {id : ConnectionId} {got : List Message} {m : Message} {n : Nat}
    (h : got <+: (Frame.messages bs).map (·.withOrigin id))
    (hd : Frame.decode (bs.drop (Frame.span got)) = .ok (m, n)) :
    got ++ [m.withOrigin id] <+: (Frame.messages bs).map (·.withOrigin id) ∧
      Frame.span (got ++ [m.withOrigin id]) = Frame.span got + n := by
  obtain ⟨rest, hrest⟩ := h
  obtain ⟨ms, ns, hms, rfl, rfl⟩ := List.map_eq_append_iff.1 hrest.symm
  rw [Frame.span_map_withOrigin] at hd ⊢
  have hns := Frame.messages_of_prefix ⟨ns, hms.symm⟩
  rw [Frame.messages_eq_cons hd] at hns
  refine ⟨?_, ?_⟩
  · rw [hns, List.map_append, List.map_cons]
    exact ⟨_, by rw [List.append_assoc, List.singleton_append]⟩
  · rw [Frame.span_append, Frame.span_map_withOrigin, (Frame.length_of_decode hd).1]
    rfl

/-- One more call that did not fail. -/
theorem InSync.append_ok {bs : Bytes} {id : ConnectionId} {calls : Answers} {c c' : Connection}
    {env env' : Environment} (h : InSync bs id calls c env) (ha : c.alive = true)
    {call : Call} {m : Option Message} (alive : c'.alive = true)
    (handed : calls.messages ++ m.toList <+: (Frame.messages bs).map (·.withOrigin id))
    (kept : c'.stream env'.net = bs.drop (Frame.span (calls.messages ++ m.toList)))
    (begun : Frame.IsPartial c'.buffered) (answered : call = .receive → m ≠ none) :
    InSync bs id (calls ++ [(call, .ok m)]) c' env' := by
  have hm : Answers.messages (calls ++ [(call, .ok m)]) = calls.messages ++ m.toList := by
    rw [Answers.messages_append]
    cases m <;> rfl
  -- The connection was alive, so no call has failed yet.
  have hfailed : ∀ call' e, (call', .error e) ∉ calls ++ [(call, .ok m)] := by
    intro call' e hmem
    rw [List.mem_append] at hmem
    rcases hmem with hmem | hmem
    · have hdead := h.dead_iff.2 ⟨call', e, hmem⟩
      rw [ha] at hdead
      exact Bool.false_ne_true hdead.symm
    · simp at hmem
  rw [← hm] at handed kept
  refine ⟨handed, fun _ => kept, begun, ?_, ?_, ?_, ?_⟩
  · rw [alive]
    exact ⟨fun hdead => absurd hdead.symm Bool.false_ne_true,
      fun ⟨call', e, hmem⟩ => absurd hmem (hfailed call' e)⟩
  · intro hmem
    rcases List.mem_append.1 hmem with hmem | hmem
    · exact h.answered hmem
    · rw [List.mem_singleton, Prod.mk.injEq, Except.ok.injEq] at hmem
      exact answered hmem.1.symm hmem.2.symm
  · intro call' e hmem
    exact absurd hmem (hfailed call' e)
  · intro hdead
    rw [alive] at hdead
    exact absurd hdead.symm Bool.false_ne_true

/-- One more call that failed. -/
theorem InSync.append_error {bs : Bytes} {id : ConnectionId} {calls : Answers}
    {c c' : Connection} {env env' : Environment} (h : InSync bs id calls c env) {call : Call}
    {e : NetError} (dead : c'.alive = false) (begun : Frame.IsPartial c'.buffered)
    (reason : NoMessage id (bs.drop (Frame.span calls.messages)) e)
    (refused : (∃ n, Frame.decode (bs.drop (Frame.span calls.messages))
        = .error (.payloadTooLarge n Frame.maxPayload)) →
      (env'.net.link c'.link).coming
        = (bs.drop (Frame.span calls.messages)).drop Frame.headerLength) :
    InSync bs id (calls ++ [(call, .error e)]) c' env' := by
  have hm : Answers.messages (calls ++ [(call, .error e)]) = calls.messages := by
    rw [Answers.messages_append]
    exact List.append_nil _
  refine ⟨by rw [hm]; exact h.handed, ?_, begun, ?_, ?_, ?_, ?_⟩
  · intro ha
    rw [dead] at ha
    exact absurd ha Bool.false_ne_true
  · exact ⟨fun _ => ⟨call, e, List.mem_append_right _ (List.mem_singleton_self _)⟩,
      fun _ => dead⟩
  · intro hmem
    rcases List.mem_append.1 hmem with hmem | hmem
    · exact h.answered hmem
    · simp at hmem
  · intro call' e' hmem
    rw [hm]
    rcases List.mem_append.1 hmem with hmem | hmem
    · exact h.failed call' e' hmem
    · rw [List.mem_singleton, Prod.mk.injEq, Except.error.injEq] at hmem
      rw [hmem.2]
      exact reason
  · rw [hm]
    exact fun _ => refused

/-- What is the same throughout the calls. -/
structure Underway (bs : Bytes) (id : ConnectionId) (calls : Answers) (c : Connection)
    (env : Environment) : Prop where
  id_eq : c.id = id
  inStep : c.InStep env.net
  clean : (env.net.link c.link).IsClean
  inSync : InSync bs id calls c env

/-- A call on a dead connection fails once more. -/
theorem Underway.call_of_dead {bs : Bytes} {id : ConnectionId} {calls : Answers} {c : Connection}
    {env : Environment} (h : Underway bs id calls c env) (ha : c.alive = false) (call : Call) :
    InSync bs id (calls ++ [(call, (c.receiveWith call.deadline env).1)])
      (c.receiveWith call.deadline env).2.1 (c.receiveWith call.deadline env).2.2 := by
  have hsync := h.inSync
  -- What the connection died of is still what the stream has next.
  obtain ⟨before, e, hbefore⟩ := hsync.dead_iff.1 ha
  rw [receiveWith_of_dead ha, h.id_eq]
  refine hsync.append_error ha hsync.begun ?_ (hsync.refused ha)
  cases hsync.failed before e hbefore with
  | ended short => exact .ended short
  | oversized header => exact .oversizedBefore header
  | oversizedBefore header => exact .oversizedBefore header

/-- **A call on a live connection takes the next message off the stream, or fails because there is
none, or is too late.** -/
theorem Underway.call_of_alive {bs : Bytes} {id : ConnectionId} {calls : Answers} {c : Connection}
    {env : Environment} (h : Underway bs id calls c env) (ha : c.alive = true) (call : Call) :
    InSync bs id (calls ++ [(call, (c.receiveWith call.deadline env).1)])
      (c.receiveWith call.deadline env).2.1 (c.receiveWith call.deadline env).2.2 := by
  have hsync := h.inSync
  have hstream := hsync.kept ha
  have hr := receiveWith_reception call.deadline h.inStep ha
  have hlink : (c.receiveWith call.deadline env).2.1.link = c.link := link_receiveWith ..
  have hbegun := hr.isPartial
  generalize (c.receiveWith call.deadline env).1 = x at hr
  generalize (c.receiveWith call.deadline env).2.1 = c' at hr hlink hbegun
  generalize (c.receiveWith call.deadline env).2.2 = env' at hr
  cases hr with
  | @message m n _ _ frame alive emptied rest ending reported =>
    rw [hstream] at frame rest
    rw [h.id_eq]
    obtain ⟨hhanded, hspan⟩ := handed_next hsync.handed frame
    refine hsync.append_ok ha alive hhanded ?_ hbegun fun _ => by simp
    rw [Option.toList_some, hspan, rest, List.drop_drop]
  | refused header dead emptied rest reported =>
    rw [hstream] at header rest
    have hd := Frame.decode_of_length?_error header
    obtain ⟨n, rfl⟩ := Frame.exists_of_length?_error header
    exact hsync.append_error dead hbegun (.oversized hd) fun _ => by rw [hlink, rest]
  | ended short dead emptied reported =>
    rw [hstream] at short
    -- A stream that is only interrupted ends with a close, which is told as one.
    have hloss : c.lossOf (env.net.link c.link).ending = .connectionClosed id := by
      rw [Link.ending_of_isClean h.clean, lossOf, h.id_eq]
      rfl
    rw [hloss]
    refine hsync.append_error dead hbegun (.ended short) ?_
    rintro ⟨n, hn⟩
    rw [short] at hn
    simp at hn
  | late limited alive begun kept reported =>
    have hlate : call = .receive → (none : Option Message) ≠ none := by
      rintro rfl
      exact absurd limited Bool.false_ne_true
    refine hsync.append_ok ha alive ?_ ?_ hbegun hlate
    · rw [Option.toList_none, List.append_nil]
      exact hsync.handed
    · rw [Option.toList_none, List.append_nil, (kept h.clean).1, hstream]

/-- Every call keeps what is the same throughout. -/
theorem Underway.call {bs : Bytes} {id : ConnectionId} {calls : Answers} {c : Connection}
    {env : Environment} (h : Underway bs id calls c env) (call : Call) :
    Underway bs id (calls ++ [(call, (call.run c env).1)]) (call.run c env).2.1
      (call.run c env).2.2 := by
  rw [call.run_eq_receiveWith h.inStep]
  refine ⟨?_, inStep_receiveWith h.inStep, ?_, ?_⟩
  · rw [id_receiveWith, h.id_eq]
  · rw [link_receiveWith]
    exact isClean_receiveWith h.inStep h.clean
  · cases ha : c.alive with
    | false => exact h.call_of_dead ha call
    | true => exact h.call_of_alive ha call

/-- What happens elsewhere meanwhile changes nothing. -/
theorem Underway.meanwhile {bs : Bytes} {id : ConnectionId} {calls : Answers} {c : Connection}
    {env env' : Environment} (h : Underway bs id calls c env)
    (hl : env.net.LeavesLink c.link env'.net) : Underway bs id calls c env' := by
  have hcoming : (env'.net.link c.link).coming = (env.net.link c.link).coming := by
    rw [Link.coming, Link.coming, hl.arrivals]
  have hsync := h.inSync
  refine ⟨h.id_eq, ⟨Nat.lt_of_lt_of_le h.inStep.linked hl.count, h.inStep.begun, fun hset => ?_⟩,
    ?_, hsync.handed, fun ha => ?_, hsync.begun, hsync.dead_iff, hsync.answered, hsync.failed,
    fun ha hn => ?_⟩
  · rw [hl.readTimeout]
    exact h.inStep.limitKnown hset
  · intro e he
    rw [hl.arrivals] at he
    exact h.clean e he
  · rw [stream, hcoming]
    exact hsync.kept ha
  · rw [hcoming]
    exact hsync.refused ha hn

/-- **The calls on a connection hand out the messages of its stream, in order and without a gap,
and what they did not hand out is still there.** -/
theorem receiver_inSync {id : ConnectionId} {role : Role} {endpoint : Endpoint} {port : Port}
    {timeout : Option Nat} {before env₀ env : Environment} {c₀ c : Connection} {calls : Answers}
    (hd : dial id role endpoint port timeout before = (.ok c₀, env₀))
    (hclean : (env₀.net.link c₀.link).IsClean) (h : Receiver c₀ env₀ calls c env) :
    InSync (env₀.net.link c₀.link).coming id calls c env := by
  suffices Underway (env₀.net.link c₀.link).coming id calls c env from this.inSync
  induction h with
  | start =>
    obtain ⟨l, -, ho, hc, -⟩ := dial_ok hd
    have hstep := inStep_dial hd
    refine ⟨by rw [hc], hstep, hclean, List.nil_prefix, fun _ => ?_, hstep.begun, ?_, ?_, ?_, ?_⟩
    · rw [hc]
      rfl
    · rw [hc]
      exact ⟨(fun h => nomatch h), fun ⟨_, _, h⟩ => nomatch h⟩
    · exact fun h => nomatch h
    · exact fun _ _ h => nomatch h
    · rw [hc]
      exact fun h => nomatch h
  | call call before ih => exact ih.call call
  | meanwhile before left ih => exact ih.meanwhile left

/-- A deadline passes inside of a header, then an interruption, then the rest of the frame. -/
theorem receiver_inSync_split_frame :
    let net : Network :=
      { listeners := [
          { addr := .unspecified, port := 5000,
            script := [(0, .data [0, 0, 0]), (5000, .failure .intr),
              (5000, .data [1, 0, 0, 0, 1, 7])] }] }
    ∃ c₀ env₀, dial ⟨0⟩ .peer ⟨.unspecified, "here"⟩ 5000 none { net } = (.ok c₀, env₀) ∧
      ∃ calls c env, calls.map (·.1) = [.receiveUntil 0, .receive] ∧
        InSync [0, 0, 0, 1, 0, 0, 0, 1, 7] ⟨0⟩ calls c env := by
  intro net
  have hd : dial ⟨0⟩ .peer ⟨.unspecified, "here"⟩ 5000 none { net } = (.ok _, _) := rfl
  have hclean := fun e (he : .failure e ∈ net.listeners.flatMap Listener.arrivals) => by
    simpa [net, Listener.arrivals] using he
  exact ⟨_, _, hd, _, _, _, rfl, receiver_inSync hd hclean
    (.call .receive (.call (.receiveUntil 0) .start))⟩

end Connection

end PipelineWorker
