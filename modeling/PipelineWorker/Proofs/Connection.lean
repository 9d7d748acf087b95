/-
What a connection receives.

A connection is in step (`InStep`) when the bytes that it keeps are the beginning of one frame, and
the socket's limit on waiting is known to it.  Every receive keeps that, and `Reception` lists what
can come of it.

* `receiveWith_reception` — what a live connection receives;
* `inStep_receiveWith` — a receive leaves the connection in step;
* `readsOn_receiveWith` — a receive reads on the link of its connection and on no other;
* `exists_takesOff` — a receive reports and hands out the whole frame that it uses up, and no other.
-/
import PipelineWorker.Net.Connection
import PipelineWorker.Proofs.Reading

namespace PipelineWorker

namespace Network

theorem link_setLink {n : Network} {i : Nat} (h : i < n.links.length) (l : Link) :
    (n.setLink i l).link i = l := by
  rw [link, setLink, List.getD_eq_getElem?_getD, List.getElem?_set_self h, Option.getD_some]

theorem link_setLink_ne {n : Network} {i j : Nat} (h : j ≠ i) (l : Link) :
    (n.setLink i l).link j = n.link j := by
  rw [link, link, setLink, List.getD_eq_getElem?_getD, List.getD_eq_getElem?_getD,
    List.getElem?_set_ne h.symm]

/-- What holds of the new link and of all those that were there holds of all that are there. -/
theorem forall_link_setLink {P : Nat → Link → Prop} {n : Network} {i : Nat} {l : Link}
    (hl : P i l) (h : ∀ j, P j (n.link j)) (j : Nat) : P j ((n.setLink i l).link j) := by
  by_cases hj : j = i
  · subst hj
    by_cases hlen : j < n.links.length
    · rw [link_setLink hlen]
      exact hl
    · rw [link, setLink, List.set_eq_of_length_le (Nat.le_of_not_lt hlen)]
      exact h j
  · rw [link_setLink_ne hj]
    exact h j

@[simp] theorem length_setLink (n : Network) (i : Nat) (l : Link) :
    (n.setLink i l).links.length = n.links.length := List.length_set

/-- From `net` to `net'` the worker did nothing on the network but read on link `i`. -/
structure ReadsOn (i : Nat) (net net' : Network) : Prop where
  listeners : net'.listeners = net.listeners
  faults : net'.pollFaults = net.pollFaults
  count : net'.links.length = net.links.length
  others : ∀ j, j ≠ i → net'.link j = net.link j
  sink : (net'.link i).sink = (net.link i).sink
  sent : (net'.link i).sent = (net.link i).sent

theorem ReadsOn.refl (i : Nat) (net : Network) : ReadsOn i net net :=
  ⟨rfl, rfl, rfl, fun _ _ => rfl, rfl, rfl⟩

end Network

/-- The message whose arrival an event reports, told where it came from. -/
def Event.message? : Event → Option Message
  | .received id m => some (m.withOrigin id)
  | _ => none

/-- All messages that were read off connections so far, in the order of reading. -/
def Environment.received (env : Environment) : List Message := env.events.filterMap Event.message?

@[simp] theorem Environment.received_report (event : Event) (env : Environment) :
    (env.report event).received = env.received ++ event.message?.toList := by
  rw [received, received, events_report, List.filterMap_append]
  cases h : event.message? <;> simp [h]

@[simp] theorem Environment.received_reportAll (events : List Event) (env : Environment) :
    (env.reportAll events).received = env.received ++ events.filterMap Event.message? := by
  rw [received, received, events_reportAll, List.filterMap_append]

namespace Connection

/-- The bytes that the connection keeps, and those that its link still carries. -/
def stream (c : Connection) (net : Network) : Bytes := c.buffered ++ (net.link c.link).coming

/-- The connection has a link, keeps the beginning of one frame and nothing else, and knows whether
its socket limits a receive. -/
structure InStep (c : Connection) (net : Network) : Prop where
  linked : c.link < net.links.length
  begun : Frame.IsPartial c.buffered
  limitKnown : c.readTimeoutSet = false → (net.link c.link).readTimeout = none

/-- A failure of the stream while it is read, as the connection tells it. -/
def lossOf (c : Connection) (f : OsFailure) : NetError :=
  if f.kind.isDisconnect then .connectionClosed c.id else .codec (.stream f)

/-- What can come of a receive on a live connection. -/
inductive Reception (deadline : Option Nat) (c : Connection) (env : Environment) :
    Except NetError (Option Message) → Connection → Environment → Prop
  /-- The first message of the stream, told where it came from. -/
  | message {m : Message} {n : Nat} {c' : Connection} {env' : Environment}
      (frame : Frame.decode (c.stream env.net) = .ok (m, n)) (alive : c'.alive = true)
      (emptied : c'.buffered = []) (rest : c'.stream env'.net = (c.stream env.net).drop n)
      (ending : (env'.net.link c.link).ending = (env.net.link c.link).ending)
      (reported : env'.received = env.received ++ [m.withOrigin c.id]) :
      Reception deadline c env (.ok (some (m.withOrigin c.id))) c' env'
  /-- A header that is not allowed; nothing behind it is read. -/
  | refused {e : CodecError} {c' : Connection} {env' : Environment}
      (header : Frame.length? (c.stream env.net) = .error e) (dead : c'.alive = false)
      (emptied : c'.buffered = [])
      (rest : (env'.net.link c.link).coming = (c.stream env.net).drop Frame.headerLength)
      (reported : env'.received = env.received) :
      Reception deadline c env (.error (.codec e)) c' env'
  /-- The end of the stream. -/
  | ended {needed : Nat} {c' : Connection} {env' : Environment}
      (short : Frame.decode (c.stream env.net)
        = .error (.truncated needed (c.stream env.net).length))
      (dead : c'.alive = false) (emptied : c'.buffered = [])
      (reported : env'.received = env.received) :
      Reception deadline c env (.error (c.lossOf (env.net.link c.link).ending)) c' env'
  /-- The deadline; nothing is lost. -/
  | late {c' : Connection} {env' : Environment} (limited : deadline.isSome)
      (alive : c'.alive = true) (begun : Frame.IsPartial c'.buffered)
      (kept : (env.net.link c.link).IsClean → c'.stream env'.net = c.stream env.net ∧
        (env'.net.link c.link).ending = (env.net.link c.link).ending)
      (reported : env'.received = env.received) :
      Reception deadline c env (.ok none) c' env'

/-- Whatever comes of a receive, no complete frame is held back. -/
theorem Reception.isPartial {deadline : Option Nat} {c c' : Connection} {env env' : Environment}
    {x : Except NetError (Option Message)} (h : Reception deadline c env x c' env') :
    Frame.IsPartial c'.buffered := by
  cases h with
  | message frame alive emptied rest ending reported =>
    rw [emptied]
    exact Frame.isPartial_nil
  | refused header dead emptied rest reported =>
    rw [emptied]
    exact Frame.isPartial_nil
  | ended short dead emptied reported =>
    rw [emptied]
    exact Frame.isPartial_nil
  | late limited alive begun kept reported => exact begun

/-! ### Drawing conclusions -/

theorem receiveWith_of_alive {deadline : Option Nat} {c : Connection} {env : Environment}
    (h : c.alive = true) :
    c.receiveWith deadline env = c.conclude ((c.reading env.net).readFrame deadline).1
      ((c.reading env.net).readFrame deadline).2 env := by
  rw [receiveWith, if_neg (by rw [h]; exact Bool.false_ne_true)]

theorem receiveWith_of_dead {deadline : Option Nat} {c : Connection} {env : Environment}
    (h : c.alive = false) :
    c.receiveWith deadline env = (.error (.connectionClosed c.id), c, env) := by
  rw [receiveWith, if_pos (by rw [h]; rfl)]

/-- A receive that does not fail is made on a live connection. -/
theorem alive_of_receiveWith {deadline : Option Nat} {c : Connection} {env : Environment}
    {x : Option Message} (h : (c.receiveWith deadline env).1 = .ok x) : c.alive = true := by
  cases ha : c.alive with
  | true => rfl
  | false =>
    rw [receiveWith_of_dead ha] at h
    cases h

theorem alive_of_receive {c : Connection} {env : Environment} {m : Message}
    (h : (c.receive env).1 = .ok m) : c.alive = true := by
  rw [receive] at h
  split at h
  · rename_i heq
    exact alive_of_receiveWith (congrArg Prod.fst heq)
  · cases h
  · cases h

theorem link_netAfter {c : Connection} {net : Network} (h : c.link < net.links.length)
    (g : Reading) : (c.netAfter g net).link c.link = g.link :=
  Network.link_setLink h g.link

theorem net_conclude (x : Except CodecError (Option Message)) (g : Reading) (c : Connection)
    (env : Environment) : (c.conclude x g env).2.2.net = c.netAfter g env.net := by
  match x with
  | .ok none => rfl
  | .ok (some m) => rfl
  | .error e => rfl

theorem link_conclude (x : Except CodecError (Option Message)) (g : Reading) (c : Connection)
    (env : Environment) : (c.conclude x g env).2.1.link = c.link := by
  match x with
  | .ok none => rfl
  | .ok (some m) => rfl
  | .error e =>
    simp only [conclude, failed]
    split <;> rfl

theorem readTimeoutSet_conclude (x : Except CodecError (Option Message)) (g : Reading)
    (c : Connection) (env : Environment) :
    (c.conclude x g env).2.1.readTimeoutSet = g.timeoutSet := by
  match x with
  | .ok none => rfl
  | .ok (some m) => rfl
  | .error e =>
    simp only [conclude, failed]
    split <;> rfl

theorem conclude_error (e : CodecError) (g : Reading) (c : Connection) (env : Environment) :
    (c.conclude (.error e) g env).1
        = .error (if e.isDisconnect then .connectionClosed c.id else .codec e) ∧
      (c.conclude (.error e) g env).2.1.alive = false ∧
      (c.conclude (.error e) g env).2.1.buffered = [] ∧
      (c.conclude (.error e) g env).2.2.received = env.received := by
  simp only [conclude, failed]
  split
  · refine ⟨rfl, rfl, rfl, ?_⟩
    rw [Environment.received_reportAll]
    exact List.append_nil _
  · refine ⟨rfl, rfl, rfl, ?_⟩
    rw [Environment.received_reportAll]
    exact List.append_nil _

/-- A receive that does not fail leaves the connection alive. -/
theorem alive_of_receiveWith_ok {deadline : Option Nat} {c : Connection} {env : Environment}
    {x : Option Message} (h : (c.receiveWith deadline env).1 = .ok x) :
    (c.receiveWith deadline env).2.1.alive = true := by
  cases ha : c.alive with
  | false =>
    rw [receiveWith_of_dead ha] at h
    cases h
  | true =>
    rw [receiveWith_of_alive ha] at h ⊢
    generalize ((c.reading env.net).readFrame deadline).1 = y at h ⊢
    match y with
    | .ok none => exact ha
    | .ok (some m) => exact ha
    | .error e =>
      rw [(conclude_error e _ c env).1] at h
      cases h

/-- **A live connection in step receives the first message of its stream, or fails because there is
none, or comes too late.** -/
theorem receiveWith_reception (deadline : Option Nat) {c : Connection} {env : Environment}
    (hs : c.InStep env.net) (ha : c.alive = true) :
    Reception deadline c env (c.receiveWith deadline env).1 (c.receiveWith deadline env).2.1
      (c.receiveWith deadline env).2.2 := by
  have ho : Reading.Outcome deadline (c.reading env.net) _ _ :=
    Reading.readFrame_outcome hs.begun.fits hs.limitKnown
  rw [receiveWith_of_alive ha]
  generalize ((c.reading env.net).readFrame deadline).1 = x at ho ⊢
  generalize ((c.reading env.net).readFrame deadline).2 = g at ho ⊢
  -- The network gets the link back that the reading leaves, whatever the reading says.
  have hlink : (c.conclude x g env).2.2.net.link c.link = g.link := by
    rw [net_conclude, link_netAfter hs.linked]
  cases ho with
  | message frame emptied rest ending =>
    refine .message frame ha emptied ?_ (by rw [hlink]; exact ending) ?_
    · rw [stream, link_conclude, hlink, rest]
      show g.buffered ++ _ = _
      rw [emptied]
      rfl
    · exact Environment.received_report _ _
  | @refused e _ header emptied rest =>
    obtain ⟨h1, h2, h3, h4⟩ := conclude_error e g c env
    obtain ⟨n, rfl⟩ := Frame.exists_of_length?_error header
    rw [h1]
    exact .refused header h2 h3 (by rw [hlink]; exact rest) h4
  | @ended needed _ short emptied =>
    obtain ⟨h1, h2, h3, h4⟩ :=
      conclude_error (.stream (c.reading env.net).link.ending) g c env
    rw [h1]
    exact .ended short h2 h3 h4
  | late limited begun kept =>
    refine .late limited ha begun (fun hclean => ?_) rfl
    rw [stream, link_conclude, hlink]
    exact kept hclean

/-- Without a deadline a receive never runs out of time. -/
theorem receive_eq_receiveWith {c : Connection} {env : Environment} (hs : c.InStep env.net) :
    ((c.receive env).1.map some, (c.receive env).2) = c.receiveWith none env := by
  refine Prod.ext ?_ (c.receive_snd env)
  show (c.receive env).1.map some = (c.receiveWith none env).1
  -- Only a call that comes too late hands out nothing, and that takes a deadline.
  have hne : (c.receiveWith none env).1 ≠ .ok none := by
    cases ha : c.alive with
    | false =>
      rw [receiveWith_of_dead ha]
      intro h
      cases h
    | true =>
      intro h
      have hr := receiveWith_reception none hs ha
      rw [h] at hr
      cases hr with
      | late limited => exact Bool.false_ne_true limited
  rw [receive]
  split
  · rename_i m c' env' h
    rw [h]
    rfl
  · rename_i c' env' h
    exact absurd (congrArg Prod.fst h) hne
  · rename_i e c' env' h
    rw [h]
    rfl

/-! ### What a receive keeps -/

/-- A receive reads on the link of its connection and on no other. -/
theorem readsOn_receiveWith (deadline : Option Nat) {c : Connection} {env : Environment}
    (h : c.link < env.net.links.length) :
    Network.ReadsOn c.link env.net (c.receiveWith deadline env).2.2.net := by
  cases ha : c.alive with
  | false =>
    rw [receiveWith_of_dead ha]
    exact .refl _ _
  | true =>
    rw [receiveWith_of_alive ha, net_conclude]
    obtain ⟨hsink, hsent⟩ := (c.reading env.net).sending_readFrame deadline
    refine ⟨rfl, rfl, Network.length_setLink .., fun j hj => Network.link_setLink_ne hj _, ?_, ?_⟩
    · rw [link_netAfter h]
      exact hsink
    · rw [link_netAfter h]
      exact hsent

theorem link_receiveWith (deadline : Option Nat) (c : Connection) (env : Environment) :
    (c.receiveWith deadline env).2.1.link = c.link := by
  cases ha : c.alive with
  | false => rw [receiveWith_of_dead ha]
  | true => rw [receiveWith_of_alive ha, link_conclude]

/-- **A receive leaves the connection in step.** -/
theorem inStep_receiveWith {deadline : Option Nat} {c : Connection} {env : Environment}
    (hs : c.InStep env.net) :
    (c.receiveWith deadline env).2.1.InStep (c.receiveWith deadline env).2.2.net := by
  cases ha : c.alive with
  | false =>
    rw [receiveWith_of_dead ha]
    exact hs
  | true =>
    have hr := readsOn_receiveWith deadline hs.linked
    refine ⟨?_, ?_, ?_⟩
    · rw [link_receiveWith, hr.count]
      exact hs.linked
    · exact (receiveWith_reception deadline hs ha).isPartial
    · rw [link_receiveWith, receiveWith_of_alive ha, readTimeoutSet_conclude, net_conclude,
        link_netAfter hs.linked]
      exact Reading.limitKnown_readFrame hs.limitKnown

theorem role_receiveWith (deadline : Option Nat) (c : Connection) (env : Environment) :
    (c.receiveWith deadline env).2.1.role = c.role := by
  cases ha : c.alive with
  | false => rw [receiveWith_of_dead ha]
  | true =>
    rw [receiveWith_of_alive ha]
    match ((c.reading env.net).readFrame deadline).1 with
    | .ok none => rfl
    | .ok (some m) => rfl
    | .error e =>
      simp only [conclude, failed]
      split <;> rfl

/-- A receive changes the network and the report, and nothing else around the worker. -/
theorem env_receiveWith (deadline : Option Nat) (c : Connection) (env : Environment) :
    (c.receiveWith deadline env).2.2.names = env.names ∧
      (c.receiveWith deadline env).2.2.files = env.files := by
  cases ha : c.alive with
  | false =>
    rw [receiveWith_of_dead ha]
    exact ⟨rfl, rfl⟩
  | true =>
    rw [receiveWith_of_alive ha]
    match ((c.reading env.net).readFrame deadline).1 with
    | .ok none => exact ⟨rfl, rfl⟩
    | .ok (some m) => exact ⟨rfl, rfl⟩
    | .error e =>
      simp only [conclude, failed]
      split <;> exact ⟨rfl, rfl⟩

/-- Receiving brings no new failures to the link. -/
theorem isClean_receiveWith {deadline : Option Nat} {c : Connection} {env : Environment}
    (hs : c.InStep env.net) (hclean : (env.net.link c.link).IsClean) :
    ((c.receiveWith deadline env).2.2.net.link c.link).IsClean := by
  cases ha : c.alive with
  | false =>
    rw [receiveWith_of_dead ha]
    exact hclean
  | true =>
    rw [receiveWith_of_alive ha, net_conclude, link_netAfter hs.linked]
    exact Reading.isClean_readFrame hclean

/-! ### What is used up -/

section

variable {c c' c'' : Connection} {net net' net'' : Network} {taken more : List Message}

/-- From `c` to `c'` the frames of the messages `taken` were used up, and nothing else of the
stream. -/
structure UsesUp (taken : List Message) (c : Connection) (net : Network) (c' : Connection)
    (net' : Network) : Prop where
  link : c'.link = c.link
  clean : (net'.link c'.link).IsClean
  rest : c'.stream net' = (c.stream net).drop (Frame.span taken)

theorem UsesUp.trans (h : UsesUp taken c net c' net') (h' : UsesUp more c' net' c'' net'') :
    UsesUp (taken ++ more) c net c'' net'' := by
  refine ⟨h'.link.trans h.link, h'.clean, ?_⟩
  rw [h'.rest, h.rest, List.drop_drop, Frame.span_append]

variable {env env' : Environment} {x : Except NetError (Option Message)}

/-- A receive that came to this has taken the messages `taken` off the stream. -/
structure TakesOff (taken : List Message) (c : Connection) (env : Environment)
    (x : Except NetError (Option Message)) (c' : Connection) (env' : Environment) : Prop where
  reported : env'.received = env.received ++ taken.map (·.withOrigin c.id)
  handed : ∀ m, x = .ok m → m.toList = taken.map (·.withOrigin c.id)
  front : taken <+: Frame.messages (c.stream env.net)
  usesUp : c'.alive = true → (env.net.link c.link).IsClean → UsesUp taken c env.net c' env'.net
  /-- A receive that ends the connection leaves no whole frame unread. -/
  drained : c'.alive = false → Frame.messages (c.stream env.net) = []

theorem TakesOff.of_loss {e : NetError} {e' : CodecError}
    (hnone : Frame.decode (c.stream env.net) = .error e') (dead : c'.alive = false)
    (reported : env'.received = env.received) : TakesOff [] c env (.error e) c' env' where
  reported := reported.trans (List.append_nil _).symm
  handed := fun _ hm => nomatch hm
  front := List.nil_prefix
  usesUp := fun halive => absurd (dead.symm.trans halive) Bool.false_ne_true
  drained := fun _ => Frame.messages_eq_nil hnone

/-- A message is the first whole frame; in all other cases none is used up. -/
theorem Reception.takesOff {deadline : Option Nat} (h : Reception deadline c env x c' env')
    (hlink : c'.link = c.link)
    (hclean : (env.net.link c.link).IsClean → (env'.net.link c'.link).IsClean) :
    ∃ taken, TakesOff taken c env x c' env' := by
  cases h with
  | @message m n _ _ frame alive emptied rest ending reported =>
    refine ⟨[m], reported, ?_, ?_, fun _ hbefore => ⟨hlink, hclean hbefore, ?_⟩, fun hdead => ?_⟩
    · intro y hy
      rw [← Except.ok.inj hy]
      rfl
    · rw [Frame.messages_eq_cons frame]
      exact List.prefix_append [m] _
    · rw [rest, Frame.span_cons, ← (Frame.length_of_decode frame).1]
      rfl
    · rw [alive] at hdead
      cases hdead
  | refused header dead emptied rest reported =>
    -- a header that is not allowed begins no whole frame
    obtain ⟨n, rfl⟩ := Frame.exists_of_length?_error header
    exact ⟨[], .of_loss (Frame.decode_of_length?_error header) dead reported⟩
  | ended short dead emptied reported => exact ⟨[], .of_loss short dead reported⟩
  | late limited alive begun kept reported =>
    refine ⟨[], reported.trans (List.append_nil _).symm, ?_, List.nil_prefix,
      fun _ hbefore => ⟨hlink, hclean hbefore, (kept hbefore).1⟩, fun hdead => ?_⟩
    · intro y hy
      rw [← Except.ok.inj hy]
      rfl
    · rw [alive] at hdead
      cases hdead

end

/-- **A receive reports and hands out the whole frame that it uses up, if any, and nothing
else.** -/
theorem exists_takesOff (deadline : Option Nat) {c : Connection} {env : Environment}
    (hs : c.InStep env.net) (ha : c.alive = true) :
    ∃ taken, TakesOff taken c env (c.receiveWith deadline env).1 (c.receiveWith deadline env).2.1
      (c.receiveWith deadline env).2.2 := by
  have hlink := c.link_receiveWith deadline env
  exact (receiveWith_reception deadline hs ha).takesOff hlink
    fun hclean => hlink ▸ isClean_receiveWith hs hclean

end Connection

end PipelineWorker
