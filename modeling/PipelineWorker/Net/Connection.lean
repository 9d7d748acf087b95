/-
Framed connections.

A connection moves whole messages over one link.  A send or receive that fails makes it dead: it
neither connects again nor removes itself, that is for its owner to do.  The ways in which the other
end can go away are one error, `connectionClosed`.

* `weight_receiveWith_le`, `weight_receiveWith_lt` — a receive takes from what is still to come.
-/
import PipelineWorker.Net.Reading
import PipelineWorker.Environment

namespace PipelineWorker

/-- A connection to one other process. -/
structure Connection where
  id : ConnectionId
  role : Role
  endpoint : Endpoint
  port : Port
  /-- The number of the link that it uses. -/
  link : Nat
  alive : Bool := true
  /-- The bytes of a frame that is not complete yet. -/
  buffered : Bytes := []
  /-- Whether the socket's limit on waiting was set and not lifted since. -/
  readTimeoutSet : Bool := false
  deriving DecidableEq, Repr

namespace Connection

/-- Connects to a host.  The time limit is in microseconds. -/
def dial (id : ConnectionId) (role : Role) (endpoint : Endpoint) (port : Port)
    (timeout : Option Nat) (env : Environment) : Except NetError Connection × Environment :=
  let (r, net) := env.net.dial endpoint.addr port timeout
  let env := { env with net }
  match r with
  | .error f => (.error (.connect endpoint.display port f), env)
  | .ok link =>
    (.ok { id, role, endpoint, port, link }, env.report (.connected id role endpoint port))

/-- The dead connection, the error and the report that a failure leads to. -/
def failed (e : CodecError) (c : Connection) : NetError × Connection × List Event :=
  let dead := { c with alive := false, buffered := [] }
  if e.isDisconnect then (.connectionClosed c.id, dead, [.wentAway c.id c.role e])
  else (.codec e, dead, [])

/-- Sends a message. -/
def send (m : Message) (c : Connection) (env : Environment) :
    Except NetError Unit × Connection × Environment :=
  if !c.alive then (.error (.connectionClosed c.id), c, env)
  else
    let env := env.report (.sending c.id m.kind m.payload.length)
    let (r, l) := (env.net.link c.link).send m
    let env := { env with net := env.net.setLink c.link l }
    match r with
    | .ok () => (.ok (), c, env)
    | .error e =>
      let (e, c, events) := c.failed e
      (.error e, c, env.reportAll events)

/-- The reading that this connection is in. -/
def reading (c : Connection) (net : Network) : Reading :=
  { buffered := c.buffered, now := net.now, link := net.link c.link,
    timeoutSet := c.readTimeoutSet }

/-- The network after the reading. -/
def netAfter (c : Connection) (g : Reading) (net : Network) : Network :=
  { net.setLink c.link g.link with now := g.now }

/-- Draws the conclusion from a reading: a message is told where it came from, a failure makes the
connection dead. -/
def conclude (x : Except CodecError (Option Message)) (g : Reading) (c : Connection)
    (env : Environment) : Except NetError (Option Message) × Connection × Environment :=
  let c := { c with buffered := g.buffered, readTimeoutSet := g.timeoutSet }
  let env := { env with net := c.netAfter g env.net }
  match x with
  | .ok none => (.ok none, c, env)
  | .ok (some m) =>
    (.ok (some (m.withOrigin c.id)), c, env.report (.received c.id m))
  | .error e =>
    let (e, c, events) := c.failed e
    (.error e, c, env.reportAll events)

/-- Reads one message; there is none if the deadline passes first. -/
def receiveWith (deadline : Option Nat) (c : Connection) (env : Environment) :
    Except NetError (Option Message) × Connection × Environment :=
  if !c.alive then (.error (.connectionClosed c.id), c, env)
  else
    let (x, g) := (c.reading env.net).readFrame deadline
    c.conclude x g env

/-- Waits for a message for as long as it takes. -/
def receive (c : Connection) (env : Environment) :
    Except NetError Message × Connection × Environment :=
  match c.receiveWith none env with
  | (.ok (some m), c, env) => (.ok m, c, env)
  | (.ok none, c, env) => (.error (.socket (.plain .timedOut)), c, env)
  | (.error e, c, env) => (.error e, c, env)

/-- Waits for a message until the deadline; there is none if it passes first. -/
def receiveUntil (deadline : Nat) (c : Connection) (env : Environment) :
    Except NetError (Option Message) × Connection × Environment :=
  c.receiveWith (some deadline) env

/-- Whether part of a frame is kept. -/
def hasPartialFrame (c : Connection) : Bool := !c.buffered.isEmpty

/-! ### What is still to come -/

/-- The weight of the network and the bytes that are kept. -/
def weight (c : Connection) (net : Network) : Nat := net.weight + c.buffered.length

theorem weight_netAfter (c : Connection) (net : Network) (g : Reading) :
    (c.netAfter g net).weight + g.buffered.length + (c.reading net).weight
      ≤ net.weight + c.buffered.length + g.weight := by
  have := net.weight_setLink_add c.link g.link
  show (net.setLink c.link g.link).weight + _ + _ ≤ _
  simp only [reading, Reading.weight]
  omega

theorem weight_conclude_le (x : Except CodecError (Option Message)) (g : Reading) (c : Connection)
    (env : Environment) :
    (c.conclude x g env).2.1.weight (c.conclude x g env).2.2.net
      ≤ (c.netAfter g env.net).weight + g.buffered.length := by
  match x with
  | .ok none => exact Nat.le_refl _
  | .ok (some m) => exact Nat.le_refl _
  | .error e =>
    simp only [conclude, failed]
    split <;> exact Nat.le_add_right ..

/-- A receive adds nothing to what is to come. -/
theorem weight_receiveWith_le (deadline : Option Nat) (c : Connection) (env : Environment) :
    (c.receiveWith deadline env).2.1.weight (c.receiveWith deadline env).2.2.net
      ≤ c.weight env.net := by
  rw [receiveWith]
  split
  · exact Nat.le_refl _
  · have hr := (c.reading env.net).readFrame_weight_le deadline
    have hw := c.weight_netAfter env.net ((c.reading env.net).readFrame deadline).2
    refine Nat.le_trans (weight_conclude_le ..) ?_
    simp only [weight]
    omega

/-- A message is taken from what is to come. -/
theorem weight_receiveWith_lt {deadline : Option Nat} {c : Connection} {env : Environment}
    {m : Message} (h : (c.receiveWith deadline env).1 = .ok (some m)) :
    (c.receiveWith deadline env).2.1.weight (c.receiveWith deadline env).2.2.net
      < c.weight env.net := by
  rw [receiveWith] at h ⊢
  split at h
  · simp at h
  · rename_i ha
    rw [if_neg ha]
    have hw := c.weight_netAfter env.net ((c.reading env.net).readFrame deadline).2
    refine Nat.lt_of_le_of_lt (weight_conclude_le ..) ?_
    cases hx : ((c.reading env.net).readFrame deadline).1 with
    | error e => simp [conclude, hx] at h
    | ok x =>
      cases x with
      | none => simp [conclude, hx] at h
      | some m' =>
        have := Reading.readFrame_weight_lt hx
        simp only [weight]
        omega

theorem id_receiveWith (deadline : Option Nat) (c : Connection) (env : Environment) :
    (c.receiveWith deadline env).2.1.id = c.id := by
  unfold receiveWith conclude
  split
  · rfl
  · dsimp only
    split
    · rfl
    · rfl
    · simp only [failed]
      split <;> rfl

theorem receive_snd (c : Connection) (env : Environment) :
    (c.receive env).2 = (c.receiveWith none env).2 := by
  rw [receive]
  split <;> simp [*]

theorem id_receive (c : Connection) (env : Environment) : (c.receive env).2.1.id = c.id := by
  rw [receive_snd, id_receiveWith]

theorem weight_receive_le (c : Connection) (env : Environment) :
    (c.receive env).2.1.weight (c.receive env).2.2.net ≤ c.weight env.net := by
  rw [receive_snd]
  exact weight_receiveWith_le ..

theorem weight_receive_lt {c : Connection} {env : Environment} {m : Message}
    (h : (c.receive env).1 = .ok m) :
    (c.receive env).2.1.weight (c.receive env).2.2.net < c.weight env.net := by
  rw [receive_snd]
  refine weight_receiveWith_lt (m := m) ?_
  rw [receive] at h
  split at h <;> simp_all

end Connection

end PipelineWorker
