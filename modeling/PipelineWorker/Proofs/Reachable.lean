/-
The sessions that a worker can get into.

`Session.Moves` says that between two sessions only what `Registry.Step` lists happened to the
connections; every operation of the coordinator does no more.  A session is `Reachable` if it comes
from a new worker by any operations, whatever the surroundings do in between.

* `Steps.moves`, `moves_handshake`, `moves_shutdown` — each operation moves on;
* `Reachable.sound` — in every reachable session all connections are in step.
-/
import PipelineWorker.Proofs.Coordinated
import PipelineWorker.Proofs.Polling
import PipelineWorker.Proofs.Using

namespace PipelineWorker

namespace Session

/-- From `s` to `t` nothing but such steps happened to the connections. -/
def Moves (s t : Session) : Prop :=
  Relation.ReflTransGen Registry.Step (s.worker.connections, s.env.net)
    (t.worker.connections, t.env.net)

theorem Moves.refl (s : Session) : Moves s s := Relation.ReflTransGen.refl

theorem Moves.trans {s t u : Session} (h : Moves s t) (h' : Moves t u) : Moves s u :=
  Relation.ReflTransGen.trans h h'

/-- What leaves connections and network alone moves nothing. -/
theorem moves_of_eq {s t : Session} (hc : t.worker.connections = s.worker.connections)
    (hn : t.env.net = s.env.net) : Moves s t := by
  rw [Moves, hc, hn]

/-- Whatever moves, all connections stay in step. -/
theorem Moves.sound {s t : Session} (h : Moves s t)
    (hs : s.worker.connections.Sound s.env.net) : t.worker.connections.Sound t.env.net :=
  Registry.Sound.steps (a := (s.worker.connections, s.env.net)) hs h

/-! ### What operations do -/

theorem moves_send (id : ConnectionId) (m : Message) (s : Session) : Moves s (s.send id m).2 :=
  .single (.send id m s.worker.connections s.env)

theorem moves_receive (id : ConnectionId) (s : Session) : Moves s (s.receive id).2 :=
  .single (.receive id s.worker.connections s.env)

theorem moves_receiveUntil (id : ConnectionId) (deadline : Nat) (s : Session) :
    Moves s (s.receiveUntil id deadline).2 :=
  .single (.receiveUntil id deadline s.worker.connections s.env)

theorem moves_receiveBy (deadline : Option Nat) (id : ConnectionId) (s : Session) :
    Moves s (s.receiveBy deadline id).2 := by
  cases deadline with
  | some d => exact s.moves_receiveUntil id d
  | none => exact s.moves_receive id

theorem moves_remove (id : ConnectionId) (s : Session) : Moves s (s.remove id).2 :=
  .single (.remove id s.worker.connections s.env)

theorem moves_takeAnnouncement (m : Message) (s : Session) :
    Moves s (s.takeAnnouncement m).2 :=
  moves_of_eq (s.connections_takeAnnouncement m) (s.net_takeAnnouncement m)

theorem moves_pollWatched (deadline : Option Nat) (s : Session) :
    Moves s (s.pollWatched deadline).2 :=
  .single (.passes s.worker.connections (Registry.waited_pollReadable ..).1.passes)

theorem Use.moves {id : ConnectionId} {s t : Session} (h : Use id s t) : Moves s t := by
  cases h with
  | report event => exact moves_of_eq rfl rfl
  | send m => exact s.moves_send id m
  | receive deadline => exact s.moves_receiveBy deadline id
  | takeAnnouncement m => exact s.moves_takeAnnouncement m
  | defer m => exact moves_of_eq rfl rfl
  | drop => exact s.moves_remove id
  | terminate => exact moves_of_eq s.connections_terminate rfl

theorem Uses.moves {id : ConnectionId} {s t : Session} (h : Uses id s t) : Moves s t :=
  h.keeps Moves.refl Moves.trans Use.moves

theorem Steps.moves {s t : Session} (h : Steps s t) : Moves s t := by
  refine h.keeps Moves.refl Moves.trans fun step => ?_
  cases step with
  | use use => exact use.moves
  | poll deadline => exact moves_pollWatched deadline _
  | takeAnnouncement m => exact moves_takeAnnouncement m _
  | pop => exact moves_of_eq rfl rfl

/-- The next message leaves all connections in step. -/
theorem sound_of_nextMessage {deadline : Option Nat} {s t : Session}
    {x : Except CoordinatorError (Option Message)}
    (hs : s.worker.connections.Sound s.env.net) (h : s.nextMessage deadline = (x, t)) :
    t.worker.connections.Sound t.env.net := by
  obtain rfl : (s.nextMessage deadline).2 = t := congrArg Prod.snd h
  exact (s.steps_nextMessage deadline).moves.sound hs

/-- An announcement does so too. -/
theorem sound_of_takeAnnouncement {m : Message} {s t : Session}
    {x : Except CoordinatorError Unit} (hs : s.worker.connections.Sound s.env.net)
    (h : s.takeAnnouncement m = (x, t)) : t.worker.connections.Sound t.env.net := by
  obtain rfl : (s.takeAnnouncement m).2 = t := congrArg Prod.snd h
  exact (s.moves_takeAnnouncement m).sound hs

/-! ### The handshake -/

theorem lasting_moves : Coordinated.Lasting Moves where
  refl := Moves.refl
  trans := Moves.trans
  aside hc _ hn _ := moves_of_eq hc hn
  addConnection role endpoint port timeout s :=
    .single (.add role endpoint port timeout s.worker.connections s.env)

theorem moves_handshakeSteps (s : Session) : Moves s (Coordinated.handshakeSteps s).2 := by
  have h := lasting_moves
  have hwait : Coordinated.Keeps Moves Coordinated.awaitAssignment :=
    h.bind (fun s => s.steps_wait.moves) h.assigned
  have hobtain (datamanager : ConnectionId) :
      Coordinated.Keeps Moves (Coordinated.obtainSegment datamanager) := by
    rw [Coordinated.obtainSegment_eq]
    exact h.bind (h.bind (h.enter _) fun _ s => (s.uses_exchange ..).moves) h.assignedSegment
  have hpid : Coordinated.Keeps Moves Coordinated.announcePid :=
    h.bind h.get fun _ => h.bind (fun s => (s.steps_sendToDatamanager _).moves) fun _ => h.enter _
  have hsteps : Coordinated.Keeps Moves Coordinated.handshakeSteps :=
    h.bind h.contactController fun _ => h.bind hwait fun port =>
      h.bind (h.contactDatamanager port) fun datamanager => h.bind (hobtain datamanager) fun _ =>
        h.bind hpid fun _ => h.bind h.get fun _ => h.report rfl
  exact hsteps s

theorem moves_handshake (s : Session) : Moves s s.handshake.2 := by
  have hm := s.moves_handshakeSteps
  rw [handshake]
  split
  · exact .refl s
  · generalize Coordinated.handshakeSteps s = r at hm ⊢
    rcases r with ⟨e | u, t⟩
    · exact hm
    · exact hm

theorem moves_shutdown (s : Session) : Moves s s.shutdown := by
  have hall (ids : List ConnectionId) (s : Session) : Moves s (s.removeAll ids) := by
    induction ids generalizing s with
    | nil => exact .refl s
    | cons id ids ih => exact (s.moves_remove id).trans (ih _)
  rw [shutdown]
  split
  · exact .refl s
  · exact hall (s.worker.connections.connections.map (·.id))
      (s.report (.shuttingDown s.worker.config.moduleName)).releaseSegments

/-! ### Reachable sessions -/

/-- An operation of the coordinator that talks to other processes, or hands out what they said. -/
inductive Call
  | handshake
  | wait
  | check (timeout : Nat)
  | exchange (id : ConnectionId) (request : Message) (expected : List Kind)
  | exchangeWithDatamanager (request : Message) (expected : List Kind)
  | receiveFromDatamanager
  | popDeferred
  | addConnection (role : Role) (endpoint : Endpoint) (port : Port) (timeout : Option Nat)

/-- Carries the operation out; the answer is the message that it hands out, if it does. -/
def Call.run (call : Call) (s : Session) : Except CoordinatorError (Option Message) × Session :=
  match call with
  | .handshake => (s.handshake.1.map fun _ => none, s.handshake.2)
  | .wait => (s.wait.1.map some, s.wait.2)
  | .check timeout => s.check timeout
  | .exchange id request expected =>
    ((s.exchange id request expected).1.map some, (s.exchange id request expected).2)
  | .exchangeWithDatamanager request expected =>
    ((s.exchangeWithDatamanager request expected).1.map some,
      (s.exchangeWithDatamanager request expected).2)
  | .receiveFromDatamanager =>
    (s.receiveFromDatamanager.1.map some, s.receiveFromDatamanager.2)
  | .popDeferred => (.ok s.popDeferred.1, s.popDeferred.2)
  | .addConnection role endpoint port timeout =>
    (((s.addConnection role endpoint port timeout).1.mapError .net).map fun _ => none,
      (s.addConnection role endpoint port timeout).2)

theorem moves_run (call : Call) (s : Session) : Moves s (call.run s).2 := by
  cases call with
  | handshake => exact s.moves_handshake
  | wait => exact s.steps_wait.moves
  | check timeout => exact (s.steps_waitUntil _).moves
  | exchange id request expected => exact (s.uses_exchange id request expected).moves
  | exchangeWithDatamanager request expected =>
    exact (s.steps_exchangeWithDatamanager request expected).moves
  | receiveFromDatamanager => exact s.steps_receiveFromDatamanager.moves
  | popDeferred => exact moves_of_eq rfl rfl
  | addConnection role endpoint port timeout =>
    exact lasting_moves.addConnection role endpoint port timeout s

/-- The sessions that a new worker can get into. -/
inductive Reachable : Session → Prop
  | fresh (config : ModuleConfig) (pid : UInt32) (env : Environment) :
      Reachable { worker := .ofConfig config pid, env }
  | call {s : Session} (h : Reachable s) (call : Call) : Reachable (call.run s).2
  | sendToDatamanager {s : Session} (h : Reachable s) (m : Message) :
      Reachable (s.sendToDatamanager m).2
  | shutdown {s : Session} (h : Reachable s) : Reachable s.shutdown
  /-- The owner of the worker uses a connection by itself. -/
  | send {s : Session} (h : Reachable s) (id : ConnectionId) (m : Message) :
      Reachable (s.send id m).2
  | receive {s : Session} (h : Reachable s) (id : ConnectionId) : Reachable (s.receive id).2
  | receiveUntil {s : Session} (h : Reachable s) (id : ConnectionId) (deadline : Nat) :
      Reachable (s.receiveUntil id deadline).2
  | remove {s : Session} (h : Reachable s) (id : ConnectionId) : Reachable (s.remove id).2
  /-- The surroundings change. -/
  | meanwhile {s : Session} (h : Reachable s) {env : Environment}
      (passes : s.env.net.Passes env.net) : Reachable { s with env }

/-- **In every reachable session all connections are in step, each with a link of its own.** -/
theorem Reachable.sound {s : Session} (h : Reachable s) :
    s.worker.connections.Sound s.env.net := by
  induction h with
  | fresh config pid env => exact Registry.sound_empty env.net
  | @call s _ call ih => exact (s.moves_run call).sound ih
  | @sendToDatamanager s _ m ih => exact (s.steps_sendToDatamanager m).moves.sound ih
  | @shutdown s _ ih => exact s.moves_shutdown.sound ih
  | @send s _ id m ih => exact (s.moves_send id m).sound ih
  | @receive s _ id ih => exact (s.moves_receive id).sound ih
  | @receiveUntil s _ id deadline ih => exact (s.moves_receiveUntil id deadline).sound ih
  | @remove s _ id ih => exact (s.moves_remove id).sound ih
  | meanwhile _ passes ih => exact ih.passes passes

end Session

end PipelineWorker
