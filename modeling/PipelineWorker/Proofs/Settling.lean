/-
Whatever happens to a registry of connections.

`Registry.Act` lists what a worker does with its connections and what happens around it, and
`Registry.run` makes a list of acts.

* `Link.Settled` — the time of the last item that was ever to arrive on a link has come, or that item
  is still to be received;
* `settled_act`, `settled_run` — that stays so, and the connections stay sound, whatever happens.
-/
import PipelineWorker.Proofs.Available

namespace PipelineWorker

namespace Link

/-- The time of the last item has come, unless an item of that time is still to be received. -/
def Settled (now : Nat) (l : Link) : Prop :=
  l.lastTime ≤ now ∨ ∃ i ∈ l.incoming, l.lastTime ≤ i.time

variable {now later n : Nat} {l : Link}

theorem Settled.mono (h : l.Settled now) (hle : now ≤ later) : l.Settled later :=
  h.imp_left fun hlast => Nat.le_trans hlast hle

/-- A link is settled once something was added to it. -/
theorem settled_feedOne (now later : Nat) (l : Link) (delay : Nat) (what : Arrival) :
    (l.feedOne now delay what).Settled later :=
  .inr ⟨⟨max now l.lastTime + delay, what⟩, List.mem_append_right _ (List.mem_singleton_self _),
    Nat.le_refl _⟩

theorem Settled.feed (h : l.Settled later) (now : Nat) (items : List (Nat × Arrival)) :
    (l.feed now items).Settled later := by
  induction items generalizing l with
  | nil => exact h
  | cons i items ih => exact ih (settled_feedOne now later l i.1 i.2)

theorem Settled.closeIfSilent (h : l.Settled now) : (l.closeIfSilent now).Settled now := by
  rw [Link.closeIfSilent]
  split
  · exact settled_feedOne ..
  · exact h

/-- An item that is taken has come. -/
theorem Settled.takeFront {i : Incoming} {rest : List Incoming} (hi : l.incoming = i :: rest)
    (h : l.Settled now) (n : Nat) :
    (Link.takeFront n l (max now i.time) i rest).link.Settled (max now i.time) := by
  have hmono := h.mono (Nat.le_max_left now i.time)
  have hrest : ({ l with incoming := rest } : Link).Settled (max now i.time) := by
    rcases hmono with hlast | ⟨j, hj, hlast⟩
    · exact .inl hlast
    · rw [hi] at hj
      rcases List.mem_cons.1 hj with rfl | hj
      · exact .inl (Nat.le_trans hlast (Nat.le_max_right ..))
      · exact .inr ⟨j, hj, hlast⟩
  rw [Link.takeFront]
  split
  · exact hmono
  · exact hrest
  · split
    · exact hrest
    · -- what is left of the item keeps its time
      rcases hrest with hlast | ⟨j, hj, hlast⟩
      · exact .inl hlast
      · exact .inr ⟨j, List.mem_cons_of_mem _ hj, hlast⟩

theorem Settled.recv (h : l.Settled now) (n : Nat) :
    (l.recv n now).link.Settled (l.recv n now).now := by
  rcases recv_cases n now l with ⟨-, hr⟩ | ⟨t, -, hr⟩ | ⟨i, rest, hi, hr⟩
  · rw [hr]
    exact h.closeIfSilent
  · rw [hr]
    exact h.mono (Nat.le_add_right now t)
  · have hnow : (Link.takeFront n l (max now i.time) i rest).now = max now i.time :=
      now_takeFront ..
    rw [hr, hnow]
    exact h.takeFront hi n

end Link

namespace Reading

theorem settled_pull {deadline total : Option Nat} {r g : Reading} {x : Except Errno Bytes}
    (hp : r.pull deadline total = (x, g)) (h : r.link.Settled r.now) : g.link.Settled g.now := by
  obtain rfl : (r.pull deadline total).2 = g := congrArg Prod.snd hp
  have harmed : (r.arm deadline).link.Settled (r.arm deadline).now := by
    unfold arm
    split
    · exact h
    · split <;> exact h
  exact harmed.recv _

theorem settled_readFrame (deadline : Option Nat) {r : Reading} (h : r.link.Settled r.now) :
    (readFrame deadline r).2.link.Settled (readFrame deadline r).2.now := by
  fun_induction readFrame deadline r with
  | case1 r => exact h
  | case2 r => exact h
  | case3 r total hl hn g hp => exact settled_pull (g := g) hp h
  | case4 r total hl hn b bs g hp ih => exact ih (settled_pull (g := g) hp h)
  | case5 r total hl hn g hp ih => exact ih (settled_pull hp h)
  | case6 r total hl hn e g hp => exact settled_pull hp h
  | case7 r total hl hn e g hp => exact settled_pull (g := g) hp h

end Reading

namespace Network

/-- All links are settled. -/
def Settled (net : Network) : Prop := ∀ i, (net.link i).Settled net.now

variable {net : Network}

theorem settled_of_no_links (h : net.links = []) : net.Settled := by
  intro i
  have hlink : net.link i = {} := by rw [link, h]; rfl
  rw [hlink]
  exact .inl (Nat.zero_le _)

theorem Settled.mono {net' : Network} (h : net.Settled) (hlinks : net'.links = net.links)
    (hle : net.now ≤ net'.now) : net'.Settled := by
  intro i
  have hlink : net'.link i = net.link i := by rw [link, link, hlinks]
  rw [hlink]
  exact (h i).mono hle

/-- One link is replaced while time passes. -/
theorem Settled.setLink {now : Nat} {l : Link} (h : net.Settled) (i : Nat) (hle : net.now ≤ now)
    (hl : l.Settled now) : Settled { net.setLink i l with now } := by
  intro j
  exact forall_link_setLink (P := fun _ l => l.Settled now) hl (fun j => (h j).mono hle) j

theorem Settled.closeSilent (h : net.Settled) (watched : List Nat) :
    (net.closeSilent watched).Settled := by
  induction watched generalizing net with
  | nil => exact h
  | cons i rest ih => exact ih (h.setLink i (Nat.le_refl _) (h i).closeIfSilent)

theorem Settled.pass (h : net.Settled) (t : Nat) : (net.pass t).Settled :=
  h.mono rfl (now_le_pass t net)

theorem Settled.await (h : net.Settled) (watched : List Nat) (ms : Option Nat) :
    (net.await watched ms).2.Settled := by
  unfold Network.await
  split
  · exact h.pass _
  · split
    · exact h.pass _
    · exact h.mono rfl (Nat.le_add_right ..)
  · exact h.mono rfl (Nat.le_add_right ..)
  · exact h.closeSilent watched

theorem Settled.poll (h : net.Settled) (watched : List Nat) (ms : Option Nat) :
    (net.poll watched ms).2.Settled := by
  rw [Network.poll]
  split
  · exact h.mono rfl (now_le_pass _ net)
  · exact h.mono rfl (now_le_pass _ net)
  · exact h.await watched ms

theorem Settled.openLink (h : net.Settled) (l : Listener) : (net.openLink l).2.Settled := by
  intro i
  have ho := (opened_openLink l (List.suffix_refl net.pollFaults)).2
  by_cases hi : i < net.links.length
  · rw [ho.link_of_lt hi]
    exact h i
  · by_cases hnew : i = net.links.length
    · subst hnew
      rw [ho.link]
      exact Link.Settled.feed (.inl (Nat.zero_le _)) ..
    · have hnone : (net.openLink l).2.link i = {} := by
        rw [link, ho.links, List.getD_eq_getElem?_getD, List.getElem?_eq_none]
        · rfl
        · rw [List.length_append, List.length_singleton]
          omega
      rw [hnone]
      exact .inl (Nat.zero_le _)

theorem Settled.dial (h : net.Settled) (addr : Ipv4) (port : Port) (timeout : Option Nat) :
    (net.dial addr port timeout).2.Settled := by
  have faults (fs : List PollFault) : Settled { net with pollFaults := fs } :=
    h.mono rfl (Nat.le_refl _)
  rw [Network.dial]
  split
  · exact h
  · split
    · exact h
    · exact h.openLink _
    · split
      · exact h.mono rfl (Nat.le_add_right ..)
      · exact h
      · rw [awaitAnswer]
        split
        · exact faults _
        · exact (faults _).openLink _
        · exact h.mono rfl (Nat.le_add_right ..)

end Network

namespace Connection

theorem settled_receiveWith (deadline : Option Nat) (c : Connection) {env : Environment}
    (h : env.net.Settled) : (c.receiveWith deadline env).2.2.net.Settled := by
  cases ha : c.alive with
  | false =>
    rw [receiveWith_of_dead ha]
    exact h
  | true =>
    rw [receiveWith_of_alive ha, net_conclude]
    exact h.setLink c.link ((c.reading env.net).now_le_readFrame deadline)
      (Reading.settled_readFrame deadline (h c.link))

theorem settled_send (m : Message) (c : Connection) {env : Environment} (h : env.net.Settled) :
    (c.send m env).2.2.net.Settled := by
  have hwritten : (c.written m env).net.Settled :=
    h.setLink c.link (Nat.le_refl _) (h c.link)
  rcases c.send_cases m env with ⟨-, hs⟩ | ⟨-, -, hs⟩ | ⟨e, events, -, hs⟩
  · rw [hs]
    exact h
  · rw [hs]
    exact hwritten
  · rw [hs]
    exact hwritten

end Connection

namespace Registry

theorem settled_withConnection {α : Type} {r : Registry} {env : Environment}
    {f : Connection → Environment → Except NetError α × Connection × Environment}
    (hf : ∀ c, (f c env).2.2.net.Settled) (h : env.net.Settled) (id : ConnectionId) :
    (r.withConnection id f env).2.2.net.Settled := by
  rw [withConnection]
  split
  · exact h
  · exact hf _

theorem settled_add {r : Registry} {env : Environment} (h : env.net.Settled) (role : Role)
    (endpoint : Endpoint) (port : Port) (timeout : Option Nat) :
    (r.add role endpoint port timeout env).2.2.net.Settled := by
  have hdial := h.dial endpoint.addr port timeout
  rw [add, Connection.dial]
  cases hd : env.net.dial endpoint.addr port timeout with
  | mk x net =>
    rw [hd] at hdial
    cases x <;> exact hdial

theorem settled_pollWatched (watched : List Connection) (deadline : Option Nat) {net : Network}
    (h : net.Settled) : (pollWatched watched deadline net).2.Settled := by
  have polled {net net' : Network} {ms : Option Nat} {answer : PollAnswer} (h : net.Settled)
      (hp : net.poll (watched.map (·.link)) ms = (answer, net')) : net'.Settled := by
    obtain rfl : (net.poll (watched.map (·.link)) ms).2 = net' := congrArg Prod.snd hp
    exact h.poll _ _
  fun_induction pollWatched watched deadline net with
  | case1 net ready net' hp => exact polled h hp
  | case2 net e net' hp he ih => exact ih (polled h hp)
  | case3 net e net' hp he => exact polled h hp
  | case4 net net' hp hd => exact polled h hp
  | case5 net net' hp hd ih => exact ih (polled h hp)

theorem settled_pollReadableFor (ids : List ConnectionId) (timeout : Option Nat) (r : Registry)
    {env : Environment} (h : env.net.Settled) :
    (r.pollReadableFor ids timeout env).2.net.Settled := by
  rw [pollReadableFor]
  split
  · exact h
  · exact settled_pollWatched _ _ h

/-! ### All that can happen -/

/-- What a worker does with its connections, and what happens around it. -/
inductive Act
  | add (role : Role) (endpoint : Endpoint) (port : Port) (timeout : Option Nat)
  | remove (id : ConnectionId)
  | send (id : ConnectionId) (m : Message)
  | receive (id : ConnectionId)
  | receiveUntil (id : ConnectionId) (deadline : Nat)
  /-- The timeout is in nanoseconds. -/
  | poll (ids : List ConnectionId) (timeout : Option Nat)
  /-- More is to arrive on a link. -/
  | feed (link : Nat) (items : List (Nat × Arrival))
  /-- More is to be met by the writes on a link. -/
  | addSink (link : Nat) (sink : Sink)
  /-- More is to be met by the polls. -/
  | addFaults (faults : List PollFault)
  | sleep (nanoseconds : Nat)

/-- What is left by an act. -/
def Act.run (act : Act) (r : Registry) (env : Environment) : Registry × Environment :=
  match act with
  | add role endpoint port timeout => (r.add role endpoint port timeout env).2
  | remove id => (r.remove id env).2
  | send id m => (r.send id m env).2
  | receive id => (r.receive id env).2
  | receiveUntil id deadline => (r.receiveUntil id deadline env).2
  | poll ids timeout => (r, (r.pollReadableFor ids timeout env).2)
  | feed link items => (r, { env with net := env.net.feed link items })
  | addSink link sink => (r, { env with net := env.net.addSink link sink })
  | addFaults faults =>
    (r, { env with net := { env.net with pollFaults := env.net.pollFaults ++ faults } })
  | sleep nanoseconds => (r, { env with net := env.net.pass nanoseconds })

/-- An empty registry in a world in which no link was opened yet. -/
def fresh (world : Environment) : Registry × Environment :=
  ({}, { world with net := { world.net with links := [] } })

/-- One act after the other, from an empty registry. -/
def run (acts : List Act) (world : Environment) : Registry × Environment :=
  acts.foldl (fun s act => act.run s.1 s.2) (fresh world)

/-- The connections are sound, and all links are settled. -/
structure Upright (r : Registry) (env : Environment) : Prop where
  sound : r.Sound env.net
  settled : env.net.Settled

theorem step_act (act : Act) (r : Registry) (env : Environment) :
    Step (r, env.net) ((act.run r env).1, (act.run r env).2.net) := by
  have setLink {i : Nat} {l : Link} (hl : l.readTimeout = (env.net.link i).readTimeout) :
      env.net.Passes (env.net.setLink i l) := by
    refine ⟨Nat.le_of_eq (Network.length_setLink ..).symm, fun j hj => ?_⟩
    by_cases h : j = i
    · subst h
      rw [Network.link_setLink hj, hl]
    · rw [Network.link_setLink_ne h]
  cases act with
  | add role endpoint port timeout => exact .add ..
  | remove id => exact .remove ..
  | send id m => exact .send ..
  | receive id => exact .receive ..
  | receiveUntil id deadline => exact .receiveUntil ..
  | poll ids timeout => exact .passes r (waited_pollReadableFor ids timeout r env).1.passes
  | feed link items => exact .passes r (setLink (Link.feed_keeps ..).2.2)
  | addSink link sink => exact .passes r (setLink rfl)
  | addFaults faults => exact .passes r ⟨Nat.le_refl _, fun _ _ => rfl⟩
  | sleep nanoseconds => exact .passes r ⟨Nat.le_refl _, fun _ _ => rfl⟩

theorem settled_act (act : Act) (r : Registry) {env : Environment} (h : env.net.Settled) :
    (act.run r env).2.net.Settled := by
  cases act with
  | add role endpoint port timeout => exact settled_add h role endpoint port timeout
  | remove id =>
    show (r.remove id env).2.2.net.Settled
    rw [net_remove]
    exact h
  | send id m => exact settled_withConnection (fun c => c.settled_send m h) h id
  | receive id =>
    refine settled_withConnection (fun c => ?_) h id
    rw [Connection.receive_snd]
    exact c.settled_receiveWith none h
  | receiveUntil id deadline =>
    exact settled_withConnection (fun c => c.settled_receiveWith _ h) h id
  | poll ids timeout => exact settled_pollReadableFor ids timeout r h
  | feed link items => exact h.setLink link (Nat.le_refl _) ((h link).feed ..)
  | addSink link sink => exact h.setLink link (Nat.le_refl _) (h link)
  | addFaults faults => exact h.mono rfl (Nat.le_refl _)
  | sleep nanoseconds => exact h.pass nanoseconds

/-- **Whatever happens, the connections stay sound and the links settled.** -/
theorem upright_run (acts : List Act) (world : Environment) :
    Upright (run acts world).1 (run acts world).2 := by
  have step (acts : List Act) : ∀ s : Registry × Environment, Upright s.1 s.2 →
      Upright (acts.foldl (fun s act => act.run s.1 s.2) s).1
        (acts.foldl (fun s act => act.run s.1 s.2) s).2 := by
    induction acts with
    | nil => exact fun s h => h
    | cons act acts ih =>
      intro s h
      exact ih _ ⟨Sound.step h.sound (step_act act s.1 s.2), settled_act act s.1 h.settled⟩
  exact step acts _ ⟨sound_empty _, Network.settled_of_no_links rfl⟩

end Registry

end PipelineWorker
