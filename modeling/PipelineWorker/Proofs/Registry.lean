/-
What happens to the connections of a worker.

`Registry.Step` lists all that can happen to the connections and to the network under them; whatever
the worker does is a sequence of these steps.

* `Sound` — every connection is in step with its stream, and no two of them share a link;
* `Sound.step`, `Sound.steps` — that stays so, whatever happens.
-/
import Mathlib.Data.List.Nodup
import Mathlib.Logic.Relation
import PipelineWorker.Net.Registry
import PipelineWorker.Proofs.Dialing

namespace PipelineWorker

namespace Network

/-- From `net` to `net'` the worker did nothing on the network but write on link `i`. -/
structure WritesOn (i : Nat) (net net' : Network) : Prop where
  now : net'.now = net.now
  listeners : net'.listeners = net.listeners
  faults : net'.pollFaults = net.pollFaults
  count : net'.links.length = net.links.length
  others : ∀ j, j ≠ i → net'.link j = net.link j
  incoming : (net'.link i).incoming = (net.link i).incoming
  readTimeout : (net'.link i).readTimeout = (net.link i).readTimeout

theorem WritesOn.refl (i : Nat) (net : Network) : WritesOn i net net :=
  ⟨rfl, rfl, rfl, rfl, fun _ _ => rfl, rfl, rfl⟩

theorem WritesOn.arrivals {i : Nat} {net net' : Network} (h : WritesOn i net net') (j : Nat) :
    (net'.link j).arrivals = (net.link j).arrivals := by
  by_cases hj : j = i
  · rw [hj, Link.arrivals, Link.arrivals, h.incoming]
  · rw [h.others j hj]

/-- What the others may do to the network: time passes, and anything arrives.  The sockets of the
worker stay, and so do their options. -/
structure Passes (net net' : Network) : Prop where
  count : net.links.length ≤ net'.links.length
  readTimeout : ∀ i, i < net.links.length →
    (net'.link i).readTimeout = (net.link i).readTimeout

end Network

/-! ### Sending -/

namespace Sink

/-- A write that succeeded handed everything over. -/
theorem written_of_ok {bs : Bytes} {sink : Sink} (h : (writeAll bs sink).result = .ok ()) :
    (writeAll bs sink).written = bs := by
  fun_induction writeAll bs sink with
  | case1 sink => rfl
  | case2 bs hbs => rfl
  | case3 bs f sink hbs hf o ih => exact ih h
  | case4 => cases h
  | case5 => cases h
  | case6 bs n sink hbs hn o ih =>
    show bs.take n ++ o.written = bs
    rw [ih h, List.take_append_drop]

theorem frame_of_writeMessage {m : Message} {sink : Sink}
    (h : (writeMessage m (.ok ()) sink).1 = .ok ()) :
    Frame.encode m = .ok (writeMessage m (.ok ()) sink).2.written := by
  rw [writeMessage] at h ⊢
  cases hf : Frame.encode m with
  | error e =>
    rw [hf] at h
    cases h
  | ok frame =>
    rw [hf] at h
    cases hr : (writeAll frame sink).result with
    | error f =>
      simp only [hr] at h
      cases h
    | ok u =>
      simp only [hr, written_of_ok hr]

end Sink

namespace Connection

theorem send_of_dead {m : Message} {c : Connection} {env : Environment} (h : c.alive = false) :
    c.send m env = (.error (.connectionClosed c.id), c, env) := by
  rw [send, if_pos (by rw [h]; rfl)]

/-- The surroundings once something was written on the link of the connection. -/
def written (m : Message) (c : Connection) (env : Environment) : Environment :=
  { env.report (.sending c.id m.kind m.payload.length) with
    net := env.net.setLink c.link ((env.net.link c.link).send m).2 }

theorem send_of_ok {m : Message} {c : Connection} {env : Environment} (ha : c.alive = true)
    (h : ((env.net.link c.link).send m).1 = .ok ()) :
    c.send m env = (.ok (), c, c.written m env) := by
  simp only [send, ha, Bool.not_true, Bool.false_eq_true, if_false, Environment.net_report, h]
  rfl

theorem send_of_error {m : Message} {c : Connection} {env : Environment} {e : CodecError}
    (ha : c.alive = true) (h : ((env.net.link c.link).send m).1 = .error e) :
    c.send m env
      = (.error (c.failed e).1, (c.failed e).2.1, (c.written m env).reportAll (c.failed e).2.2) := by
  simp only [send, ha, Bool.not_true, Bool.false_eq_true, if_false, Environment.net_report, h]
  rfl

theorem failed_connection (e : CodecError) (c : Connection) :
    (c.failed e).2.1 = { c with alive := false, buffered := [] } := by
  rw [failed]
  split <;> rfl

/-- All that a send can do. -/
theorem send_cases (m : Message) (c : Connection) (env : Environment) :
    (c.alive = false ∧ c.send m env = (.error (.connectionClosed c.id), c, env)) ∨
    (c.alive = true ∧ ((env.net.link c.link).send m).1 = .ok () ∧
      c.send m env = (.ok (), c, c.written m env)) ∨
    ∃ e events, c.alive = true ∧ c.send m env = (.error e,
      { c with alive := false, buffered := [] }, (c.written m env).reportAll events) := by
  cases ha : c.alive with
  | false => exact .inl ⟨rfl, send_of_dead ha⟩
  | true =>
    cases h : ((env.net.link c.link).send m).1 with
    | ok u => exact .inr (.inl ⟨rfl, rfl, send_of_ok ha h⟩)
    | error e =>
      refine .inr (.inr ⟨(c.failed e).1, (c.failed e).2.2, rfl, ?_⟩)
      rw [send_of_error ha h, failed_connection]

theorem writesOn_written (m : Message) {c : Connection} {env : Environment}
    (h : c.link < env.net.links.length) :
    Network.WritesOn c.link env.net (c.written m env).net := by
  have hlink : (c.written m env).net.link c.link = ((env.net.link c.link).send m).2 :=
    Network.link_setLink h _
  exact ⟨rfl, rfl, rfl, Network.length_setLink .., fun j hj => Network.link_setLink_ne hj _,
    by rw [hlink]; rfl, by rw [hlink]; rfl⟩

/-- A send writes on the link of its connection and on no other. -/
theorem writesOn_send (m : Message) {c : Connection} {env : Environment}
    (h : c.link < env.net.links.length) :
    Network.WritesOn c.link env.net (c.send m env).2.2.net := by
  rcases c.send_cases m env with ⟨-, hs⟩ | ⟨-, -, hs⟩ | ⟨e, events, -, hs⟩
  · rw [hs]
    exact .refl _ _
  · rw [hs]
    exact writesOn_written m h
  · rw [hs]
    exact writesOn_written m h

/-- A send that succeeded leaves the connection as it was. -/
theorem send_ok {m : Message} {c : Connection} {env : Environment}
    (h : (c.send m env).1 = .ok ()) :
    c.alive = true ∧ ((env.net.link c.link).send m).1 = .ok () ∧
      (c.send m env).2 = (c, c.written m env) := by
  rcases c.send_cases m env with ⟨-, hs⟩ | ⟨ha, hl, hs⟩ | ⟨e, events, -, hs⟩
  · rw [hs] at h
    simp at h
  · rw [hs]
    exact ⟨ha, hl, rfl⟩
  · rw [hs] at h
    simp at h

theorem id_send (m : Message) (c : Connection) (env : Environment) :
    (c.send m env).2.1.id = c.id := by
  rcases c.send_cases m env with ⟨-, hs⟩ | ⟨-, -, hs⟩ | ⟨e, events, -, hs⟩ <;> rw [hs]

theorem link_send (m : Message) (c : Connection) (env : Environment) :
    (c.send m env).2.1.link = c.link := by
  rcases c.send_cases m env with ⟨-, hs⟩ | ⟨-, -, hs⟩ | ⟨e, events, -, hs⟩ <;> rw [hs]

/-- A connection is in step for as long as its link keeps its options. -/
theorem InStep.of_readTimeout {c : Connection} {net net' : Network} (h : c.InStep net)
    (hcount : net.links.length ≤ net'.links.length)
    (hlimit : (net'.link c.link).readTimeout = (net.link c.link).readTimeout) : c.InStep net' :=
  ⟨Nat.lt_of_lt_of_le h.linked hcount, h.begun,
    fun hset => by rw [hlimit]; exact h.limitKnown hset⟩

/-- A send leaves the connection in step. -/
theorem inStep_send (m : Message) {c : Connection} {env : Environment} (hs : c.InStep env.net) :
    (c.send m env).2.1.InStep (c.send m env).2.2.net := by
  have hw := c.writesOn_send m hs.linked
  have hsame := hs.of_readTimeout (Nat.le_of_eq hw.count.symm) hw.readTimeout
  rcases c.send_cases m env with ⟨-, h⟩ | ⟨-, -, h⟩ | ⟨e, events, -, h⟩
  · rw [h] at hsame ⊢
    exact hsame
  · rw [h] at hsame ⊢
    exact hsame
  · rw [h] at hsame ⊢
    exact ⟨hsame.linked, Frame.isPartial_nil, hsame.limitKnown⟩

end Connection

namespace Registry

/-! ### One connection in the place of another -/

/-- What both connections have in common stays in its place. -/
theorem map_replaceIn {α : Type} (f : Connection → α) {c d : Connection} {cs : List Connection}
    (h : cs.find? (·.id = d.id) = some c) (hf : f d = f c) :
    (replaceIn d cs).map f = cs.map f := by
  induction cs with
  | nil => rfl
  | cons e es ih =>
    rw [replaceIn]
    split
    · rename_i he
      rw [List.find?_cons_of_pos (by simpa using he), Option.some_inj] at h
      rw [List.map_cons, List.map_cons, hf, h]
    · rename_i he
      rw [List.find?_cons_of_neg (by simpa using he)] at h
      rw [List.map_cons, List.map_cons, ih h]

/-- A connection that takes its own place changes nothing. -/
theorem put_self {r : Registry} {id : ConnectionId} {c : Connection} (h : r.get? id = some c) :
    r.put c = r := by
  have hfound : r.connections.find? (·.id = c.id) = some c := id_of_get? h ▸ h
  have hsame := map_replaceIn (fun d => d) hfound rfl
  rw [List.map_id', List.map_id'] at hsame
  rw [put, hsame]

theorem mem_replaceIn {c d x : Connection} {cs : List Connection}
    (h : cs.find? (·.id = d.id) = some c) (hn : (cs.map (·.link)).Nodup)
    (hx : x ∈ replaceIn d cs) : x = d ∨ (x ∈ cs ∧ x.link ≠ c.link) := by
  induction cs with
  | nil => exact absurd h (by simp)
  | cons e es ih =>
    rw [List.map_cons, List.nodup_cons] at hn
    rw [replaceIn] at hx
    split at hx
    · rename_i he
      rw [List.find?_cons_of_pos (by simpa using he), Option.some_inj] at h
      subst h
      rcases List.mem_cons.1 hx with hx | hx
      · exact .inl hx
      · refine .inr ⟨List.mem_cons_of_mem _ hx, fun hl => hn.1 ?_⟩
        rw [← hl]
        exact List.mem_map_of_mem hx
    · rename_i he
      rw [List.find?_cons_of_neg (by simpa using he)] at h
      rcases List.mem_cons.1 hx with rfl | hx
      · refine .inr ⟨List.mem_cons_self, fun hl => hn.1 ?_⟩
        rw [hl]
        exact List.mem_map_of_mem (List.mem_of_find?_eq_some h)
      · rcases ih h hn.2 hx with hx | ⟨hx, hl⟩
        · exact .inl hx
        · exact .inr ⟨List.mem_cons_of_mem _ hx, hl⟩

/-- The connection that was put in is found. -/
theorem get?_put {r : Registry} {id : ConnectionId} {c d : Connection} (h : r.get? id = some c)
    (hd : d.id = id) : (r.put d).get? id = some d := by
  have (cs : List Connection) (h : cs.find? (·.id = id) = some c) :
      (replaceIn d cs).find? (·.id = id) = some d := by
    induction cs with
    | nil => exact absurd h (by simp)
    | cons e es ih =>
      rw [replaceIn]
      split
      · exact List.find?_cons_of_pos (by simpa using hd)
      · rename_i he
        rw [hd] at he
        rw [List.find?_cons_of_neg (by simpa using he)] at h ⊢
        exact ih h
  exact this _ h

/-- All other connections are found as before. -/
theorem get?_put_ne {r : Registry} {c : Connection} {id : ConnectionId} (h : id ≠ c.id) :
    (r.put c).get? id = r.get? id := by
  have (cs : List Connection) :
      (replaceIn c cs).find? (·.id = id) = cs.find? (·.id = id) := by
    induction cs with
    | nil => rfl
    | cons d ds ih =>
      rw [replaceIn]
      split
      · rename_i hd
        rw [List.find?_cons_of_neg (by simpa using h.symm),
          List.find?_cons_of_neg (by rw [hd]; simpa using h.symm)]
      · rw [List.find?_cons, List.find?_cons, ih]
  exact this _

/-- Taking out what is not looked for does not change what is found. -/
theorem find?_eraseP {α : Type} {p q : α → Bool} (h : ∀ a, p a = true → q a = false)
    (l : List α) : (l.eraseP p).find? q = l.find? q := by
  induction l with
  | nil => rfl
  | cons a l ih =>
    rw [List.eraseP_cons]
    cases hp : p a with
    | true => rw [cond_true, List.find?_cons, h a hp]
    | false => rw [cond_false, List.find?_cons, List.find?_cons, ih]

/-- Where no two have one image, taking out the first of that image takes out all of it. -/
theorem eraseP_eq_filter {α β : Type} [DecidableEq β] {f : α → β} {l : List α}
    (h : (l.map f).Nodup) (b : β) : l.eraseP (f · = b) = l.filter (f · ≠ b) := by
  induction l with
  | nil => rfl
  | cons a l ih =>
    rw [List.map_cons, List.nodup_cons] at h
    by_cases ha : f a = b
    · have hrest : ∀ x ∈ l, f x ≠ b := fun x hx heq =>
        h.1 (ha.trans heq.symm ▸ List.mem_map_of_mem hx)
      rw [List.eraseP_cons_of_pos (by simpa using ha), List.filter_cons_of_neg (by simpa using ha),
        List.filter_eq_self.2 (by simpa using hrest)]
    · rw [List.eraseP_cons_of_neg (by simpa using ha), List.filter_cons_of_pos (by simpa using ha),
        ih h.2]

theorem connections_remove (id : ConnectionId) (r : Registry) (env : Environment) :
    (r.remove id env).2.1.connections = r.connections.eraseP (·.id = id) := by
  rw [remove]
  cases hc : r.get? id with
  | none =>
    have hnone : r.connections.find? (·.id = id) = none := hc
    exact (List.eraseP_of_forall_not (by simpa using List.find?_eq_none.1 hnone)).symm
  | some c => rfl

theorem nextId_remove (id : ConnectionId) (r : Registry) (env : Environment) :
    (r.remove id env).2.1.nextId = r.nextId := by
  rw [remove]
  split <;> rfl

/-- When a connection is taken out, all others are found as before. -/
theorem get?_remove_ne {i j : ConnectionId} (h : j ≠ i) (r : Registry) (env : Environment) :
    (r.remove i env).2.1.get? j = r.get? j := by
  rw [get?, connections_remove]
  refine find?_eraseP (fun c hc => decide_eq_false fun hj => h ?_) r.connections
  rw [← hj, of_decide_eq_true hc]

/-- When a connection is used, all others are found as before. -/
theorem get?_withConnection_ne {α : Type} {i j : ConnectionId} (h : j ≠ i)
    {f : Connection → Environment → Except NetError α × Connection × Environment}
    (hid : ∀ c env, (f c env).2.1.id = c.id) (r : Registry) (env : Environment) :
    (r.withConnection i f env).2.1.get? j = r.get? j := by
  rw [withConnection]
  cases hc : r.get? i with
  | none => rfl
  | some c =>
    refine get?_put_ne ?_
    rw [hid, id_of_get? hc]
    exact h

/-- A new connection is found under its number, unless an older one has it. -/
theorem get?_concat {r : Registry} {c : Connection} (h : r.get? c.id = none) (n : UInt32) :
    ({ connections := r.connections ++ [c], nextId := n } : Registry).get? c.id = some c := by
  have hnone : r.connections.find? (·.id = c.id) = none := h
  rw [get?, List.find?_append, hnone, Option.none_or]
  exact List.find?_cons_of_pos (decide_eq_true rfl)

theorem get?_concat_of_some {r : Registry} {c d : Connection} {id : ConnectionId}
    (h : r.get? id = some d) (n : UInt32) :
    ({ connections := r.connections ++ [c], nextId := n } : Registry).get? id = some d := by
  have hsome : r.connections.find? (·.id = id) = some d := h
  rw [get?, List.find?_append, hsome, Option.some_or]

/-! ### Soundness -/

/-- Every connection is in step with its stream, and no two of them share a link. -/
structure Sound (r : Registry) (net : Network) : Prop where
  inStep : ∀ c ∈ r.connections, c.InStep net
  apart : (r.connections.map (·.link)).Nodup

theorem sound_empty (net : Network) : Sound {} net :=
  ⟨(fun _ h => nomatch h), List.nodup_nil⟩

theorem Sound.get? {r : Registry} {net : Network} {id : ConnectionId} {c : Connection}
    (h : r.Sound net) (hc : r.get? id = some c) : c.InStep net :=
  h.inStep c (List.mem_of_find?_eq_some hc)

/-- Different numbers stand for different links. -/
theorem Sound.link_ne {r : Registry} {net : Network} {i j : ConnectionId} {c d : Connection}
    (h : r.Sound net) (hc : r.get? i = some c) (hd : r.get? j = some d) (hne : j ≠ i) :
    d.link ≠ c.link := by
  intro hlink
  have hsame : d = c := List.inj_on_of_nodup_map h.apart (List.mem_of_find?_eq_some hd)
    (List.mem_of_find?_eq_some hc) hlink
  exact hne (by rw [← id_of_get? hd, hsame, id_of_get? hc])

/-- A connection takes the place of another one on the same link; the others are left alone. -/
theorem Sound.put {r : Registry} {net net' : Network} {id : ConnectionId} {c d : Connection}
    (h : r.Sound net) (hc : r.get? id = some c) (hid : d.id = id) (hl : d.link = c.link)
    (hd : d.InStep net') (hcount : net'.links.length = net.links.length)
    (hothers : ∀ j, j ≠ c.link → net'.link j = net.link j) : (r.put d).Sound net' := by
  subst hid
  refine ⟨fun x hx => ?_, ?_⟩
  · rcases mem_replaceIn hc h.apart hx with rfl | ⟨hx, hne⟩
    · exact hd
    · exact (h.inStep x hx).of_readTimeout (Nat.le_of_eq hcount.symm) (by rw [hothers _ hne])
  · show ((replaceIn d r.connections).map _).Nodup
    rw [map_replaceIn _ hc hl]
    exact h.apart

/-- Using one connection keeps all in step. -/
theorem Sound.withConnection {α : Type} {r : Registry} {env : Environment} (h : r.Sound env.net)
    (id : ConnectionId)
    {f : Connection → Environment → Except NetError α × Connection × Environment}
    (hid : ∀ c env, (f c env).2.1.id = c.id)
    (hlink : ∀ c env, (f c env).2.1.link = c.link)
    (hstep : ∀ c env, c.InStep env.net → (f c env).2.1.InStep (f c env).2.2.net)
    (hcount : ∀ c env, c.InStep env.net →
      (f c env).2.2.net.links.length = env.net.links.length)
    (hothers : ∀ c env, c.InStep env.net → ∀ j, j ≠ c.link →
      (f c env).2.2.net.link j = env.net.link j) :
    (r.withConnection id f env).2.1.Sound (r.withConnection id f env).2.2.net := by
  rw [Registry.withConnection]
  cases hc : r.get? id with
  | none => exact h
  | some c =>
    have hs := h.get? hc
    exact h.put hc ((hid c env).trans (id_of_get? hc)) (hlink c env) (hstep c env hs)
      (hcount c env hs) (hothers c env hs)

/-- Receiving keeps all in step. -/
theorem Sound.receive {r : Registry} {env : Environment} (h : r.Sound env.net)
    (id : ConnectionId) : (r.receive id env).2.1.Sound (r.receive id env).2.2.net := by
  refine h.withConnection id Connection.id_receive ?_ ?_ ?_ ?_
  · intro c env
    rw [Connection.receive_snd, Connection.link_receiveWith]
  · intro c env hs
    rw [Connection.receive_snd]
    exact Connection.inStep_receiveWith hs
  · intro c env hs
    rw [Connection.receive_snd, (Connection.readsOn_receiveWith none hs.linked).count]
  · intro c env hs j hj
    rw [Connection.receive_snd, (Connection.readsOn_receiveWith none hs.linked).others j hj]

theorem Sound.receiveUntil {r : Registry} {env : Environment} (h : r.Sound env.net)
    (id : ConnectionId) (deadline : Nat) :
    (r.receiveUntil id deadline env).2.1.Sound (r.receiveUntil id deadline env).2.2.net := by
  refine h.withConnection id (Connection.id_receiveWith _) (Connection.link_receiveWith _) ?_ ?_ ?_
  · intro c env hs
    exact Connection.inStep_receiveWith hs
  · intro c env hs
    exact (Connection.readsOn_receiveWith _ hs.linked).count
  · intro c env hs j hj
    exact (Connection.readsOn_receiveWith _ hs.linked).others j hj

/-- Sending keeps all in step. -/
theorem Sound.send {r : Registry} {env : Environment} (h : r.Sound env.net) (id : ConnectionId)
    (m : Message) : (r.send id m env).2.1.Sound (r.send id m env).2.2.net := by
  refine h.withConnection id (Connection.id_send m) (Connection.link_send m) ?_ ?_ ?_
  · intro c env hs
    exact Connection.inStep_send m hs
  · intro c env hs
    exact (Connection.writesOn_send m hs.linked).count
  · intro c env hs j hj
    exact (Connection.writesOn_send m hs.linked).others j hj

theorem Sound.remove {r : Registry} {env : Environment} (h : r.Sound env.net)
    (id : ConnectionId) : (r.remove id env).2.1.Sound (r.remove id env).2.2.net := by
  have hsub : (r.remove id env).2.1.connections.Sublist r.connections := by
    rw [connections_remove]
    exact List.eraseP_sublist
  rw [net_remove]
  exact ⟨fun x hx => h.inStep x (hsub.subset hx), h.apart.sublist (hsub.map _)⟩

/-- A new connection has a link of its own. -/
theorem Sound.add {r : Registry} {env : Environment} (h : r.Sound env.net) (role : Role)
    (endpoint : Endpoint) (port : Port) (timeout : Option Nat) :
    (r.add role endpoint port timeout env).2.1.Sound
      (r.add role endpoint port timeout env).2.2.net := by
  rw [Registry.add]
  cases hd : Connection.dial ⟨r.nextId⟩ role endpoint port timeout env with
  | mk x env' =>
    cases x with
    | error e =>
      obtain ⟨-, hl, -⟩ := Connection.dial_error hd
      refine ⟨fun c hc => (h.inStep c hc).of_readTimeout (Nat.le_of_eq (by rw [hl])) ?_, h.apart⟩
      rw [Network.link, Network.link, hl]
    | ok c =>
      obtain ⟨l, -, ho, -, -⟩ := Connection.dial_ok hd
      refine ⟨fun x hx => ?_, ?_⟩
      · rcases List.mem_append.1 hx with hx | hx
        · have hs := h.inStep x hx
          exact hs.of_readTimeout (by rw [ho.count]; exact Nat.le_succ _)
            (by rw [ho.link_of_lt hs.linked])
        · rw [List.mem_singleton.1 hx]
          exact Connection.inStep_dial hd
      · -- The new link lies behind all those that the others are on.
        show ((r.connections ++ [c]).map (·.link)).Nodup
        rw [List.map_append, List.nodup_append]
        refine ⟨h.apart, by simp, fun i hi j hj => ?_⟩
        obtain ⟨x, hx, rfl⟩ := List.mem_map.1 hi
        rw [List.map_singleton, List.mem_singleton] at hj
        rw [hj, ho.number]
        exact Nat.ne_of_lt (h.inStep x hx).linked

theorem Sound.passes {r : Registry} {net net' : Network} (h : r.Sound net)
    (hp : net.Passes net') : r.Sound net' :=
  ⟨fun c hc => (h.inStep c hc).of_readTimeout hp.count
    (hp.readTimeout c.link (h.inStep c hc).linked), h.apart⟩

/-! ### All that can happen -/

/-- One thing that happens to the connections and the network under them. -/
inductive Step : Registry × Network → Registry × Network → Prop
  | send (id : ConnectionId) (m : Message) (r : Registry) (env : Environment) :
      Step (r, env.net) ((r.send id m env).2.1, (r.send id m env).2.2.net)
  | receive (id : ConnectionId) (r : Registry) (env : Environment) :
      Step (r, env.net) ((r.receive id env).2.1, (r.receive id env).2.2.net)
  | receiveUntil (id : ConnectionId) (deadline : Nat) (r : Registry) (env : Environment) :
      Step (r, env.net)
        ((r.receiveUntil id deadline env).2.1, (r.receiveUntil id deadline env).2.2.net)
  | remove (id : ConnectionId) (r : Registry) (env : Environment) :
      Step (r, env.net) ((r.remove id env).2.1, (r.remove id env).2.2.net)
  | add (role : Role) (endpoint : Endpoint) (port : Port) (timeout : Option Nat) (r : Registry)
      (env : Environment) :
      Step (r, env.net) ((r.add role endpoint port timeout env).2.1,
        (r.add role endpoint port timeout env).2.2.net)
  | passes (r : Registry) {net net' : Network} (h : net.Passes net') : Step (r, net) (r, net')

/-- **Whatever happens, all connections stay in step.** -/
theorem Sound.step {a b : Registry × Network} (h : a.1.Sound a.2) (hs : Step a b) :
    b.1.Sound b.2 := by
  cases hs with
  | send id m r env => exact Sound.send h id m
  | receive id r env => exact Sound.receive h id
  | receiveUntil id deadline r env => exact Sound.receiveUntil h id deadline
  | remove id r env => exact Sound.remove h id
  | add role endpoint port timeout r env => exact Sound.add h role endpoint port timeout
  | passes r hp => exact Sound.passes h hp

theorem Sound.steps {a b : Registry × Network} (h : a.1.Sound a.2)
    (hs : Relation.ReflTransGen Step a b) : b.1.Sound b.2 := by
  induction hs with
  | refl => exact h
  | tail _ hlast ih => exact ih.step hlast

end Registry

end PipelineWorker
