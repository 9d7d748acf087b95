/-
What the report says of the bytes that were read.

The messages that are told as received are those of the whole frames that were taken off the streams
of the connections.  The books of a run are kept by the report, and so they are books of the bytes.

* `Session.Steps.reports` — **whatever the coordinator does, what is reported from a connection are
  the whole frames that were used up on it, in order**;
* `Ledger.Sound.read_enter` — which is what a call adds to the books.

A handshake makes its connections first; all that it reads it reads in its wait and in its exchange
(`Session.progress_handshake`), to which the same applies.
-/
import PipelineWorker.Proofs.GivingUp
import PipelineWorker.Proofs.Ledger

namespace PipelineWorker

/-- The messages that were read off that connection so far. -/
def Environment.receivedFrom (id : ConnectionId) (env : Environment) : List Message :=
  env.received.filter (·.origin = some id)

/-- Every message was read off some connection. -/
theorem Environment.origin_of_mem_received {m : Message} {env : Environment}
    (h : m ∈ env.received) : ∃ id, m.origin = some id := by
  obtain ⟨event, -, hevent⟩ := List.mem_filterMap.1 h
  cases event with
  | received id m' =>
    obtain rfl := Option.some.inj hevent
    exact ⟨id, rfl⟩
  | _ => cases hevent

/-- Messages of one connection among those of all. -/
theorem filter_withOrigin (id j : ConnectionId) (taken : List Message) :
    (taken.map (·.withOrigin id)).filter (·.origin = some j)
      = if j = id then taken.map (·.withOrigin id) else [] := by
  split
  · rename_i hj
    refine List.filter_eq_self.2 fun m hm => ?_
    obtain ⟨m, -, rfl⟩ := List.mem_map.1 hm
    exact decide_eq_true (congrArg some hj.symm)
  · rename_i hj
    refine List.filter_eq_nil_iff.2 fun m hm horigin => hj ?_
    obtain ⟨m, -, rfl⟩ := List.mem_map.1 hm
    exact (Option.some.inj (of_decide_eq_true horigin)).symm

namespace Session

variable {s t u : Session} {id : ConnectionId} {c : Connection}

/-- All connections are in step, and no two have the same number. -/
structure Ordered (s : Session) : Prop where
  sound : s.worker.connections.Sound s.env.net
  distinct : (s.standing.roster.map (·.1)).Nodup

theorem Tidy.ordered (h : Tidy s) : Ordered s := ⟨h.sound, h.distinct⟩

/-- Connection `id` is registered as `c`, and alive. -/
structure Open (id : ConnectionId) (c : Connection) (s : Session) : Prop where
  found : s.worker.connections.get? id = some c
  alive : c.alive = true

/-- The use of another connection opens none. -/
theorem Open.of_uses {j : ConnectionId} (h : Open j c t) (huses : Uses id s t) (hj : j ≠ id) :
    Open j c s :=
  ⟨(huses.get?_of_ne hj).symm.trans h.found, h.alive⟩

theorem Open.unique {c' : Connection} (h : Open id c s) (h' : Open id c' s) : c' = c :=
  Option.some.inj (h'.found.symm.trans h.found)

/-- What is reported between `s` and `t` are the whole frames that were used up. -/
structure Reports (s t : Session) : Prop where
  /-- Nothing is reported from connections that are not open, and none is opened. -/
  shut : ∀ id, (∀ c, ¬ Open id c s) →
    t.env.receivedFrom id = s.env.receivedFrom id ∧ ∀ c, ¬ Open id c t
  /-- Of a connection that is open the first whole frames are reported, and where it stays open it
  goes on behind them. -/
  opened : ∀ id c, Open id c s → (s.env.net.link c.link).IsClean → ∃ taken,
    t.env.receivedFrom id = s.env.receivedFrom id ++ taken.map (·.withOrigin id) ∧
      taken <+: Frame.messages (c.stream s.env.net) ∧
      ∀ c', Open id c' t → Connection.UsesUp taken c s.env.net c' t.env.net

theorem Reports.trans (h : Reports s t) (h' : Reports t u) : Reports s u := by
  refine ⟨fun id hshut => ?_, fun id c hc hclean => ?_⟩
  · obtain ⟨hreceived, hshut'⟩ := h.shut id hshut
    obtain ⟨hreceived', hshut''⟩ := h'.shut id hshut'
    exact ⟨hreceived'.trans hreceived, hshut''⟩
  · obtain ⟨taken, hreceived, hfront, hup⟩ := h.opened id c hc hclean
    by_cases hopen : ∃ c', Open id c' t
    · obtain ⟨c', hc'⟩ := hopen
      have hused := hup c' hc'
      obtain ⟨more, hreceived', hfront', hup'⟩ := h'.opened id c' hc' hused.clean
      refine ⟨taken ++ more, ?_, ?_, fun c'' hc'' => hused.trans (hup' c'' hc'')⟩
      · rw [hreceived', hreceived, List.append_assoc, List.map_append]
      · rw [Frame.messages_of_prefix hfront, ← hused.rest]
        exact (List.prefix_append_right_inj taken).2 hfront'
    · -- it was lost on the way, and nothing came of it since
      obtain ⟨hreceived', hshut⟩ := h'.shut id fun c' hc' => hopen ⟨c', hc'⟩
      exact ⟨taken, hreceived'.trans hreceived, hfront, fun c'' hc'' => absurd hc'' (hshut c'')⟩

/-! ### Where nothing is read -/

/-- Where no message is read, all connections that are open were so before, and what is to come on
them stays, nothing is used up. -/
theorem reports_of_same (hreceived : t.env.received = s.env.received)
    (hconnections : ∀ id c, Open id c t → Open id c s)
    (hlinks : ∀ i, (t.env.net.link i).coming = (s.env.net.link i).coming ∧
      ((s.env.net.link i).IsClean → (t.env.net.link i).IsClean)) : Reports s t := by
  have hfrom (id : ConnectionId) : t.env.receivedFrom id = s.env.receivedFrom id := by
    rw [Environment.receivedFrom, hreceived]
    rfl
  refine ⟨fun id hshut => ⟨hfrom id, fun c hc => hshut c (hconnections id c hc)⟩,
    fun id c hc hclean => ⟨[], (hfrom id).trans (List.append_nil _).symm, List.nil_prefix,
      fun c' hc' => ?_⟩⟩
  obtain rfl := hc.unique (hconnections id c' hc')
  refine ⟨rfl, (hlinks c'.link).2 hclean, ?_⟩
  rw [Connection.stream, Connection.stream, (hlinks c'.link).1]
  rfl

theorem Quiet.reports (h : Quiet s t) (hconnections : t.worker.connections = s.worker.connections)
    (hnet : t.env.net = s.env.net) : Reports s t :=
  reports_of_same h.received (fun _ _ hc => ⟨hconnections ▸ hc.found, hc.alive⟩)
    fun _ => hnet ▸ ⟨rfl, fun h => h⟩

theorem reports_pollWatched (deadline : Option Nat) (s : Session) :
    Reports s (s.pollWatched deadline).2 := by
  have hwaited := (Registry.waited_pollReadable s.worker.watched (deadline.map (· - s.now))
    s.worker.connections s.env).1
  exact reports_of_same (s.quiet_pollWatched deadline).received (fun _ _ hc => ⟨hc.found, hc.alive⟩)
    fun i => ⟨(hwaited.links i).coming, fun hclean => (hwaited.links i).isClean hclean⟩

theorem Reports.refl (s : Session) : Reports s s := (Quiet.refl s).reports rfl rfl

theorem reports_send (id : ConnectionId) (m : Message) (hs : Ordered s) :
    Reports s (s.send id m).2 := by
  cases hc : s.worker.connections.get? id with
  | none =>
    have hsame : (s.send id m).2 = s := by
      rw [send, Registry.send, Registry.withConnection, hc]
    rw [hsame]
    exact .refl s
  | some c =>
    have hsent : (s.send id m).2 =
        { worker := { s.worker with connections := s.worker.connections.put (c.send m s.env).2.1 }
          env := (c.send m s.env).2.2 } := by
      rw [send, Registry.send, Registry.withConnection, hc]
    refine reports_of_same (s.quiet_send id m).received (fun j d hd => ?_) fun i => ?_
    · by_cases hj : j = id
      · -- a send that leaves the connection alive leaves it as it was
        subst hj
        have hput := hd.found
        rw [hsent, Registry.get?_put hc ((Connection.id_send m c s.env).trans
          (Registry.id_of_get? hc))] at hput
        obtain rfl := Option.some.inj hput
        refine ⟨?_, hd.alive⟩
        rcases c.send_cases m s.env with ⟨-, hx⟩ | ⟨-, -, hx⟩ | ⟨e, events, -, hx⟩
        · rw [hx]
          exact hc
        · rw [hx]
          exact hc
        · have hdead := hd.alive
          rw [hx] at hdead
          exact absurd hdead Bool.false_ne_true
      · exact hd.of_uses (Use.send m s).uses hj
    · have harrivals := (Connection.writesOn_send m (hs.sound.get? hc).linked).arrivals i
      rw [hsent]
      refine ⟨congrArg Link.bytesOf harrivals, fun hclean e he => hclean e ?_⟩
      rw [← harrivals]
      exact he

/-! ### Connections that are dropped -/

/-- Its number leads to no other connection. -/
theorem not_open_drop (id : ConnectionId) (c : Connection) (hs : Ordered s) :
    ¬ Open id c (s.drop id).2 := by
  intro hc
  have hdistinct : (s.worker.connections.connections.map (·.id)).Nodup := by
    have hroster : (s.worker.connections.roster.map (·.1)).Nodup := hs.distinct
    rw [Registry.roster, List.map_map] at hroster
    exact hroster
  have hmem : c ∈ (s.worker.connections.remove id s.env).2.1.connections :=
    List.mem_of_find?_eq_some hc.found
  rw [Registry.connections_remove, Registry.eraseP_eq_filter hdistinct] at hmem
  exact of_decide_eq_true (List.mem_filter.1 hmem).2 (Registry.id_of_get? hc.found)

theorem reports_drop (id : ConnectionId) (hs : Ordered s) : Reports s (s.drop id).2 := by
  have hnet : (s.drop id).2.env.net = s.env.net := Registry.net_remove id s.worker.connections s.env
  refine reports_of_same (s.quiet_drop id).received (fun j c hc => ?_)
    fun _ => hnet ▸ ⟨rfl, fun h => h⟩
  by_cases hj : j = id
  · subst hj
    exact absurd hc (not_open_drop j c hs)
  · exact hc.of_uses (Use.drop s).uses hj

/-! ### Where a message is read -/

theorem snd_receiveBy (deadline : Option Nat) (hc : s.worker.connections.get? id = some c) :
    (s.receiveBy deadline id).2 =
      { worker := { s.worker with
          connections := s.worker.connections.put (c.receiveWith deadline s.env).2.1 }
        env := (c.receiveWith deadline s.env).2.2 } := by
  cases deadline with
  | some d =>
    rw [receiveBy, receiveUntil, Registry.receiveUntil, Registry.withConnection, hc]
    rfl
  | none =>
    rw [receiveBy, receive_eq hc, Connection.receive_snd]

theorem snd_receiveBy_of_none (deadline : Option Nat)
    (hc : s.worker.connections.get? id = none) : (s.receiveBy deadline id).2 = s := by
  cases deadline with
  | some d => rw [receiveBy, receiveUntil, Registry.receiveUntil, Registry.withConnection, hc]
  | none => rw [receiveBy, receive, Registry.receive, Registry.withConnection, hc]

/-- A receive on an open connection reports the frame that it uses up. -/
theorem reports_of_receive (deadline : Option Nat) (hs : Ordered s) (hc : Open id c s) :
    Reports s (s.receiveBy deadline id).2 := by
  have hstep := hs.sound.get? hc.found
  have hid := Registry.id_of_get? hc.found
  have huses : Uses id s (s.receiveBy deadline id).2 := (Use.receive deadline s).uses
  have hnet := Connection.readsOn_receiveWith deadline hstep.linked
  obtain ⟨taken, htaken⟩ := Connection.exists_takesOff deadline hstep hc.alive
  have hopen {c' : Connection} (hc' : Open id c' (s.receiveBy deadline id).2) :
      c' = (c.receiveWith deadline s.env).2.1 := by
    have hput := hc'.found
    rw [snd_receiveBy deadline hc.found,
      Registry.get?_put hc.found ((Connection.id_receiveWith ..).trans hid)] at hput
    exact (Option.some.inj hput).symm
  have hfrom (j : ConnectionId) : (s.receiveBy deadline id).2.env.receivedFrom j
      = s.env.receivedFrom j ++ if j = id then taken.map (·.withOrigin id) else [] := by
    rw [snd_receiveBy deadline hc.found, Environment.receivedFrom, htaken.reported,
      List.filter_append, hid, filter_withOrigin]
    rfl
  refine ⟨fun j hshut => ?_, fun j d hd hclean => ?_⟩
  · -- some other connection, which this one has nothing to do with
    have hj : j ≠ id := by
      rintro rfl
      exact hshut c hc
    refine ⟨?_, fun d hd => hshut d (hd.of_uses huses hj)⟩
    rw [hfrom, if_neg hj, List.append_nil]
  · by_cases hj : j = id
    · subst hj
      obtain rfl := hc.unique hd
      refine ⟨taken, by rw [hfrom, if_pos rfl], htaken.front, fun c' hc' => ?_⟩
      obtain rfl := hopen hc'
      rw [snd_receiveBy deadline hc.found]
      exact htaken.usesUp hc'.alive hclean
    · -- no other link was read
      have hlink : (s.receiveBy deadline id).2.env.net.link d.link = s.env.net.link d.link := by
        rw [snd_receiveBy deadline hc.found]
        exact hnet.others _ (hs.sound.link_ne hc.found hd.found hj)
      refine ⟨[], by rw [hfrom, if_neg hj]; rfl, List.nil_prefix, fun d' hd' => ?_⟩
      obtain rfl := hd.unique (hd'.of_uses huses hj)
      refine ⟨rfl, hlink ▸ hclean, ?_⟩
      rw [Connection.stream, hlink]
      rfl

theorem reports_receiveBy (deadline : Option Nat) (id : ConnectionId) (hs : Ordered s) :
    Reports s (s.receiveBy deadline id).2 := by
  cases hc : s.worker.connections.get? id with
  | none =>
    rw [snd_receiveBy_of_none deadline hc]
    exact .refl s
  | some c =>
    cases ha : c.alive with
    | true => exact reports_of_receive deadline hs ⟨hc, ha⟩
    | false =>
      -- nothing is read on a connection that is dead
      have hsame : (s.receiveBy deadline id).2 = s := by
        rw [snd_receiveBy deadline hc, Connection.receiveWith_of_dead ha, Registry.put_self hc]
      rw [hsame]
      exact .refl s

/-! ### Whatever the coordinator does -/

theorem Use.ordered (h : Use id s t) (hs : Ordered s) : Ordered t := by
  refine ⟨h.moves.sound hs.sound, ?_⟩
  cases h with
  | report event => exact hs.distinct
  | send m =>
    rw [standing_send]
    exact hs.distinct
  | receive deadline =>
    rw [standing_receiveBy]
    exact hs.distinct
  | takeAnnouncement m =>
    rw [standing_takeAnnouncement]
    exact hs.distinct
  | defer m => exact hs.distinct
  | drop =>
    rw [standing_drop]
    exact hs.distinct.sublist (List.eraseP_sublist.map _)
  | terminate =>
    rw [standing_terminate, Standing.roster_ended]
    exact hs.distinct

theorem Use.reports (h : Use id s t) (hs : Ordered s) : Reports s t := by
  cases h with
  | report event s silent => exact (quiet_report event silent s).reports rfl rfl
  | send m => exact reports_send id m hs
  | receive deadline => exact reports_receiveBy deadline id hs
  | takeAnnouncement m =>
    exact (s.quiet_takeAnnouncement m).reports (s.connections_takeAnnouncement m)
      (s.net_takeAnnouncement m)
  | defer m =>
    exact reports_of_same (s.received_defer m) (fun _ _ hc => ⟨hc.found, hc.alive⟩)
      fun _ => ⟨rfl, fun h => h⟩
  | drop => exact reports_drop id hs
  | terminate => exact s.quiet_terminate.reports s.connections_terminate rfl

theorem Step.ordered (h : Step s t) (hs : Ordered s) : Ordered t := by
  cases h with
  | use use => exact use.ordered hs
  | poll deadline =>
    exact ⟨(moves_pollWatched deadline s).sound hs.sound, hs.distinct⟩
  | takeAnnouncement m =>
    refine ⟨(moves_takeAnnouncement m s).sound hs.sound, ?_⟩
    rw [standing_takeAnnouncement]
    exact hs.distinct
  | pop => exact ⟨hs.sound, hs.distinct⟩

theorem Step.reports (h : Step s t) (hs : Ordered s) : Reports s t := by
  cases h with
  | use use => exact use.reports hs
  | poll deadline => exact reports_pollWatched deadline s
  | takeAnnouncement m =>
    exact (s.quiet_takeAnnouncement m).reports (s.connections_takeAnnouncement m)
      (s.net_takeAnnouncement m)
  | pop =>
    exact reports_of_same rfl (fun _ _ hc => ⟨hc.found, hc.alive⟩) fun _ => ⟨rfl, fun h => h⟩

/-- **Whatever the coordinator does, what is reported from a connection are the whole frames that
were used up on it, in order.** -/
theorem Steps.reports (h : Steps s t) (hs : Ordered s) : Reports s t := by
  refine (h.keeps (P := fun s t => Ordered s → Ordered t ∧ Reports s t)
    (fun s hs => ⟨hs, .refl s⟩) (fun h h' hs => ?_)
    fun step hs => ⟨step.ordered hs, step.reports hs⟩) hs |>.2
  obtain ⟨ht, hreports⟩ := h hs
  obtain ⟨hu, hreports'⟩ := h' ht
  exact ⟨hu, hreports.trans hreports'⟩

/-! ### Calls -/

/-- The call makes connections. -/
def Call.connects : Call → Bool
  | .handshake | .addConnection .. => true
  | _ => false

theorem steps_run (call : Call) (h : call.connects = false) (s : Session) :
    Steps s (call.run s).2 := by
  cases call with
  | handshake => cases h
  | wait => exact s.steps_wait
  | check timeout => exact s.steps_waitUntil _
  | exchange id request expected => exact (s.uses_exchange id request expected).steps
  | exchangeWithDatamanager request expected =>
    exact s.steps_exchangeWithDatamanager request expected
  | receiveFromDatamanager => exact s.steps_receiveFromDatamanager
  | popDeferred => exact Relation.ReflTransGen.single (.pop s)
  | addConnection role endpoint port timeout => cases h

end Session

/-- **What a call adds to the books are the whole frames that it uses up**, connection by
connection. -/
theorem Ledger.Sound.read_enter {l : Ledger} {s : Session} (h : Sound s l)
    (hs : l.session.Ordered) {call : Session.Call} (hcall : call.connects = false) :
    ∃ read, (l.enter (.call call)).read = l.read ++ read ∧
      (∀ m ∈ read, ∃ id c, m.origin = some id ∧ Session.Open id c l.session) ∧
      ∀ id c, Session.Open id c l.session → (l.session.env.net.link c.link).IsClean →
        ∃ taken, read.filter (·.origin = some id) = taken.map (·.withOrigin id) ∧
          taken <+: Frame.messages (c.stream l.session.env.net) ∧
          ∀ c', Session.Open id c' (l.enter (.call call)).session →
            Connection.UsesUp taken c l.session.env.net c'
              (l.enter (.call call)).session.env.net := by
  obtain ⟨read, hread⟩ := (Session.balance_run call h.balance.proper).received
  have hreports := (Session.steps_run call hcall l.session).reports hs
  have hfrom (id : ConnectionId) : (call.run l.session).2.env.receivedFrom id
      = l.session.env.receivedFrom id ++ read.filter (·.origin = some id) := by
    rw [Environment.receivedFrom, ← hread, List.filter_append]
    rfl
  refine ⟨read, ?_, fun m hm => ?_, fun id c hc hclean => ?_⟩
  · show l.read ++ Session.readBetween _ _ = _
    rw [Session.readBetween_eq hread.symm]
  · obtain ⟨id, horigin⟩ : ∃ id, m.origin = some id := by
      refine (call.run l.session).2.env.origin_of_mem_received ?_
      rw [← hread]
      exact List.mem_append_right _ hm
    by_cases hopen : ∃ c, Session.Open id c l.session
    · obtain ⟨c, hc⟩ := hopen
      exact ⟨id, c, horigin, hc⟩
    · -- nothing is reported from connections that are not open
      have hsame := (hreports.shut id fun c hc => hopen ⟨c, hc⟩).1
      rw [hfrom, List.append_right_eq_self] at hsame
      have hmem : m ∈ read.filter (·.origin = some id) :=
        List.mem_filter.2 ⟨hm, decide_eq_true horigin⟩
      rw [hsame] at hmem
      exact absurd hmem List.not_mem_nil
  · obtain ⟨taken, htaken, hfront, hup⟩ := hreports.opened id c hc hclean
    rw [hfrom] at htaken
    exact ⟨taken, List.append_cancel_left htaken, hfront, hup⟩

end PipelineWorker
