/-
Who refers a worker to its datamanager.

The handshake takes the message that its wait hands out for the word of the controller.  Messages
that were deferred before come first, and nobody asks who sent them.

* `Reachable.defersProper`, `Reachable.unappointed` — what holds of a worker before its handshake;
* `waitUntil_first` — a wait with one connection to watch and nothing deferred hands out the first
  message of that connection that is no announcement;
* `dials_as_referred` — **the datamanager is dialled where the oldest deferred message says; only
  where none is deferred, it is where the controller says**.
-/
import PipelineWorker.Proofs.Destination
import PipelineWorker.Proofs.Fatality
import PipelineWorker.Proofs.Transparency

namespace PipelineWorker

/-! ### Before the handshake -/

/-- Before its handshake the worker takes no connection for its controller or its datamanager. -/
def Standing.Unappointed (p : Standing) : Prop :=
  p.stage = .unstarted → p.controller = none ∧ p.datamanager = none

namespace Session

open Standing

theorem Use.unappointed {id : ConnectionId} {s t : Session} (h : Use id s t)
    (hs : s.standing.Unappointed) : t.standing.Unappointed := by
  cases h with
  | report event => exact hs
  | send m => rwa [standing_send]
  | receive deadline => rwa [standing_receiveBy]
  | takeAnnouncement m => rwa [standing_takeAnnouncement]
  | defer m => exact hs
  | drop =>
    rw [standing_drop]
    intro hstage
    obtain ⟨hcontroller, hdatamanager⟩ := hs hstage
    rw [without, hcontroller, hdatamanager]
    exact ⟨rfl, rfl⟩
  | terminate =>
    rw [standing_terminate, ended]
    split
    · exact hs
    · intro hstage
      cases hstage

theorem Steps.unappointed {s t : Session} (h : Steps s t) (hs : s.standing.Unappointed) :
    t.standing.Unappointed := by
  refine h.keeps (P := fun s t => s.standing.Unappointed → t.standing.Unappointed)
    (fun _ hs => hs) (fun h h' hs => h' (h hs)) (fun step hs => ?_) hs
  cases step with
  | use use => exact use.unappointed hs
  | poll deadline => exact hs
  | takeAnnouncement m => rwa [standing_takeAnnouncement]
  | pop => exact hs

theorem stage_handshake_ne (s : Session) : s.handshake.2.worker.stage ≠ .unstarted := by
  intro hstage
  by_cases hs : s.worker.stage = .unstarted
  · cases hsteps : s.handshake with
    | mk x t =>
      rw [hsteps] at hstage
      cases x with
      | error e =>
        rw [handshake, if_neg fun hne => hne hs] at hsteps
        split at hsteps
        · cases hsteps
        · obtain rfl := (Prod.mk.inj hsteps).2
          cases hstage
      | ok _ =>
        obtain ⟨m, port, id, reply, t₁, t₂, t₃, t₄, t₅, t₆, t₇, h⟩ := (handshake_eq_ok hs).1 hsteps
        have hrunning : t.standing = { t₆.standing with stage := .running } := by
          rw [h.finish, standing_report, standing_of_announcePid h.announcePid]
        cases hstage.symm.trans (congrArg Standing.stage hrunning)
  · rw [handshake_of_stage_ne hs] at hstage
    exact hs hstage

/-- No operation makes an appointment but the handshake, which runs only once. -/
theorem unappointed_run (call : Call) {s : Session} (hs : s.standing.Unappointed) :
    (call.run s).2.standing.Unappointed := by
  cases call with
  | handshake => exact fun hstage => absurd hstage s.stage_handshake_ne
  | wait => exact s.steps_wait.unappointed hs
  | check timeout => exact (s.steps_waitUntil _).unappointed hs
  | exchange id request expected => exact (s.uses_exchange id request expected).steps.unappointed hs
  | exchangeWithDatamanager request expected =>
    exact (s.steps_exchangeWithDatamanager request expected).unappointed hs
  | receiveFromDatamanager => exact s.steps_receiveFromDatamanager.unappointed hs
  | popDeferred => exact hs
  | addConnection role endpoint port timeout => exact hs

theorem Reachable.unappointed {s : Session} (h : Reachable s) : s.standing.Unappointed := by
  induction h with
  | fresh config pid env => exact fun _ => ⟨rfl, rfl⟩
  | call _ call ih => exact unappointed_run call ih
  | @sendToDatamanager s _ m ih => exact (s.steps_sendToDatamanager m).unappointed ih
  | @shutdown s _ ih =>
    intro hstage
    cases hstage.symm.trans s.ended_shutdown.1
  | send _ id m ih => rwa [standing_send]
  | receive _ id ih => rwa [standing_receive]
  | receiveUntil _ id deadline ih => rwa [standing_receiveUntil]
  | remove _ id ih => exact ih
  | meanwhile _ passes ih => exact ih

/-- **No announcement is ever deferred.** -/
theorem Reachable.defersProper {s : Session} (h : Reachable s) : DefersProper s := by
  induction h with
  | fresh config pid env => exact fun m hm => absurd hm List.not_mem_nil
  | call _ call ih => exact (balance_run call ih).proper
  | @sendToDatamanager s _ m ih => exact ih.of_quiet (s.quiet_sendToDatamanager m)
  | @shutdown s _ ih =>
    rw [DefersProper, queue_shutdown]
    exact ih
  | @send s _ id m ih => exact ih.of_quiet (s.quiet_send id m)
  | receive _ id ih => exact ih
  | receiveUntil _ id deadline ih => exact ih
  | remove _ id ih => exact ih
  | meanwhile _ passes ih => exact ih

/-! ### The wait of the handshake -/

section

variable {id : ConnectionId} {c : Connection} {s t : Session} {m : Message}

/-- With one connection to watch and nothing deferred, the next message is the first one on its
stream. -/
theorem nextMessage_first (hs : s.worker.connections.Sound s.env.net)
    (hq : s.worker.queue.items = []) (hw : s.worker.watched = [id])
    (hc : s.worker.connections.get? id = some c) (h : s.nextMessage none = (.ok (some m), t)) :
    ∃ m₀ n c', m = m₀.withOrigin id ∧ Frame.decode (c.stream s.env.net) = .ok (m₀, n) ∧
      Hears id c c' (s.polled none) t ∧ t.worker.queue.items = [] ∧
      c'.stream t.env.net = (c.stream s.env.net).drop n := by
  obtain ⟨i, hi, hread⟩ := readFrom_of_nextMessage hq h
  rw [hw, List.mem_singleton] at hi
  subst hi
  have hsound := (s.steps_polled none).moves.sound hs
  obtain ⟨m₀, n, c', hm, hd, hears, hqueue, -, -, hrest, -⟩ :=
    readFrom_ok (s := s.polled none) hc (hsound.get? hc) hread
  rw [stream_polled] at hd hrest
  refine ⟨m₀, n, c', hm, hd, hears, ?_, hrest⟩
  rw [hqueue]
  exact (MessageQueue.pop_of_items_nil hq).2

/-- `m` comes from connection `id`, whose stream is `bs`, and is the first there that is no
announcement. -/
structure FirstProper (id : ConnectionId) (bs : Bytes) (m : Message) : Prop where
  origin : m.origin = some id
  first : ∃ passed, passed ++ [m] <+: (Frame.messages bs).map (·.withOrigin id) ∧
    proper passed = []

/-- **A wait with one connection to watch and nothing deferred hands out the first message of that
connection that is no announcement.** -/
theorem waitUntil_first (hs : s.worker.connections.Sound s.env.net)
    (hq : s.worker.queue.items = []) (hw : s.worker.watched = [id])
    (hc : s.worker.connections.get? id = some c) (h : (s.waitUntil none).1 = .ok (some m)) :
    FirstProper id (c.stream s.env.net) m := by
  -- The induction follows the messages that are read; behind an announcement the wait goes on.
  generalize hd : (none : Option Nat) = deadline at h
  fun_induction waitUntil deadline s generalizing c with
  | case1 => cases h
  | case2 => cases h
  | case3 => cases h
  | case4 s m' t hn hk u ht ih =>
    -- an announcement, which the first proper message stands behind
    subst hd
    obtain ⟨m₀, n, c', rfl, hd, hears, hempty, hrest⟩ := nextMessage_first hs hq hw hc hn
    have htake := Hears.takeAnnouncement hears.live (m₀.withOrigin id)
    have hqueue := t.queue_takeAnnouncement (m₀.withOrigin id)
    have hnet := t.net_takeAnnouncement (m₀.withOrigin id)
    rw [ht] at htake hqueue hnet
    have hwatched : u.worker.watched = [id] := by
      rw [htake.worker, hears.worker]
      exact hw
    obtain ⟨horigin, passed, hprefix, hproper⟩ :=
      ih (sound_of_takeAnnouncement (sound_of_nextMessage hs hn) ht) (by rw [hqueue, hempty])
        hwatched htake.live.found h
    rw [hnet, hrest] at hprefix
    refine ⟨horigin, m₀.withOrigin id :: passed, ?_, ?_⟩
    · rw [Frame.messages_eq_cons hd, List.map_cons]
      exact List.cons_prefix_cons.2 ⟨rfl, hprefix⟩
    · rw [proper_cons_announcement hk, hproper]
  | case5 s m' t hn hk =>
    -- a message that is no announcement is the first one
    subst hd
    obtain rfl : m' = m := Option.some.inj (Except.ok.inj h)
    obtain ⟨m₀, n, c', rfl, hd, -⟩ := nextMessage_first hs hq hw hc hn
    refine ⟨rfl, [], ?_, proper_nil⟩
    rw [Frame.messages_eq_cons hd, List.map_cons]
    exact List.cons_prefix_cons.2 ⟨rfl, List.nil_prefix⟩

/-- Where something is deferred, a wait hands the oldest of that out. -/
theorem wait_of_deferred (hproper : DefersProper s) (holdest : s.worker.queue.items.head? = some m) :
    s.wait.1 = .ok m := by
  have hpop : s.popDeferred = (some m, s.popDeferred.2) := by
    refine Prod.ext ?_ rfl
    rw [← holdest, ← MessageQueue.head?_turned]
    rfl
  have hkind : m.kind ≠ .newSharedSegment := hproper m (List.mem_of_head? holdest)
  have hnext : s.nextMessage none = (.ok (some m), s.popDeferred.2) := by
    rw [nextMessage, hpop]
  rw [wait_eq, waitUntil_eq, hnext]
  dsimp only
  rw [if_neg hkind]
  rfl

/-! ### The word of the controller -/

/-- What a worker takes for the word of its controller, which it has reached in `a`. -/
inductive Word (s a : Session) (m : Message) : Prop
  /-- The oldest deferred message. -/
  | deferred (oldest : s.worker.queue.items.head? = some m)
  /-- Where none is deferred, what the handshake hears on the connection that it has made. -/
  | controller {c : Connection} (nothing : s.worker.queue.items = [])
      (found : a.worker.connections.get? ⟨s.worker.connections.nextId⟩ = some c)
      (first : FirstProper ⟨s.worker.connections.nextId⟩ (c.stream a.env.net) m)
      (controller : a.wait.2.worker.controller = some ⟨s.worker.connections.nextId⟩)
      (heard : a.wait.1 = .ok m)

/-- The number that was given to the controller leads to a connection. -/
theorem found_of_contactController {a : Session}
    (h : Coordinated.contactController s = (.ok (), a)) :
    ∃ c, a.worker.connections.get? ⟨s.worker.connections.nextId⟩ = some c := by
  obtain ⟨endpoint, id, u, -, -, hadd, rfl⟩ := Coordinated.contactController_eq_ok.1 h
  obtain ⟨rfl, l, -, hadds⟩ := addConnection_ok hadd
  refine Option.isSome_iff_exists.1 ?_
  show (u.worker.connections.get? _).isSome
  rw [hadds.worker, Registry.get?, List.find?_isSome]
  exact ⟨_, List.mem_append_right _ List.mem_cons_self, decide_eq_true rfl⟩

/-- **The word of the controller is the oldest deferred message; only where none is deferred, it is
the controller's.** -/
theorem wait_eq_ok_iff_word {a : Session} (h : Reachable s) (hs : s.worker.stage = .unstarted)
    (hcontact : Coordinated.contactController s = (.ok (), a)) :
    a.wait.1 = .ok m ↔ Word s a m := by
  have hqueue : a.worker.queue = s.worker.queue := by
    have hquiet := lasting_quiet.contactController s
    rw [hcontact] at hquiet
    exact hquiet.queue
  have hproper : DefersProper a := by
    rw [DefersProper, hqueue]
    exact h.defersProper
  constructor
  · intro hwait
    cases hitems : s.worker.queue.items with
    | cons m' ms =>
      have holdest : s.worker.queue.items.head? = some m' := by rw [hitems, List.head?_cons]
      rw [← hqueue] at holdest
      rw [wait_of_deferred hproper holdest] at hwait
      obtain rfl := Except.ok.inj hwait
      exact .deferred (hqueue ▸ holdest)
    | nil =>
      have hsound : a.worker.connections.Sound a.env.net := by
        have hmoves := lasting_moves.contactController s
        rw [hcontact] at hmoves
        exact hmoves.sound h.sound
      have hstanding := standing_of_contactController hcontact
      have hwatched : a.standing.watched = [⟨s.worker.connections.nextId⟩] := by
        have hnobody : s.standing.datamanager = none := (h.unappointed hs).2
        rw [hstanding, Standing.watched]
        dsimp only [Standing.joined]
        rw [hnobody]
        rfl
      obtain ⟨c, hc⟩ := found_of_contactController hcontact
      have huntil : (a.waitUntil none).1 = .ok (some m) := by
        rw [wait_eq] at hwait
        generalize (a.waitUntil none).1 = x at hwait ⊢
        rcases x with e | _ | m'
        · cases hwait
        · cases hwait
        · obtain rfl : m' = m := Except.ok.inj hwait
          rfl
      refine .controller hitems hc (waitUntil_first hsound (by rw [hqueue, hitems]) hwatched hc
        huntil) ?_ hwait
      show a.wait.2.standing.controller = _
      rw [standing_of_wait hsound (Prod.ext hwait rfl), hstanding]
      rfl
  · rintro (holdest | ⟨-, -, -, -, heard⟩)
    · exact wait_of_deferred hproper (hqueue ▸ holdest)
    · exact heard

/-- **The datamanager is dialled where the oldest deferred message says; only where none is deferred,
it is where the controller says.** -/
theorem dials_as_referred (h : Reachable s) (hs : s.worker.stage = .unstarted) (addr : Ipv4)
    (port : Port) :
    (Dials s addr port ↔
      Sought s addr ∧ (port = s.worker.config.controllerPort ∨ Referred s port)) ∧
    (Referred s port ↔ ∃ a m, Coordinated.contactController s = (.ok (), a) ∧ Word s a m ∧
      m.kind = .appContactDm ∧ DatamanagerAssignment.decode m.payload.toList = .ok ⟨port⟩) := by
  refine ⟨⟨sought_of_dials, ?_⟩, ?_, ?_⟩
  · rintro ⟨hsought, rfl | hreferred⟩
    · exact dials_controller hs hsought
    · exact dials_datamanager hs hsought hreferred
  · rintro ⟨t, ht⟩
    obtain ⟨_, a, hcontact, ht⟩ := Coordinated.bind_eq_ok.1 ht
    obtain ⟨m, u, hwait, hassigned⟩ := Coordinated.bind_eq_ok.1 ht
    obtain ⟨hkind, hnames, -⟩ := Coordinated.assigned_eq_ok.1 hassigned
    exact ⟨a, m, hcontact, (wait_eq_ok_iff_word h hs hcontact).1 (congrArg Prod.fst hwait), hkind,
      hnames⟩
  · rintro ⟨a, m, hcontact, hword, hkind, hnames⟩
    have hwait := (wait_eq_ok_iff_word h hs hcontact).2 hword
    exact ⟨_, Coordinated.bind_eq_ok.2 ⟨(), a, hcontact, Coordinated.bind_eq_ok.2
      ⟨m, a.wait.2, Prod.ext hwait rfl, Coordinated.assigned_eq_ok.2 ⟨hkind, hnames, rfl⟩⟩⟩⟩

end

end Session

/-- A peer that names a port, like a controller, in front of its answer. -/
def Listener.meddling : Listener where
  addr := .loopback
  port := 6000
  script := [(0, .data [0, 0, 0, 12, 0, 0, 0, 4, 0, 0, 30, 97, 0, 0, 0, 6, 0, 0, 0, 0])]

namespace Session

/-- A new worker that has asked that peer before its handshake. -/
def meddled : Session :=
  let joined := (Call.addConnection .peer ⟨.loopback, "127.0.0.1"⟩ 6000 none).run
    (fresh (.ofController "127.0.0.1" 4000) 7
      { net := { listeners := [.assigning, .supplying, .meddling] } })
  ((Call.exchange ⟨0⟩ (.empty .start) [.info]).run joined.2).2

theorem reachable_meddled : Reachable meddled :=
  ((Reachable.fresh _ _ _).call (.addConnection .peer _ _ none)).call (.exchange ⟨0⟩ _ _)

/-- It dials where the peer says. -/
theorem dials_as_referred_meddled :
    Reachable meddled ∧ meddled.worker.stage = .unstarted ∧ Referred meddled 7777 ∧
      Dials meddled .loopback 7777 := by
  have hstage : meddled.worker.stage = .unstarted := by decide +kernel
  have hsought : Sought meddled .loopback :=
    ⟨⟨.loopback, "127.0.0.1"⟩, by decide +kernel, by decide, rfl⟩
  have hcontact : (Coordinated.contactController meddled).1 = .ok () := by decide +kernel
  have holdest : meddled.worker.queue.items.head? =
      some ((Message.ofBytes .appContactDm [0, 0, 30, 97]).withOrigin ⟨0⟩) := by decide +kernel
  obtain ⟨hdials, hreferred⟩ := dials_as_referred reachable_meddled hstage .loopback 7777
  have hpeer : Referred meddled 7777 := hreferred.2
    ⟨_, _, Prod.ext hcontact rfl, .deferred holdest, by decide, by decide⟩
  exact ⟨reachable_meddled, hstage, hpeer, hdials.2 ⟨hsought, .inr hpeer⟩⟩

/-- There the port of the datamanager comes from the peer, over connection 0, and the connection to
the controller is number 1. -/
theorem referred_by_peer :
    Reachable meddled ∧ meddled.worker.stage = .unstarted ∧ Dials meddled .loopback 7777 ∧
      (7777 : Port) ≠ meddled.worker.config.controllerPort ∧
      (meddled.worker.connections.get? ⟨0⟩).map (·.role) = some .peer ∧
      meddled.handshakeWait?.map (fun r => (r.1.toOption.bind (·.origin), r.2.worker.controller)) =
        some (some ⟨0⟩, some ⟨1⟩) := by
  have hstage : meddled.worker.stage = .unstarted := by decide +kernel
  have hsought : Sought meddled .loopback :=
    ⟨⟨.loopback, "127.0.0.1"⟩, by decide +kernel, by decide, rfl⟩
  have hreferred : Referred meddled 7777 := ⟨_, Prod.ext (by decide +kernel) rfl⟩
  exact ⟨reachable_meddled, hstage, dials_datamanager hstage hsought hreferred, by decide +kernel,
    by decide +kernel, by decide +kernel⟩

end Session

end PipelineWorker
