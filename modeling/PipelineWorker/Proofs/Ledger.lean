/-
Messages over whole runs.

A `Ledger` follows a worker from its start through any calls, and writes down the messages that were
read and those that were handed out.

* `progress_handshake` — how far a handshake gets, and what it receives on the way;
* `balance_run` — each call keeps the books balanced;
* `Ledger.balanced` — **no message is lost, doubled or reordered by being deferred.**

What was read is told by the report; `Proofs/Reporting` shows that these are the whole frames that
were taken off the streams.
-/
import PipelineWorker.Proofs.Deferral

namespace PipelineWorker

namespace Session

/-! ### Inside the handshake -/

/-- The wait of the handshake, if it gets that far. -/
def handshakeWait? (s : Session) : Option (Except CoordinatorError Message × Session) :=
  if s.worker.stage = .unstarted then
    match Coordinated.contactController s with
    | (.ok (), t) => some t.wait
    | (.error _, _) => none
  else none

/-- The steps of the handshake before its exchange. -/
def introduction : Coordinated ConnectionId := do
  Coordinated.contactController
  let m ← Session.wait
  let port ← Coordinated.assigned m
  Coordinated.contactDatamanager port

/-- The exchange of the handshake, if it gets that far. -/
def handshakeExchange? (s : Session) : Option (Except CoordinatorError Message × Session) :=
  if s.worker.stage = .unstarted then
    match introduction s with
    | (.ok datamanager, t) => some (Coordinated.requestSegment datamanager t)
    | (.error _, _) => none
  else none

/-- How far a handshake gets: not to its wait, or to its wait only, or to its exchange. -/
inductive Progress (s t : Session) : Prop
  | none (noWait : s.handshakeWait? = none) (noExchange : s.handshakeExchange? = none)
      (quiet : Quiet s t)
  | waited {a : Session} (before : Quiet s a) (wait : s.handshakeWait? = some a.wait)
      (noExchange : s.handshakeExchange? = none) (after : Quiet a.wait.2 t)
  | exchanged {a b : Session} {m : Message} {id : ConnectionId} (before : Quiet s a)
      (wait : s.handshakeWait? = some a.wait) (waited : a.wait.1 = .ok m)
      (kind : m.kind = .appContactDm) (between : Quiet a.wait.2 b)
      (exchange : s.handshakeExchange? = some (b.exchange id (.empty .getShmKey) [.getShmKey]))
      (after : Quiet (b.exchange id (.empty .getShmKey) [.getShmKey]).2 t)

theorem kind_of_assigned {m : Message} {s t : Session} {port : Port}
    (h : Coordinated.assigned m s = (.ok port, t)) : m.kind = .appContactDm := by
  by_cases hk : m.kind = .appContactDm
  · exact hk
  · rw [Coordinated.assigned, if_pos hk] at h
    cases h

/-- The steps of the handshake behind its exchange. -/
def conclusion (reply : Message) : Coordinated Unit := do
  Coordinated.assignedSegment reply
  Coordinated.announcePid
  let p := (← get).worker
  Coordinated.report (.moduleRunning p.config.moduleName p.config.moduleId p.pid)

theorem handshakeSteps_eq : Coordinated.handshakeSteps = (do
    let datamanager ← introduction
    let reply ← Coordinated.requestSegment datamanager
    conclusion reply) := by
  simp only [Coordinated.handshakeSteps, introduction, conclusion, Coordinated.awaitAssignment_eq,
    Coordinated.obtainSegment_eq, bind_assoc]

/-- Behind its exchange the handshake receives nothing. -/
theorem quiet_conclusion (reply : Message) : Coordinated.Keeps Quiet (conclusion reply) := by
  have h := lasting_quiet
  refine h.bind (h.assignedSegment reply) fun _ => h.bind ?_ fun _ => ?_
  · exact h.bind h.get fun _ => h.bind (quiet_sendToDatamanager _) fun _ => h.enter _
  · exact h.bind h.get fun _ => h.report rfl

theorem quiet_handshake {s : Session} (hs : s.worker.stage = .unstarted) :
    Quiet (Coordinated.handshakeSteps s).2 s.handshake.2 := by
  rw [handshake, if_neg (by rw [hs]; exact fun h => h rfl)]
  generalize Coordinated.handshakeSteps s = r
  rcases r with ⟨e | u, t⟩
  · have hquiet := t.quiet_report (.handshakeFailed t.worker.stage t.worker.config.moduleName e) rfl
    exact ⟨hquiet.received, rfl⟩
  · exact .refl t

theorem Progress.trans {s t u : Session} (h : Progress s t) (hq : Quiet t u) : Progress s u := by
  cases h with
  | none noWait noExchange quiet => exact .none noWait noExchange (quiet.trans hq)
  | waited before wait noExchange after => exact .waited before wait noExchange (after.trans hq)
  | exchanged before wait waited kind between exchange after =>
    exact .exchanged before wait waited kind between exchange (after.trans hq)

/-- Before its exchange the handshake receives nothing but what it waits for. -/
theorem introduction_progress {s : Session} (hs : s.worker.stage = .unstarted) :
    (s.handshakeWait? = none ∧ (∃ e, (introduction s).1 = .error e) ∧
      Quiet s (introduction s).2) ∨
    ∃ a, Quiet s a ∧ s.handshakeWait? = some a.wait ∧ Quiet a.wait.2 (introduction s).2 ∧
      ∀ id, (introduction s).1 = .ok id →
        ∃ m, a.wait.1 = .ok m ∧ m.kind = .appContactDm := by
  have h := lasting_quiet
  have hcontact := h.contactController s
  rw [handshakeWait?, if_pos hs, introduction, Coordinated.run_bind]
  generalize Coordinated.contactController s = r at hcontact ⊢
  rcases r with ⟨e | u, a⟩
  · exact .inl ⟨rfl, ⟨e, rfl⟩, hcontact⟩
  · refine .inr ⟨a, hcontact, rfl, ?_⟩
    dsimp only
    rw [Coordinated.run_bind]
    generalize a.wait = w
    rcases w with ⟨e | m, t⟩
    · exact ⟨.refl t, fun _ h => nomatch h⟩
    · refine ⟨h.bind (h.assigned m) h.contactDatamanager t, fun id hid => ⟨m, rfl, ?_⟩⟩
      obtain ⟨port, u, hport, -⟩ := Coordinated.bind_eq_ok.1 (Prod.ext hid rfl)
      exact kind_of_assigned hport

/-- From its exchange on, the handshake receives nothing but what it exchanges. -/
theorem quiet_afterIntroduction {s t : Session} {id : ConnectionId}
    (h : introduction s = (.ok id, t)) :
    Quiet (Coordinated.requestSegment id t).2 (Coordinated.handshakeSteps s).2 := by
  rw [handshakeSteps_eq, Coordinated.run_bind, h]
  dsimp only
  rw [Coordinated.run_bind]
  generalize Coordinated.requestSegment id t = r
  rcases r with ⟨e | reply, u⟩
  · exact .refl u
  · exact quiet_conclusion reply u

/-- How far the first steps get decides how far the handshake gets. -/
theorem progress_handshake (s : Session) : Progress s s.handshake.2 := by
  by_cases hs : s.worker.stage = .unstarted
  · refine Progress.trans ?_ (quiet_handshake hs)
    have hintro := introduction_progress hs
    cases hr : introduction s with
    | mk x t =>
      rw [hr] at hintro
      cases x with
      | error e =>
        have hnone : s.handshakeExchange? = none := by rw [handshakeExchange?, if_pos hs, hr]
        rw [handshakeSteps_eq, Coordinated.run_bind, hr]
        rcases hintro with ⟨hwait, -, hq⟩ | ⟨a, hbefore, hwait, hafter, -⟩
        · exact .none hwait hnone hq
        · exact .waited hbefore hwait hnone hafter
      | ok id =>
        have hsome : s.handshakeExchange? = some (Coordinated.requestSegment id t) := by
          rw [handshakeExchange?, if_pos hs, hr]
        rcases hintro with ⟨-, ⟨e, he⟩, -⟩ | ⟨a, hbefore, hwait, hafter, hkind⟩
        · cases he
        · obtain ⟨m, hm, hk⟩ := hkind id rfl
          have henter := lasting_quiet.enter .awaitingKey t
          exact .exchanged hbefore hwait hm hk (hafter.trans henter) hsome
            (quiet_afterIntroduction hr)
  · have hsame : s.handshake.2 = s := by rw [handshake, if_pos hs]
    rw [hsame]
    exact .none (if_neg hs) (if_neg hs) (.refl s)

/-! ### The books -/

/-- The messages that were read between two sessions. -/
def readBetween (s t : Session) : List Message := t.env.received.drop s.env.received.length

/-- The answer of the exchange that a call makes, if it makes one. -/
def Call.exchanged? (call : Call) (s : Session) : Option (Except CoordinatorError Message) :=
  match call with
  | .handshake => s.handshakeExchange?.map (·.1)
  | .exchange id request expected => some (s.exchange id request expected).1
  | .exchangeWithDatamanager request expected =>
    some (s.exchangeWithDatamanager request expected).1
  | _ => none

/-- What a call reads and has to account for: neither announcements that it takes up, nor a message
that is its answer, nor the farewell that ended its exchange. -/
def Call.kept (call : Call) (s : Session) : List Message :=
  let read := readBetween s (call.run s).2
  match call with
  | .wait | .check _ => proper read
  | .handshake | .exchange .. | .exchangeWithDatamanager .. =>
    match call.exchanged? s with
    | some x => besides x (proper read)
    | none => proper read
  | .receiveFromDatamanager =>
    match s.receiveFromDatamanager.1 with
    | .ok m => withoutLast m read
    | .error _ => read
  | .popDeferred | .addConnection .. => read

/-- What a call takes from the queue, or would have taken from there. -/
def Call.handed (call : Call) (s : Session) : List Message :=
  match call with
  | .handshake =>
    match s.handshakeWait? with
    | some r => outcome (r.1.map some)
    | none => []
  | .wait => outcome (s.wait.1.map some)
  | .check timeout => outcome (s.check timeout).1
  | .popDeferred => s.popDeferred.1.toList
  | .exchange .. | .exchangeWithDatamanager .. | .receiveFromDatamanager | .addConnection .. => []

/-- No announcement is among the deferred messages. -/
def DefersProper (s : Session) : Prop :=
  ∀ m ∈ s.worker.queue.items, m.kind ≠ .newSharedSegment

/-- From `s` to `t` the messages `kept` came in and `handed` went out, in order. -/
structure Balance (kept handed : List Message) (s t : Session) : Prop where
  items : s.worker.queue.items ++ kept = handed ++ t.worker.queue.items
  /-- Nothing that was read before is struck out. -/
  received : s.env.received <+: t.env.received
  proper : DefersProper t

theorem readBetween_eq {ms : List Message} {s t : Session}
    (h : t.env.received = s.env.received ++ ms) : readBetween s t = ms := by
  rw [readBetween, h, List.drop_left]

theorem DefersProper.of_quiet {s t : Session} (hs : DefersProper s) (h : Quiet s t) :
    DefersProper t := by
  rw [DefersProper, h.queue]
  exact hs

/-- What was handed out and what is left is what was deferred and what came in. -/
theorem Takes.balance {read out : List Message} {s t : Session} (h : Takes read out s t)
    (hs : DefersProper s) : Balance (proper read) out s t := by
  have hreceived : s.env.received <+: t.env.received := ⟨read, h.received.symm⟩
  rcases h.source with ⟨hread, hitems⟩ | ⟨hread, hbefore, hafter⟩
  · refine ⟨?_, hreceived, fun m hm => hs m ?_⟩
    · rw [hread, List.append_nil]
      exact hitems
    · rw [hitems]
      exact List.mem_append_right out hm
  · refine ⟨?_, hreceived, fun m hm => ?_⟩
    · rw [hread, hbefore, hafter, List.append_nil]
      rfl
    · rw [hafter] at hm
      exact absurd hm List.not_mem_nil

/-- What an exchange has to account for is what it deferred. -/
theorem Defers.besides_proper {x : Except CoordinatorError Message} {passed last ms : List Message}
    {s t : Session} (h : Defers x passed last s t) (hms : ∀ m ∈ ms, m.kind ≠ .socketClosed) :
    besides x (ms ++ proper (passed ++ last)) = ms ++ proper passed := by
  rw [proper_append, ← List.append_assoc]
  refine besides_of_ending h.ending fun m hm => ?_
  rcases List.mem_append.1 hm with hm | hm
  · exact hms m hm
  · exact h.farewells m (List.mem_filter.1 hm).1

theorem Defers.balance {x : Except CoordinatorError Message} {passed last : List Message}
    {s t : Session} (h : Defers x passed last s t) (hs : DefersProper s) :
    Balance (proper passed) [] s t := by
  refine ⟨h.queue.symm, ⟨passed ++ last, h.received.symm⟩, fun m hm => ?_⟩
  rw [h.queue] at hm
  rcases List.mem_append.1 hm with hm | hm
  · exact hs m hm
  · exact of_decide_eq_true (List.mem_filter.1 hm).2

theorem Quiet.balance {s t : Session} (h : Quiet s t) (hs : DefersProper s) :
    Balance [] [] s t := by
  refine ⟨?_, ?_, hs.of_quiet h⟩
  · rw [h.queue, List.append_nil]
    rfl
  · exact h.received ▸ List.prefix_refl _

theorem Balance.trans {kept kept' handed handed' : List Message} {s t u : Session}
    (h : Balance kept handed s t) (h' : Balance kept' handed' t u) :
    Balance (kept ++ kept') (handed ++ handed') s u := by
  refine ⟨?_, h.received.trans h'.received, h'.proper⟩
  calc s.worker.queue.items ++ (kept ++ kept')
      = handed ++ (t.worker.queue.items ++ kept') := by
        rw [← List.append_assoc, h.items, List.append_assoc]
    _ = handed ++ handed' ++ u.worker.queue.items := by rw [h'.items, List.append_assoc]

/-! ### What each call does to the books -/

theorem wait_takes {s : Session} (hs : DefersProper s) :
    ∃ read, Takes read (outcome (s.wait.1.map some)) s s.wait.2 := by
  have hout : outcome (s.wait.1.map some) = outcome (s.waitUntil none).1 := by
    rw [wait]
    generalize s.waitUntil none = r
    rcases r with ⟨e | _ | m, t⟩ <;> rfl
  rw [hout, snd_wait]
  exact waitUntil_takes none hs

theorem receiveFromDatamanager_readOff (s : Session) :
    ReadOff (outcome (s.receiveFromDatamanager.1.map some)) s s.receiveFromDatamanager.2 := by
  rw [receiveFromDatamanager]
  split
  · exact ⟨(List.append_nil _).symm, rfl⟩
  · rename_i id hid
    have hr := s.receive_readOff id
    generalize s.receive id = r at hr ⊢
    rcases r with ⟨e | m, t⟩
    · have hq := t.quiet_receiveFailed id e
      exact ⟨hq.received.trans hr.received, hq.queue.trans hr.queue⟩
    · exact hr

theorem exchangeWithDatamanager_defers (request : Message) (expected : List Kind) (s : Session) :
    ∃ passed last, Defers (s.exchangeWithDatamanager request expected).1 passed last s
      (s.exchangeWithDatamanager request expected).2 := by
  rw [exchangeWithDatamanager]
  split
  · exact ⟨[], [], .of_ending .failure (List.append_nil _).symm rfl⟩
  · exact s.exchange_defers _ request expected

/-- An exchange on its own balances. -/
theorem balance_exchange {x : Except CoordinatorError Message} {s t : Session}
    (h : ∃ passed last, Defers x passed last s t) (hs : DefersProper s) :
    Balance (besides x (proper (readBetween s t))) [] s t := by
  obtain ⟨passed, last, hd⟩ := h
  have hbesides := hd.besides_proper (fun m hm => absurd hm List.not_mem_nil : ∀ m ∈ [], _)
  rw [List.nil_append, List.nil_append] at hbesides
  rw [readBetween_eq hd.received, hbesides]
  exact hd.balance hs

theorem balance_wait {x : Except CoordinatorError (Option Message)} {s t : Session}
    (h : ∃ read, Takes read (outcome x) s t) (hs : DefersProper s) :
    Balance (proper (readBetween s t)) (outcome x) s t := by
  obtain ⟨read, htake⟩ := h
  rw [readBetween_eq htake.received]
  exact htake.balance hs

theorem balance_popDeferred {s : Session} (hs : DefersProper s) :
    Balance (readBetween s s.popDeferred.2) s.popDeferred.1.toList s s.popDeferred.2 := by
  have hread : readBetween s s.popDeferred.2 = [] := readBetween_eq (List.append_nil _).symm
  have hitems : s.worker.queue.items
      = s.popDeferred.1.toList ++ s.popDeferred.2.worker.queue.items := by
    rw [popDeferred]
    cases hp : s.worker.queue.pop.1 with
    | some m => exact MessageQueue.items_of_pop hp
    | none =>
      have hempty : s.worker.queue.items = [] := by
        rw [← List.head?_eq_none_iff, ← MessageQueue.head?_turned]
        exact hp
      show s.worker.queue.items = s.worker.queue.pop.2.items
      rw [MessageQueue.items_pop, hempty]
      rfl
  rw [hread]
  refine ⟨by rw [List.append_nil]; exact hitems, List.prefix_refl _, fun m hm => hs m ?_⟩
  rw [hitems]
  exact List.mem_append_right _ hm

theorem balance_receiveFromDatamanager {s : Session} (hs : DefersProper s) :
    Balance (Call.kept .receiveFromDatamanager s) [] s s.receiveFromDatamanager.2 := by
  have hr := s.receiveFromDatamanager_readOff
  have hkept : Call.kept .receiveFromDatamanager s = [] := by
    rw [Call.kept, Call.run]
    dsimp only
    rw [readBetween_eq hr.received]
    cases s.receiveFromDatamanager.1 with
    | ok m => exact withoutLast_append m []
    | error e => rfl
  refine ⟨?_, ⟨_, hr.received.symm⟩, ?_⟩
  · rw [hkept, hr.queue, List.append_nil]
    rfl
  · rw [DefersProper, hr.queue]
    exact hs

/-- What a wait reads holds a farewell only if the wait hands it out. -/
theorem Takes.farewells {read out : List Message} {s t : Session} (h : Takes read out s t)
    (hout : ∀ m ∈ out, m.kind ≠ .socketClosed) : ∀ m ∈ proper read, m.kind ≠ .socketClosed := by
  intro m hm
  rcases h.source with ⟨hnone, -⟩ | ⟨hone, -⟩
  · rw [hnone] at hm
    exact absurd hm List.not_mem_nil
  · rw [hone] at hm
    exact hout m hm

/-- The handshake balances, however far it gets. -/
theorem balance_handshake {s : Session} (hs : DefersProper s) :
    Balance (Call.kept .handshake s) (Call.handed .handshake s) s s.handshake.2 := by
  rw [Call.kept, Call.exchanged?, Call.handed, Call.run]
  dsimp only
  cases s.progress_handshake with
  | none noWait noExchange quiet =>
    have hread : readBetween s s.handshake.2 = [] :=
      readBetween_eq (quiet.received.trans (List.append_nil _).symm)
    rw [noWait, noExchange, hread]
    exact quiet.balance hs
  | @waited a before wait noExchange after =>
    obtain ⟨read, htake⟩ := wait_takes (hs.of_quiet before)
    have hread : readBetween s s.handshake.2 = read :=
      readBetween_eq (by rw [after.received, htake.received, before.received])
    rw [wait, noExchange, hread]
    have hbefore := before.balance hs
    have hwait := hbefore.trans (htake.balance hbefore.proper)
    have hall := hwait.trans (after.balance hwait.proper)
    simp only [List.nil_append, List.append_nil] at hall
    exact hall
  | @exchanged a b m id before wait waited kind between exchange after =>
    -- The wait takes one message out of the account, the exchange defers the others.
    have hbefore := before.balance hs
    obtain ⟨read, htake⟩ := wait_takes hbefore.proper
    have hwait := hbefore.trans (htake.balance hbefore.proper)
    have hbetween := hwait.trans (between.balance hwait.proper)
    obtain ⟨passed, last, hd⟩ := b.exchange_defers id (.empty .getShmKey) [.getShmKey]
    have hexchange := hbetween.trans (hd.balance hbetween.proper)
    have hall := hexchange.trans (after.balance hexchange.proper)
    have hread : readBetween s s.handshake.2 = read ++ (passed ++ last) :=
      readBetween_eq (by
        rw [after.received, hd.received, between.received, htake.received, before.received,
          List.append_assoc])
    -- What the wait handed out is no farewell, so the exchange leaves out nothing of the wait.
    have hfarewells : ∀ m' ∈ proper read, m'.kind ≠ .socketClosed := by
      refine htake.farewells fun m' hm' => ?_
      rw [waited] at hm'
      rw [List.mem_singleton.1 hm', kind]
      intro h
      cases h
    rw [wait, exchange, hread, proper_append]
    dsimp only [Option.map_some]
    rw [hd.besides_proper hfarewells]
    simp only [List.nil_append, List.append_nil] at hall
    exact hall

/-- **Every call keeps the books balanced.** -/
theorem balance_run (call : Call) {s : Session} (hs : DefersProper s) :
    Balance (call.kept s) (call.handed s) s (call.run s).2 := by
  cases call with
  | handshake => exact balance_handshake hs
  | wait => exact balance_wait (wait_takes hs) hs
  | check timeout => exact balance_wait (waitUntil_takes _ hs) hs
  | exchange id request expected => exact balance_exchange (s.exchange_defers ..) hs
  | exchangeWithDatamanager request expected =>
    exact balance_exchange (s.exchangeWithDatamanager_defers ..) hs
  | receiveFromDatamanager => exact balance_receiveFromDatamanager hs
  | popDeferred => exact balance_popDeferred hs
  | addConnection role endpoint port timeout =>
    have hq := s.quiet_addConnection role endpoint port timeout
    have hkept : Call.kept (.addConnection role endpoint port timeout) s = [] :=
      readBetween_eq (hq.received.trans (List.append_nil _).symm)
    rw [hkept]
    exact hq.balance hs

/-- What a call has to account for was read, in that order. -/
theorem Call.kept_sublist (call : Call) (s : Session) :
    (call.kept s).Sublist (readBetween s (call.run s).2) := by
  have hproper (ms : List Message) : (proper ms).Sublist ms := List.filter_sublist
  have hbesides (x : Except CoordinatorError Message) (ms : List Message) :
      (besides x (proper ms)).Sublist ms := (besides_sublist x _).trans (hproper ms)
  cases call with
  | handshake =>
    rw [Call.kept, Call.exchanged?]
    cases s.handshakeExchange? with
    | some r => exact hbesides r.1 _
    | none => exact hproper _
  | wait => exact hproper _
  | check timeout => exact hproper _
  | exchange id request expected => exact hbesides _ _
  | exchangeWithDatamanager request expected => exact hbesides _ _
  | receiveFromDatamanager =>
    rw [Call.kept]
    cases s.receiveFromDatamanager.1 with
    | ok m => exact withoutLast_sublist m _
    | error e => exact .refl _
  | popDeferred => exact .refl _
  | addConnection role endpoint port timeout => exact .refl _

end Session

/-! ### Whole runs -/

/-- A worker, and what happened to it: the messages that were read, those among them that have to be
accounted for, and those that were handed out. -/
structure Ledger where
  session : Session
  read : List Message := []
  kept : List Message := []
  handed : List Message := []

namespace Ledger

/-- What can happen next. -/
inductive Step
  | call (call : Session.Call)
  /-- The surroundings become any others; what was reported stays. -/
  | meanwhile (env : Environment)

/-- A worker that was just made. -/
def start (config : ModuleConfig) (pid : UInt32) (env : Environment) : Ledger :=
  { session := { worker := .ofConfig config pid, env } }

/-- Writes one step down. -/
def enter (l : Ledger) : Step → Ledger
  | .call call =>
    { session := (call.run l.session).2
      read := l.read ++ Session.readBetween l.session (call.run l.session).2
      kept := l.kept ++ call.kept l.session
      handed := l.handed ++ call.handed l.session }
  | .meanwhile env =>
    { l with session := { l.session with env := { env with log := l.session.env.log } } }

/-- Writes all steps of a run down. -/
def run (l : Ledger) (steps : List Step) : Ledger := steps.foldl enter l

/-- The books are in order: `s` is where they were opened. -/
structure Sound (s : Session) (l : Ledger) : Prop where
  balance : s.Balance l.kept l.handed l.session
  /-- All that was read since is written down. -/
  complete : l.session.env.received = s.env.received ++ l.read
  ordered : l.kept.Sublist l.read

theorem sound_start (config : ModuleConfig) (pid : UInt32) (env : Environment) :
    Sound { worker := .ofConfig config pid, env } (start config pid env) := by
  refine ⟨⟨List.append_nil _, List.prefix_refl _, fun m hm => ?_⟩, ?_, .refl _⟩
  · exact absurd hm List.not_mem_nil
  · exact (List.append_nil _).symm

/-- One step keeps the books in order. -/
theorem Sound.enter {l : Ledger} {s : Session} (h : Sound s l) (step : Step) :
    Sound s (l.enter step) := by
  cases step with
  | call call =>
    have hrun := Session.balance_run call h.balance.proper
    refine ⟨h.balance.trans hrun, ?_, h.ordered.append (call.kept_sublist l.session)⟩
    obtain ⟨ms, hms⟩ := hrun.received
    show (call.run l.session).2.env.received = _ ++ (_ ++ Session.readBetween _ _)
    rw [Session.readBetween_eq hms.symm, ← hms, h.complete, List.append_assoc]
  | «meanwhile» env =>
    -- What was received is told by the log, which stays.
    exact ⟨⟨h.balance.items, h.balance.received, h.balance.proper⟩, h.complete, h.ordered⟩

theorem Sound.run {l : Ledger} {s : Session} (h : Sound s l) (steps : List Step) :
    Sound s (l.run steps) := by
  induction steps generalizing l with
  | nil => exact h
  | cons step steps ih => exact ih (h.enter step)

/-- **No message is lost, doubled or reordered by being deferred.**  Over any run, what was read and
has to be accounted for is what was handed out, followed by what is deferred. -/
theorem balanced (config : ModuleConfig) (pid : UInt32) (env : Environment) (steps : List Step) :
    ((start config pid env).run steps).session.env.received
        = env.received ++ ((start config pid env).run steps).read ∧
      ((start config pid env).run steps).kept.Sublist ((start config pid env).run steps).read ∧
      ((start config pid env).run steps).kept
        = ((start config pid env).run steps).handed
          ++ ((start config pid env).run steps).session.worker.queue.items := by
  have h := (sound_start config pid env).run steps
  exact ⟨h.complete, h.ordered, h.balance.items⟩

end Ledger

end PipelineWorker
