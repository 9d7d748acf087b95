/-
How late a check for a control message comes back.

A check gives up within two milliseconds of its deadline if nothing arrives then.  But every byte of
a frame that has begun, and every announcement, is waited for anew, for a millisecond at least; so
whoever goes on sending can hold the check up.

* `waitUntil_timing` — a wait with a deadline is busy, but for a millisecond at its end;
* `waitUntil_keepsStreams` — a wait that gives up takes nothing but announcements;
* `check_punctual` — **behind its deadline a check is held up by arrivals only, and when it gives up
  all bytes of frames that have begun are kept**.
-/
import PipelineWorker.Proofs.Fatality
import PipelineWorker.Proofs.Timing

namespace PipelineWorker

namespace Session

variable {id : ConnectionId} {c : Connection} {s t : Session} {arrives : Nat → Prop}

/-- Something arrives at time `τ` on a connection that control messages come from. -/
def ArrivesAt (s : Session) (τ : Nat) : Prop :=
  ∃ id ∈ s.worker.watched, ∃ c, s.worker.connections.get? id = some c ∧
    τ ∈ (s.env.net.link c.link).times

/-- What keeps connections and links keeps what is to arrive. -/
theorem ArrivesAt.of_eq {τ : Nat} (h : t.ArrivesAt τ)
    (hwatched : t.worker.watched = s.worker.watched)
    (hconnections : t.worker.connections = s.worker.connections)
    (hlinks : t.env.net.links = s.env.net.links) : s.ArrivesAt τ := by
  obtain ⟨id, hid, c, hc, hτ⟩ := h
  rw [Network.link, hlinks] at hτ
  exact ⟨id, hwatched ▸ hid, c, hconnections ▸ hc, hτ⟩

/-! ### Reading from one connection -/

theorem Reads.watched {c' : Connection} (h : Reads id c c' s t) :
    t.worker.watched = s.worker.watched := by
  rw [h.worker]
  rfl

theorem receiveUntil_eq (deadline : Nat) (hc : s.worker.connections.get? id = some c) :
    s.receiveUntil id deadline = ((c.receiveWith (some deadline) s.env).1,
      { worker := { s.worker with
          connections := s.worker.connections.put (c.receiveWith (some deadline) s.env).2.1 }
        env := (c.receiveWith (some deadline) s.env).2.2 }) := by
  rw [receiveUntil, Registry.receiveUntil, Registry.withConnection, hc]
  rfl

theorem reads_receiveUntil (deadline : Nat) (hc : s.worker.connections.get? id = some c)
    (hs : c.InStep s.env.net) :
    Reads id c (c.receiveWith (some deadline) s.env).2.1 s (s.receiveUntil id deadline).2 := by
  have hid : (c.receiveWith (some deadline) s.env).2.1.id = id :=
    (Connection.id_receiveWith ..).trans (Registry.id_of_get? hc)
  rw [receiveUntil_eq _ hc]
  exact ⟨rfl, rfl, Registry.get?_put hc hid, Connection.link_receiveWith ..,
    Connection.role_receiveWith .., Connection.inStep_receiveWith hs,
    (c.env_receiveWith (some deadline) s.env).2, Connection.readsOn_receiveWith _ hs.linked⟩

/-- A receive on a watched connection is busy until it ends, unless it gives up, and brings nothing
that was not to arrive. -/
theorem receiveUntil_timing (deadline : Nat) (hs : s.worker.connections.Sound s.env.net)
    (hid : id ∈ s.worker.watched) (hc : s.worker.connections.get? id = some c)
    (h : ∀ τ, s.ArrivesAt τ → arrives τ) :
    (∀ τ, (s.receiveUntil id deadline).2.ArrivesAt τ → arrives τ) ∧
      (Busy deadline arrives s.now (s.receiveUntil id deadline).2.now ∨
        (s.receiveUntil id deadline).1 = .ok none ∧
          InTime deadline arrives s.now (s.receiveUntil id deadline).2.now) := by
  have hreads := reads_receiveUntil deadline hc (hs.get? hc)
  have huses : Uses id s (s.receiveUntil id deadline).2 := (Use.receive (some deadline) s).uses
  obtain ⟨hrest, hread⟩ := Connection.receiveWith_timing deadline
    (hs.get? hc).linked fun τ hτ => h τ ⟨id, hid, c, hc, hτ⟩
  refine ⟨?_, by rw [receiveUntil_eq _ hc]; exact hread⟩
  have hlink : ∀ τ ∈ ((s.receiveUntil id deadline).2.env.net.link c.link).times, arrives τ := by
    rw [receiveUntil_eq _ hc]
    exact hrest
  rintro τ ⟨j, hj, d, hd, hτ⟩
  by_cases hsame : d.link = c.link
  · -- the link that was read
    rw [hsame] at hτ
    exact hlink τ hτ
  · have hne : j ≠ id := by
      rintro rfl
      obtain rfl := Option.some.inj (hreads.found.symm.trans hd)
      exact hsame hreads.link
    rw [huses.get?_of_ne hne] at hd
    rw [hreads.net.others _ hsame] at hτ
    exact h τ ⟨j, hreads.watched ▸ hj, d, hd, hτ⟩

theorem readFrom_timing (deadline : Nat) (hs : s.worker.connections.Sound s.env.net)
    (hid : id ∈ s.worker.watched) (hc : s.worker.connections.get? id = some c)
    (h : ∀ τ, s.ArrivesAt τ → arrives τ) :
    InTime deadline arrives s.now (s.readFrom (some deadline) id).2.now ∧
      ∀ m, (s.readFrom (some deadline) id).1 = .ok (some m) →
        Busy deadline arrives s.now (s.readFrom (some deadline) id).2.now ∧
          ∀ τ, (s.readFrom (some deadline) id).2.ArrivesAt τ → arrives τ := by
  obtain ⟨hrest, hread⟩ := receiveUntil_timing deadline hs hid hc h
  have hin : InTime deadline arrives s.now (s.receiveUntil id deadline).2.now :=
    hread.elim Busy.inTime And.right
  rw [readFrom, receiveBy]
  generalize s.receiveUntil id deadline = r at hrest hread hin ⊢
  rcases r with ⟨e | _ | m, t⟩
  · -- the loss of the connection takes no time
    have hnow : (t.receiveFailed id e).2.now = t.now :=
      congrArg Network.now (t.spares_receiveFailed id e).net
    rw [← hnow] at hin
    refine ⟨hin, ?_⟩
    rintro m ⟨⟩
  · refine ⟨hin, ?_⟩
    rintro m ⟨⟩
  · refine ⟨hin, fun _ _ => ⟨hread.resolve_right ?_, hrest⟩⟩
    rintro ⟨hnone, -⟩
    cases hnone

/-! ### The next message -/

/-- A poll counts as busy, and leaves the links alone. -/
theorem polled_busy (deadline : Nat) (arrives : Nat → Prop) (s : Session) :
    (s.polled (some deadline)).env.net.links = s.env.net.links ∧
      Busy deadline arrives s.now (s.polled (some deadline)).now := by
  show (s.worker.connections.pollReadable s.worker.watched (some (deadline - s.now))
      s.env).2.net.links = _ ∧ Busy deadline arrives s.now
        (s.worker.connections.pollReadable s.worker.watched (some (deadline - s.now)) s.env).2.net.now
  rw [Registry.pollReadable, Registry.pollReadableFor]
  split
  · exact ⟨rfl, .refl _⟩
  · obtain ⟨hlinks, hclock⟩ := Registry.pollWatched_timing
      (s.worker.watched.filterMap s.worker.connections.get?)
      (s.env.net.clock + 1000 * (deadline - s.now)) s.env.net
    refine ⟨hlinks, busy_of_le ?_⟩
    -- the deadline is a whole microsecond, but for the nanoseconds that the clock started with
    have hstart : s.env.net.clock = 1000 * s.now + s.env.net.nanos := rfl
    have hlt := s.env.net.nanos.isLt
    rw [Network.now_eq_clock_div, Option.map_some, Option.map_some]
    dsimp only
    omega

/-- **The next message is waited for without a pause, unless the wait gives up.** -/
theorem nextMessage_timing (deadline : Nat) (hs : s.worker.connections.Sound s.env.net)
    (h : ∀ τ, s.ArrivesAt τ → arrives τ) :
    InTime deadline arrives s.now (s.nextMessage (some deadline)).2.now ∧
      ∀ m, (s.nextMessage (some deadline)).1 = .ok (some m) →
        Busy deadline arrives s.now (s.nextMessage (some deadline)).2.now ∧
          ∀ τ, (s.nextMessage (some deadline)).2.ArrivesAt τ → arrives τ := by
  obtain ⟨hlinks, hbusy⟩ := s.polled_busy deadline arrives
  have hnext := s.next_nextMessage (some deadline)
  generalize s.nextMessage (some deadline) = r at hnext ⊢
  cases hnext with
  | deferred m =>
    exact ⟨(Busy.refl _).inTime, fun _ _ => ⟨.refl _, fun τ hτ => h τ (hτ.of_eq rfl rfl rfl)⟩⟩
  | nobody none_watched =>
    refine ⟨(Busy.refl _).inTime, ?_⟩
    rintro m ⟨⟩
  | unpolled f =>
    refine ⟨hbusy.inTime, ?_⟩
    rintro m ⟨⟩
  | late poll =>
    refine ⟨hbusy.inTime, ?_⟩
    rintro m ⟨⟩
  | ready watched found =>
    have hsound := (s.steps_polled (some deadline)).moves.sound hs
    obtain ⟨hin, hmessage⟩ := readFrom_timing deadline hsound watched found
      fun τ hτ => h τ (hτ.of_eq rfl rfl hlinks)
    refine ⟨hbusy.trans_inTime hin, fun m hm => ?_⟩
    obtain ⟨hread, hrest⟩ := hmessage m hm
    exact ⟨hbusy.trans hread, hrest⟩

/-- **A wait with a deadline is busy, but for a millisecond at its end.** -/
theorem waitUntil_timing (deadline : Nat) (hs : s.worker.connections.Sound s.env.net)
    (h : ∀ τ, s.ArrivesAt τ → arrives τ) :
    InTime deadline arrives s.now (s.waitUntil (some deadline)).2.now := by
  generalize hsome : some deadline = limit
  -- The induction follows the announcements; to take one up takes no time.
  fun_induction waitUntil limit s with
  | case1 s e t hn =>
    subst hsome
    have htiming := nextMessage_timing deadline hs h
    rw [hn] at htiming
    exact htiming.1
  | case2 s t hn =>
    subst hsome
    have htiming := nextMessage_timing deadline hs h
    rw [hn] at htiming
    exact htiming.1
  | case3 s m t hn hk e u ht =>
    -- an announcement that cannot be attached ends the wait where the message was read
    subst hsome
    have htiming := nextMessage_timing deadline hs h
    have hnet := t.net_takeAnnouncement m
    rw [hn] at htiming
    rw [ht] at hnet
    have hnow : u.now = t.now := congrArg Network.now hnet
    rw [← hnow] at htiming
    exact htiming.1
  | case4 s m t hn hk u ht ih =>
    -- an announcement that is taken up; whatever held this message up was busy, and so is the rest
    subst hsome
    have htiming := nextMessage_timing deadline hs h
    have hsound := sound_of_takeAnnouncement (sound_of_nextMessage hs hn) ht
    have hworker := t.worker_takeAnnouncement m
    have hnet := t.net_takeAnnouncement m
    rw [hn] at htiming
    rw [ht] at hworker hnet
    obtain ⟨hbusy, hrest⟩ := htiming.2 m rfl
    have hnow : u.now = t.now := congrArg Network.now hnet
    have hin := ih hsound fun τ hτ => hrest τ
      (hτ.of_eq (by rw [hworker]; rfl) (by rw [hworker]) (by rw [hnet]))
    rw [hnow] at hin
    exact hbusy.trans_inTime hin
  | case5 s m t hn hk =>
    subst hsome
    have htiming := nextMessage_timing deadline hs h
    rw [hn] at htiming
    exact htiming.1

/-! ### What a wait that gives up has taken -/

/-- From `s` to `t` nothing but announcements was taken off the streams of connections; of a stream
with failures nothing is said. -/
def KeepsStreams (s t : Session) : Prop :=
  ∀ id c, s.worker.connections.get? id = some c → (s.env.net.link c.link).IsClean →
    ∃ c' taken, t.worker.connections.get? id = some c' ∧ (t.env.net.link c'.link).IsClean ∧
      (∀ m ∈ taken, m.kind = .newSharedSegment) ∧
      taken <+: Frame.messages (c.stream s.env.net) ∧
      c'.stream t.env.net = (c.stream s.env.net).drop (Frame.span taken)

theorem KeepsStreams.of_eq (hconnections : t.worker.connections = s.worker.connections)
    (hlinks : t.env.net.links = s.env.net.links) : KeepsStreams s t := by
  intro id c hc hclean
  have hlink : t.env.net.link c.link = s.env.net.link c.link := by
    rw [Network.link, Network.link, hlinks]
  refine ⟨c, [], hconnections ▸ hc, hlink ▸ hclean, fun _ hm => absurd hm List.not_mem_nil,
    List.nil_prefix, ?_⟩
  rw [Connection.stream, hlink]
  rfl

theorem KeepsStreams.trans {u : Session} (h : KeepsStreams s t) (h' : KeepsStreams t u) :
    KeepsStreams s u := by
  intro id c hc hclean
  obtain ⟨c', taken, hc', hclean', hkinds, hfront, hrest⟩ := h id c hc hclean
  obtain ⟨c'', more, hc'', hclean'', hkinds', hfront', hrest'⟩ := h' id c' hc' hclean'
  refine ⟨c'', taken ++ more, hc'', hclean'', fun m hm => ?_, ?_, ?_⟩
  · exact (List.mem_append.1 hm).elim (hkinds m) (hkinds' m)
  · rw [Frame.messages_of_prefix hfront, ← hrest]
    exact (List.prefix_append_right_inj taken).2 hfront'
  · rw [hrest', hrest, List.drop_drop, Frame.span_append]

/-- A receive that gives up, or hands an announcement out. -/
theorem keepsStreams_receiveUntil {deadline : Nat} (hs : s.worker.connections.Sound s.env.net)
    (hc : s.worker.connections.get? id = some c) {x : Option Message}
    (hx : (s.receiveUntil id deadline).1 = .ok x)
    (hkind : ∀ m, x = some m → m.kind = .newSharedSegment) :
    KeepsStreams s (s.receiveUntil id deadline).2 := by
  have hstep := hs.get? hc
  have hreads := reads_receiveUntil deadline hc hstep
  have huses : Uses id s (s.receiveUntil id deadline).2 := (Use.receive (some deadline) s).uses
  intro j d hd hclean
  by_cases hj : j = id
  · subst hj
    obtain rfl : c = d := Option.some.inj (hc.symm.trans hd)
    have hfst : (c.receiveWith (some deadline) s.env).1 = .ok x := by
      rw [← hx, receiveUntil_eq _ hc]
    have henv : (s.receiveUntil j deadline).2.env = (c.receiveWith (some deadline) s.env).2.2 := by
      rw [receiveUntil_eq _ hc]
    obtain ⟨taken, htaken⟩ :=
      Connection.exists_takesOff (some deadline) hstep (Connection.alive_of_receiveWith hfst)
    have hused := htaken.usesUp (Connection.alive_of_receiveWith_ok hfst) hclean
    rw [← henv] at hused
    refine ⟨_, taken, hreads.found, hused.clean, fun m hm => ?_, htaken.front, hused.rest⟩
    -- what was taken is what is handed out
    have hmem : m.withOrigin c.id ∈ x.toList := by
      rw [htaken.handed x hfst]
      exact List.mem_map_of_mem hm
    exact hkind (m.withOrigin c.id) (Option.mem_toList.1 hmem)
  · -- no other link was read
    have hlink : (s.receiveUntil id deadline).2.env.net.link d.link = s.env.net.link d.link :=
      hreads.net.others _ (hs.link_ne hc hd hj)
    refine ⟨d, [], (huses.get?_of_ne hj).trans hd, hlink ▸ hclean,
      fun _ hm => absurd hm List.not_mem_nil, List.nil_prefix, ?_⟩
    rw [Connection.stream, hlink]
    rfl

theorem readFrom_keepsStreams {deadline : Nat} (hs : s.worker.connections.Sound s.env.net)
    (hc : s.worker.connections.get? id = some c) {x : Option Message}
    (hx : (s.readFrom (some deadline) id).1 = .ok x)
    (hkind : ∀ m, x = some m → m.kind = .newSharedSegment) :
    KeepsStreams s (s.readFrom (some deadline) id).2 := by
  have hkeeps {y : Option Message} (hy : (s.receiveUntil id deadline).1 = .ok y)
      (hk : ∀ m, y = some m → m.kind = .newSharedSegment) :
      KeepsStreams s (s.receiveUntil id deadline).2 := keepsStreams_receiveUntil hs hc hy hk
  rw [readFrom, receiveBy] at hx ⊢
  generalize s.receiveUntil id deadline = r at hx hkeeps ⊢
  rcases r with ⟨e | _ | m, t⟩
  · cases hx
  · refine hkeeps rfl ?_
    rintro m ⟨⟩
  · obtain rfl := Except.ok.inj hx
    exact hkeeps rfl hkind

/-- A wait for the next message that gives up, or hands an announcement out. -/
theorem nextMessage_keepsStreams {deadline : Nat} (hs : s.worker.connections.Sound s.env.net)
    {x : Option Message} (hx : (s.nextMessage (some deadline)).1 = .ok x)
    (hkind : ∀ m, x = some m → m.kind = .newSharedSegment) :
    KeepsStreams s (s.nextMessage (some deadline)).2 := by
  obtain ⟨hlinks, -⟩ := s.polled_busy deadline fun _ => True
  have hnext := s.next_nextMessage (some deadline)
  generalize s.nextMessage (some deadline) = r at hx hnext ⊢
  cases hnext with
  | deferred m => exact .of_eq rfl rfl
  | nobody none_watched => exact .of_eq rfl rfl
  | unpolled f => cases hx
  | late poll => exact .of_eq rfl hlinks
  | ready watched found =>
    -- the poll leaves the links alone, and one of them is read
    have hsound := (s.steps_polled (some deadline)).moves.sound hs
    have hpolled : KeepsStreams s (s.polled (some deadline)) := .of_eq rfl hlinks
    exact hpolled.trans (readFrom_keepsStreams hsound found hx hkind)

/-- **A wait that gives up takes nothing but announcements off the streams.** -/
theorem waitUntil_keepsStreams {deadline : Nat} (hs : s.worker.connections.Sound s.env.net)
    (h : (s.waitUntil (some deadline)).1 = .ok none) :
    KeepsStreams s (s.waitUntil (some deadline)).2 := by
  generalize hsome : some deadline = limit at h
  -- The induction follows the messages; a wait that hands one out or fails does not give up.
  fun_induction waitUntil limit s with
  | case1 => cases h
  | case2 s t hn =>
    -- the wait gives up, with nothing read
    subst hsome
    have hkeeps := nextMessage_keepsStreams hs (congrArg Prod.fst hn) (by simp)
    rw [hn] at hkeeps
    exact hkeeps
  | case3 => cases h
  | case4 s m t hn hk u ht ih =>
    -- an announcement, which is taken up without any reading
    subst hsome
    have hkeeps := nextMessage_keepsStreams hs (congrArg Prod.fst hn) fun m' hm => by
      rw [← Option.some.inj hm]
      exact hk
    have hsound := sound_of_takeAnnouncement (sound_of_nextMessage hs hn) ht
    have hworker := t.worker_takeAnnouncement m
    have hnet := t.net_takeAnnouncement m
    rw [hn] at hkeeps
    rw [ht] at hworker hnet
    have htaken : KeepsStreams t u := .of_eq (by rw [hworker]) (by rw [hnet])
    exact (hkeeps.trans htaken).trans (ih hsound h)
  | case5 => cases h

/-! ### Checking -/

/-- **Behind its deadline a check is held up by arrivals only**: it goes on past a moment for a
millisecond at most, unless something arrives meanwhile; so it ends two milliseconds behind the
deadline if nothing arrives then.  **When it gives up, all bytes of frames that have begun are
kept.** -/
theorem check_punctual (hr : s.Reachable) (timeout : Nat) :
    (∀ x, s.now + timeout + 999 ≤ x → x + 1000 < (s.check timeout).2.now →
      ∃ τ, s.ArrivesAt τ ∧ x < τ ∧ τ ≤ x + 1000) ∧
    ((s.check timeout).1 = .ok none → KeepsStreams s (s.check timeout).2) := by
  refine ⟨fun x hx hlate => ?_, fun h => waitUntil_keepsStreams hr.sound h⟩
  have hin : InTime (s.now + timeout) s.ArrivesAt s.now (s.check timeout).2.now :=
    waitUntil_timing _ hr.sound fun _ hτ => hτ
  exact hin.exists_arrival hx (by omega) hlate

end Session

/-! ### A frame that drips -/

/-- A controller whose next frame comes byte by byte, and then stalls. -/
def Listener.dripping : Listener :=
  { Listener.assigning with
    script := Listener.assigning.script ++
      ([0, 0, 0, 6].map fun b => (900, .data [b])) ++ [(5000, .data [0, 0, 0, 0])] }

/-- A datamanager that says nothing but its reply. -/
def Listener.replying : Listener :=
  { Listener.supplying with
    script := [(0, .data [0, 0, 0, 13, 0, 0, 0, 8, 0, 0, 0, 1, 0, 0, 0, 64])] }

namespace Session

/-- A running worker with these two. -/
def dripped : Session :=
  (Call.handshake.run (fresh (.ofController "127.0.0.1" 4000) 7
    { net := { listeners := [.dripping, .replying] } })).2

theorem reachable_dripped : Reachable dripped := (Reachable.fresh _ _ _).call .handshake

/-- A check whose deadline lies inside of the frame goes on until the frame stalls, and keeps its
bytes. -/
theorem check_punctual_dripped :
    dripped.now + 1000 + 999 ≤ 1999 ∧ 1999 + 1000 < (dripped.check 1000).2.now ∧
      (∃ τ, dripped.ArrivesAt τ ∧ 1999 < τ ∧ τ ≤ 2999) ∧
      (dripped.check 1000).1 = .ok none ∧ KeepsStreams dripped (dripped.check 1000).2 := by
  have hnow : dripped.now + 1000 + 999 ≤ 1999 := by decide +kernel
  have hlate : 1999 + 1000 < (dripped.check 1000).2.now := by decide +kernel
  have hnone : (dripped.check 1000).1 = .ok none := by decide +kernel
  obtain ⟨hheld, hkept⟩ := check_punctual reachable_dripped 1000
  exact ⟨hnow, hlate, hheld 1999 hnow hlate, hnone, hkept hnone⟩

/-- A check for one millisecond takes more than four. -/
theorem check_late :
    Reachable dripped ∧ dripped.worker.stage = .running ∧ dripped.now = 0 ∧
      (dripped.check 1000).2.now = 4600 :=
  ⟨reachable_dripped, by decide +kernel, by decide +kernel, by decide +kernel⟩

end Session

end PipelineWorker
