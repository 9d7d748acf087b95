/-
What a worker attaches while it waits for something else.

Announcements of segments arrive between other messages.  Each that is read is taken up at once: its
segment is attached, or the operation fails for want of it.  So what an operation reads tells how
often every segment is attached behind it (`TakesUp`).

* `Holding.attachCount_of_takeUp` — to take announcements up is to count their keys;
* `waitUntil_takesUp`, `exchange_takesUp` — **a wait or an exchange attaches the segments announced
  among what it reads, and no others**;
* `sendToDatamanager_takesUp`, `segments_receiveFromDatamanager` — the other operations attach
  nothing.
-/
import PipelineWorker.Proofs.Exchange
import PipelineWorker.Proofs.Ledger
import PipelineWorker.Proofs.Segments

namespace PipelineWorker

namespace Holding

/-! ### Announced segments -/

def attachCount (key : SegmentKey) (h : Holding) : Nat := h.1.elim 0 (·.attachCount key)

theorem attachCount_getD (dir : String) (key : SegmentKey) (h : Holding) :
    (h.1.getD { dir }).attachCount key = h.attachCount key := by
  obtain ⟨_ | access, fs⟩ := h <;> rfl

theorem attachCount_of_attach {dir : String} {a : SegmentAnnouncement} {h h' : Holding}
    (hx : h.attach dir a = (.ok (), h')) (key : SegmentKey) :
    h'.attachCount key = h.attachCount key + if key = a.key then 1 else 0 := by
  rw [attach] at hx
  cases hr : ((h.1.getD { dir }).attach a.key a.size.toNat h.2).1 with
  | error e =>
    rw [hr] at hx
    cases hx
  | ok handle =>
    obtain rfl := (Prod.mk.inj hx).2
    rw [← attachCount_getD dir key h]
    exact SegmentAccess.attachCount_attach hr key

theorem attachCount_of_refused {dir : String} {a : SegmentAnnouncement} {h h' : Holding}
    {e : SegmentError} (hx : h.attach dir a = (.error e, h')) (key : SegmentKey) :
    h'.attachCount key = h.attachCount key := by
  rw [attach] at hx
  cases hr : ((h.1.getD { dir }).attach a.key a.size.toNat h.2).1 with
  | error f =>
    obtain rfl := (Prod.mk.inj hx).2
    rw [← attachCount_getD dir key h]
    exact congrArg (·.attachCount key) (SegmentAccess.attach_of_error hr)
  | ok handle =>
    rw [hr] at hx
    cases hx

/-- **To take announcements up is to count their keys.** -/
theorem attachCount_of_takeUp {dir : String} {as : List SegmentAnnouncement} {h h' : Holding}
    (hx : h.takeUp dir as = .ok h') (key : SegmentKey) :
    h'.attachCount key = h.attachCount key + (as.map (·.key)).count key := by
  induction as generalizing h with
  | nil =>
    rw [← Except.ok.inj hx]
    rfl
  | cons a as ih =>
    rw [takeUp] at hx
    cases ha : h.attach dir a with
    | mk x mid =>
      rw [ha] at hx
      cases x with
      | error e => cases hx
      | ok _ =>
        rw [ih hx, attachCount_of_attach ha key, List.map_cons, List.count_cons, Nat.add_assoc,
          Nat.add_comm (List.count _ _)]
        simp only [beq_iff_eq, @eq_comm _ key]

end Holding

namespace Session

/-! ### What leaves the segments alone -/

theorem segments_receiveBy (deadline : Option Nat) (id : ConnectionId) (s : Session) :
    (s.receiveBy deadline id).2.worker.segments = s.worker.segments := by
  cases deadline <;> rfl

theorem segments_sendToDatamanager (m : Message) (s : Session) :
    (s.sendToDatamanager m).2.worker.segments = s.worker.segments := by
  rw [sendToDatamanager]
  split
  · rfl
  · rename_i id hd
    have hsend : (s.send id m).2.worker.segments = s.worker.segments := rfl
    generalize s.send id m = r at hsend ⊢
    rcases r with ⟨e | _, t⟩
    · exact (spares_sendFailed id _).segments.trans hsend
    · exact hsend

theorem segments_receiveFromDatamanager (s : Session) :
    s.receiveFromDatamanager.2.worker.segments = s.worker.segments := by
  rw [receiveFromDatamanager]
  split
  · rfl
  · rename_i id hd
    have hreceive : (s.receive id).2.worker.segments = s.worker.segments := rfl
    generalize s.receive id = r at hreceive ⊢
    rcases r with ⟨e | m, t⟩
    · exact (t.spares_receiveFailed id e).segments.trans hreceive
    · exact hreceive

theorem segments_readFrom (deadline : Option Nat) (id : ConnectionId) (s : Session) :
    (s.readFrom deadline id).2.worker.segments = s.worker.segments := by
  have hreceive := s.segments_receiveBy deadline id
  rw [readFrom]
  generalize s.receiveBy deadline id = r at hreceive ⊢
  rcases r with ⟨e | _ | m, t⟩
  · exact (t.spares_receiveFailed id e).segments.trans hreceive
  · exact hreceive
  · exact hreceive

theorem segments_nextMessage (deadline : Option Nat) (s : Session) :
    (s.nextMessage deadline).2.worker.segments = s.worker.segments := by
  have hnext := s.next_nextMessage deadline
  generalize s.nextMessage deadline = r at hnext ⊢
  cases hnext with
  | deferred m => rfl
  | nobody none_watched => rfl
  | unpolled f => rfl
  | late poll => rfl
  | ready watched found => exact segments_readFrom ..

/-! ### Failing for want of a segment -/

/-- Whether the operation failed because an announced segment could not be attached. -/
def refuses {α : Type} : Except CoordinatorError α → Bool
  | .error (.segment _) => true
  | _ => false

theorem refuses_map {α β : Type} (f : α → β) (x : Except CoordinatorError α) :
    refuses (x.map f) = refuses x := by
  rcases x with e | a
  · cases e <;> rfl
  · rfl

theorem refuses_receiveFailed {α : Type} (id : ConnectionId) (e : NetError) (s : Session) :
    refuses (.error (s.receiveFailed id e).1 : Except CoordinatorError α) = false := by
  unfold receiveFailed
  split <;> rfl

theorem refuses_sendFailed {α : Type} (id : ConnectionId) (s : Session) :
    refuses (.error (s.sendFailed id).1 : Except CoordinatorError α) = false := by
  rw [sendFailed]
  split <;> rfl

theorem refuses_nextMessage (deadline : Option Nat) (s : Session) :
    refuses (s.nextMessage deadline).1 = false := by
  have hnext := s.next_nextMessage deadline
  generalize s.nextMessage deadline = r at hnext ⊢
  cases hnext with
  | deferred m => rfl
  | nobody none_watched => rfl
  | unpolled f => rfl
  | late poll => rfl
  | @ready id c watched found =>
    rw [readFrom]
    generalize (s.polled deadline).receiveBy deadline id = r
    rcases r with ⟨e | _ | m, t⟩
    · exact refuses_receiveFailed id e t
    · rfl
    · rfl

theorem refuses_wait (s : Session) : refuses s.wait.1 = refuses (s.waitUntil none).1 := by
  rw [wait]
  generalize s.waitUntil none = r
  rcases r with ⟨e | _ | m, t⟩
  · cases e <;> rfl
  · rfl
  · rfl

/-! ### What is attached -/

/-- From `s` to `t` the announced segments were attached, and no others. -/
def Attaches (as : List SegmentAnnouncement) (s t : Session) : Prop :=
  ∀ key, t.worker.attachCount key = s.worker.attachCount key + (as.map (·.key)).count key

/-- Of the announcements that an operation reads, those whose segments it attaches: where it fails for
want of a segment, it is the last one's. -/
def attached {α : Type} (x : Except CoordinatorError α) (as : List SegmentAnnouncement) :
    List SegmentAnnouncement :=
  if refuses x then as.dropLast else as

/-- From `s` to `t` an operation that ended with `x` read the messages `read`, and attached the
segments announced among them. -/
structure TakesUp {α : Type} (x : Except CoordinatorError α) (read : List Message)
    (s t : Session) : Prop where
  received : t.env.received = s.env.received ++ read
  attaches : Attaches (attached x (announcements read)) s t
  /-- What could not be attached was announced. -/
  refused : refuses x = true → announcements read ≠ []

section TakesUp

variable {α : Type} {x : Except CoordinatorError α} {m : Message} {read : List Message}
  {s t u : Session} {as bs : List SegmentAnnouncement}

theorem Attaches.of_segments (h : t.worker.segments = s.worker.segments) : Attaches [] s t := by
  intro key
  rw [Coordinator.attachCount, h]
  rfl

theorem Attaches.trans (h : Attaches as s t) (h' : Attaches bs t u) : Attaches (as ++ bs) s u := by
  intro key
  rw [h' key, h key, List.map_append, List.count_append, Nat.add_assoc]

/-- Only the last announcement can be the one that is not attached. -/
theorem attached_append (h : refuses x = true → bs ≠ []) :
    attached x (as ++ bs) = as ++ attached x bs := by
  rw [attached, attached]
  split
  · rename_i hx
    exact List.dropLast_append_of_ne_nil (h hx)
  · rfl

theorem announcements_of_kind (h : m.kind ≠ .newSharedSegment) : announcements [m] = [] :=
  announcements_of_none (if_neg h)

/-- Where nothing is announced, nothing is attached. -/
theorem TakesUp.of_none (hx : refuses x = false) (hnone : announcements read = [])
    (hread : t.env.received = s.env.received ++ read)
    (hsegments : t.worker.segments = s.worker.segments) : TakesUp x read s t := by
  refine ⟨hread, ?_, fun h => absurd (h.symm.trans hx) (by decide)⟩
  rw [attached, hx, hnone]
  exact .of_segments hsegments

/-- One more message in front was taken up, or passed over. -/
theorem TakesUp.cons (hread : t.env.received = s.env.received ++ [m])
    (hattaches : Attaches (announcements [m]) s t) (h : TakesUp x read t u) :
    TakesUp x (m :: read) s u := by
  have hsplit : announcements (m :: read) = announcements [m] ++ announcements read :=
    announcements_append [m] read
  refine ⟨?_, ?_, fun hx => ?_⟩
  · rw [h.received, hread, List.append_assoc]
    rfl
  · rw [hsplit, attached_append h.refused]
    exact hattaches.trans h.attaches
  · rw [hsplit]
    exact List.append_ne_nil_of_right_ne_nil _ (h.refused hx)

/-- What an operation hands out does not matter. -/
theorem TakesUp.of_refuses {β : Type} {y : Except CoordinatorError β} (h : TakesUp x read s t)
    (hy : refuses y = refuses x) : TakesUp y read s t := by
  refine ⟨h.received, ?_, fun hr => h.refused (hy.symm.trans hr)⟩
  rw [attached, hy]
  exact h.attaches

/-! ### Announcements -/

theorem takeAnnouncement_attaches (hm : m.kind = .newSharedSegment)
    (h : s.takeAnnouncement m = (.ok (), t)) : Attaches (announcements [m]) s t :=
  Holding.attachCount_of_takeUp (takeAnnouncement_ok hm h)

/-- An announcement that ends the operation is the last one, and attaches nothing. -/
theorem takeAnnouncement_takesUp {e : CoordinatorError} (hm : m.kind = .newSharedSegment)
    (hread : s.env.received = u.env.received ++ [m])
    (hsegments : s.worker.segments = u.worker.segments)
    (h : s.takeAnnouncement m = (.error e, t)) :
    TakesUp (.error e : Except CoordinatorError α) [m] u t := by
  obtain ⟨a, f, ha, rfl, hrefused⟩ := takeAnnouncement_error hm h
  have hone := announcements_of_some ha
  have hquiet := s.quiet_takeAnnouncement m
  rw [h] at hquiet
  refine ⟨hquiet.received.trans hread, ?_, fun _ => by rw [hone]; exact List.cons_ne_nil a []⟩
  rw [hone]
  intro key
  have hcount : t.worker.attachCount key = s.worker.attachCount key :=
    Holding.attachCount_of_refused hrefused key
  rw [hcount, Coordinator.attachCount, hsegments]
  rfl

/-! ### Waits -/

/-- The next message attaches nothing, whatever it is. -/
theorem nextMessage_takesUp {deadline : Option Nat} {y : Except CoordinatorError (Option Message)}
    (hn : s.nextMessage deadline = (y, t)) (hy : announcements (outcome y) = []) :
    ∃ read, TakesUp y read s t := by
  have hsegments := s.segments_nextMessage deadline
  have hrefuses := s.refuses_nextMessage deadline
  rcases s.nextMessage_cases deadline with ⟨hr, -⟩ | ⟨hr, -⟩
  · rw [hn] at hr hsegments hrefuses
    exact ⟨[], .of_none hrefuses rfl (hr.trans (List.append_nil _).symm) hsegments⟩
  · rw [hn] at hr hsegments hrefuses
    exact ⟨_, .of_none hrefuses hy hr hsegments⟩

/-- **A wait attaches the segments announced among what it reads, and no others.** -/
theorem waitUntil_takesUp (deadline : Option Nat) (hq : DefersProper s) :
    ∃ read, TakesUp (s.waitUntil deadline).1 read s (s.waitUntil deadline).2 := by
  fun_induction waitUntil deadline s with
  | case1 s e t hn => exact nextMessage_takesUp hn rfl
  | case2 s t hn => exact nextMessage_takesUp hn rfl
  | case3 s m t hn hm e u ht =>
    obtain ⟨-, hr, -⟩ := nextMessage_announcement hq hm hn
    have hsegments := s.segments_nextMessage deadline
    rw [hn] at hsegments
    exact ⟨[m], takeAnnouncement_takesUp hm hr hsegments ht⟩
  | case4 s m t hn hm u ht ih =>
    -- an announcement; nothing is deferred, and the wait goes on
    obtain ⟨-, hr, hafter⟩ := nextMessage_announcement hq hm hn
    have hsegments := s.segments_nextMessage deadline
    rw [hn] at hsegments
    have hquiet := t.quiet_takeAnnouncement m
    rw [ht] at hquiet
    have hnone : u.worker.queue.items = [] := by rw [hquiet.queue, hafter]
    obtain ⟨read, h⟩ := ih (by rw [DefersProper, hnone]; exact fun m hm => absurd hm List.not_mem_nil)
    refine ⟨m :: read, h.cons (hquiet.received.trans hr) ?_⟩
    exact Attaches.trans (.of_segments hsegments) (takeAnnouncement_attaches hm ht)
  | case5 s m t hn hm => exact nextMessage_takesUp hn (announcements_of_kind hm)

theorem wait_takesUp (hq : DefersProper s) : ∃ read, TakesUp s.wait.1 read s s.wait.2 := by
  obtain ⟨read, h⟩ := waitUntil_takesUp none hq
  rw [snd_wait]
  exact ⟨read, h.of_refuses s.refuses_wait⟩

/-! ### Exchanges -/

theorem awaitReply_takesUp (id : ConnectionId) (role : Role) (expected : List Kind) (s : Session) :
    ∃ read, TakesUp (s.awaitReply id role expected).1 read s
      (s.awaitReply id role expected).2 := by
  have received {s t : Session} {x : Except NetError Message} (h : s.receive id = (x, t)) :
      t.env.received = s.env.received ++ outcome (x.map some) ∧
        t.worker.segments = s.worker.segments := by
    have hr := (s.receive_readOff id).received
    have hs : (s.receive id).2.worker.segments = s.worker.segments := rfl
    rw [h] at hr hs
    exact ⟨hr, hs⟩
  -- The induction follows the receives; each takes one message in front.
  fun_induction awaitReply id role expected s with
  | case1 s e t hr e' u hf =>
    -- the connection fails before a message is read
    obtain ⟨hread, hsegments⟩ := received hr
    have hquiet := t.quiet_receiveFailed id e
    have hfailed := (t.spares_receiveFailed id e).segments
    have hrefuses := refuses_receiveFailed (α := Message) id e t
    rw [hf] at hquiet hfailed hrefuses
    exact ⟨[], .of_none hrefuses rfl (hquiet.received.trans hread) (hfailed.trans hsegments)⟩
  | case2 s m t hr hk e u ht =>
    -- an announcement that cannot be attached ends the exchange
    obtain ⟨hread, hsegments⟩ := received hr
    exact ⟨[m], takeAnnouncement_takesUp hk hread hsegments ht⟩
  | case3 s m t hr hk u ht ih =>
    -- an announcement that is attached, in front of those that follow
    obtain ⟨hread, hsegments⟩ := received hr
    have hquiet := t.quiet_takeAnnouncement m
    rw [ht] at hquiet
    obtain ⟨read, h⟩ := ih
    refine ⟨m :: read, h.cons (hquiet.received.trans hread) ?_⟩
    exact Attaches.trans (.of_segments hsegments) (takeAnnouncement_attaches hk ht)
  | case4 s m t hr hk =>
    -- the reply announces nothing
    obtain ⟨hread, hsegments⟩ := received hr
    exact ⟨[m], .of_none rfl (announcements_of_kind hk) hread hsegments⟩
  | case5 s m t hr hk hw hclosed e u hl =>
    -- nor does a farewell
    obtain ⟨hread, hsegments⟩ := received hr
    have hquiet := t.quiet_connectionLost id
    have hlost := (t.spares_connectionLost id).segments
    have herror : (t.connectionLost id).1 = e := congrArg Prod.fst hl
    rw [hl] at hquiet hlost
    refine ⟨[m], .of_none ?_ (announcements_of_kind hk) (hquiet.received.trans hread)
      (hlost.trans hsegments)⟩
    rw [← herror]
    rfl
  | case6 s m t hr hk hw hclosed ih =>
    -- a message that is deferred leaves the segments alone
    obtain ⟨hread, hsegments⟩ := received hr
    have hquiet := t.quiet_report (.deferring m.kind role) rfl
    obtain ⟨read, h⟩ := ih
    refine ⟨m :: read, h.cons ?_ ?_⟩
    · exact (received_defer m _).trans (hquiet.received.trans hread)
    · rw [announcements_of_kind hk]
      exact .of_segments hsegments

/-- **An exchange does so too.** -/
theorem exchange_takesUp (id : ConnectionId) (request : Message) (expected : List Kind)
    (s : Session) :
    ∃ read, TakesUp (s.exchange id request expected).1 read s
      (s.exchange id request expected).2 := by
  rw [exchange]
  split
  · exact ⟨[], .of_none rfl rfl (List.append_nil _).symm rfl⟩
  · rename_i c hc
    have hquiet := s.quiet_send id request
    have hsegments : (s.send id request).2.worker.segments = s.worker.segments := rfl
    generalize s.send id request = r at hquiet hsegments ⊢
    rcases r with ⟨e | _, t⟩
    · have hfailed := (quiet_report (.exchangeSendFailed c.role e) rfl t).trans
        (quiet_sendFailed id _)
      refine ⟨[], .of_none (refuses_sendFailed id _) rfl ?_ ?_⟩
      · exact (hfailed.received.trans hquiet.received).trans (List.append_nil _).symm
      · exact (spares_sendFailed id _).segments.trans hsegments
    · obtain ⟨read, h⟩ := t.awaitReply_takesUp id c.role expected
      refine ⟨read, ?_, fun key => ?_, h.refused⟩
      · rw [h.received, hquiet.received]
      · rw [h.attaches key, Coordinator.attachCount, hsegments]
        rfl

theorem exchangeWithDatamanager_takesUp (request : Message) (expected : List Kind) (s : Session) :
    ∃ read, TakesUp (s.exchangeWithDatamanager request expected).1 read s
      (s.exchangeWithDatamanager request expected).2 := by
  rw [exchangeWithDatamanager]
  split
  · exact ⟨[], .of_none rfl rfl (List.append_nil _).symm rfl⟩
  · exact s.exchange_takesUp _ request expected

theorem sendToDatamanager_takesUp (m : Message) (s : Session) :
    ∃ read, TakesUp (s.sendToDatamanager m).1 read s (s.sendToDatamanager m).2 := by
  have hquiet := s.quiet_sendToDatamanager m
  refine ⟨[], .of_none ?_ rfl (hquiet.received.trans (List.append_nil _).symm)
    (s.segments_sendToDatamanager m)⟩
  rw [sendToDatamanager]
  split
  · rfl
  · rename_i id hd
    generalize s.send id m = r
    rcases r with ⟨e | _, t⟩
    · exact refuses_sendFailed id _
    · rfl

end TakesUp

end Session

end PipelineWorker
