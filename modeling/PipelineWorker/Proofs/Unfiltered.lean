/-
Direct receives from the datamanager.

They hand out every message as it comes.  An announcement of a segment is handed out like any other
message, and its segment is not attached.

* `receiveFromDatamanager_eq_ok` — one receive takes one message off the stream of the datamanager;
* `exists_receives_iff` — so any number of them hand out that many messages of the stream;
* `receives_unfiltered` — **they hand out all messages in their order, attach nothing, and look for
  the first message that is no announcement only where that comes first**.
-/
import PipelineWorker.Proofs.Handshake
import PipelineWorker.Proofs.Segments

namespace PipelineWorker

namespace Session

/-- Direct receives one after the other, and the messages that they hand out. -/
inductive Receives : Session → List Message → Session → Prop
  | none (s : Session) : Receives s [] s
  | more {s t u : Session} {m : Message} {ms : List Message}
      (first : s.receiveFromDatamanager = (.ok m, t)) (rest : Receives t ms u) :
      Receives s (m :: ms) u

section

variable {id : ConnectionId} {c : Connection} {s t : Session} {m : Message} {ms : List Message}

/-! ### One receive -/

/-- A direct receive hands out what comes on the connection. -/
theorem receiveFromDatamanager_eq_ok (hd : s.worker.datamanager = some id) :
    s.receiveFromDatamanager = (.ok m, t) ↔ s.receive id = (.ok m, t) := by
  rw [receiveFromDatamanager, hd]
  dsimp only
  rcases s.receive id with ⟨e | m', u⟩
  · constructor <;> intro h <;> cases h
  · constructor <;> intro h <;> cases h <;> rfl

theorem Reads.datamanager {c' : Connection} (h : Reads id c c' s t) :
    t.worker.datamanager = s.worker.datamanager := by
  rw [h.worker]

/-! ### All of them -/

/-- **Direct receives attach nothing.** -/
theorem Receives.keeps (h : Receives s ms t) (hd : s.worker.datamanager = some id)
    (hc : s.worker.connections.get? id = some c) (hs : c.InStep s.env.net) :
    t.holding = s.holding ∧ t.worker.queue = s.worker.queue := by
  induction h generalizing c with
  | none s => exact ⟨rfl, rfl⟩
  | more first rest ih =>
    obtain ⟨m₀, n, c', -, -, hreads, -, -, -⟩ :=
      receive_ok hc hs ((receiveFromDatamanager_eq_ok hd).1 first)
    obtain ⟨hholding, hqueue⟩ := ih (hreads.datamanager.trans hd) hreads.found hreads.inStep
    exact ⟨hholding.trans hreads.holding, hqueue.trans hreads.queue⟩

/-- **They hand out the first messages of the stream, whatever these are.** -/
theorem exists_receives_iff (hd : s.worker.datamanager = some id)
    (hc : s.worker.connections.get? id = some c) (hs : c.InStep s.env.net) (ha : c.alive = true) :
    (∃ t, Receives s ms t) ↔
      ms <+: (Frame.messages (c.stream s.env.net)).map (·.withOrigin id) := by
  -- The induction follows the receives, each of which shortens the stream by a frame.
  induction ms generalizing s c with
  | nil => exact ⟨fun _ => List.nil_prefix, fun _ => ⟨s, .none s⟩⟩
  | cons m ms ih =>
    constructor
    · rintro ⟨u, h⟩
      cases h with
      | more first rest =>
        obtain ⟨m₀, n, c', rfl, hframe, hreads, ha', hrest, -⟩ :=
          receive_ok hc hs ((receiveFromDatamanager_eq_ok hd).1 first)
        rw [Frame.messages_eq_cons hframe, List.map_cons, ← hrest]
        exact List.cons_prefix_cons.2
          ⟨rfl, (ih (hreads.datamanager.trans hd) hreads.found hreads.inStep ha').1 ⟨u, rest⟩⟩
    · rintro ⟨rest, hstream⟩
      obtain ⟨m₀, msgs, hmsgs, rfl, htail⟩ := List.map_eq_cons_iff.1 hstream.symm
      obtain ⟨hframe, hdrop⟩ := Frame.decode_of_messages_eq_cons hmsgs
      obtain ⟨t, ht⟩ := receive_of_frame hc hs ha hframe
      obtain ⟨m₁, n, c', -, hframe', hreads, ha', hrest, -⟩ := receive_ok hc hs ht
      obtain ⟨rfl, rfl⟩ := Frame.decode_unique hframe hframe'
      rw [← hdrop, ← hrest] at htail
      obtain ⟨u, hu⟩ := (ih (hreads.datamanager.trans hd) hreads.found hreads.inStep ha').2
        ⟨rest, htail.symm⟩
      exact ⟨u, .more ((receiveFromDatamanager_eq_ok hd).2 ht) hu⟩

/-- A receive looks for the first message that is no announcement only where that comes first. -/
theorem receive_scans_iff (hd : s.worker.datamanager = some id)
    (hc : s.worker.connections.get? id = some c) (hs : c.InStep s.env.net)
    (h : s.receiveFromDatamanager = (.ok m, t)) (role : Role) (dir : String) :
    (∃ passed left, Scan id role (fun _ => True) dir (c.stream s.env.net) s.holding passed (.ok m)
      t.holding left) ↔ m.kind ≠ .newSharedSegment := by
  obtain ⟨m₀, n, c', rfl, hframe, hreads, -, -, -⟩ :=
    receive_ok hc hs ((receiveFromDatamanager_eq_ok hd).1 h)
  constructor
  · rintro ⟨passed, left, hscan⟩
    obtain ⟨mid, -, hverdict⟩ := hscan.verdict
    generalize hx : (.ok (m₀.withOrigin id) : Except CoordinatorError Message) = x at hverdict
    cases hverdict with
    | answer frame kind kind_wanted =>
      rw [Except.ok.inj hx]
      exact kind
    | closed => cases hx
    | unattachable => cases hx
    | oversized => cases hx
    | ended => cases hx
  · intro hkind
    rw [hreads.holding]
    exact ⟨[], _, Verdict.scan (.answer hframe hkind trivial)⟩

/-- **Direct receives hand out all messages in their order and attach nothing; they look for the
first message that is no announcement only where that comes first.** -/
theorem receives_unfiltered (h : Reachable s) (hd : s.worker.datamanager = some id)
    (hc : s.worker.connections.get? id = some c) (ha : c.alive = true) :
    (∀ ms, (∃ t, Receives s ms t) ↔
      ms <+: (Frame.messages (c.stream s.env.net)).map (·.withOrigin id)) ∧
    (∀ ms t, Receives s ms t → t.holding = s.holding ∧ t.worker.queue = s.worker.queue) ∧
    ∀ m t, s.receiveFromDatamanager = (.ok m, t) →
      ((∃ passed left, Scan id c.role (fun _ => True) s.worker.config.segmentDir
        (c.stream s.env.net) s.holding passed (.ok m) t.holding left) ↔
          m.kind ≠ .newSharedSegment) :=
  have hs := h.sound.get? hc
  ⟨fun _ => exists_receives_iff hd hc hs ha, fun _ _ hreceives => hreceives.keeps hd hc hs,
    fun _ _ hreceive => receive_scans_iff hd hc hs hreceive _ _⟩

end

end Session

/-- A datamanager that announces a segment behind its reply, and says more behind that. -/
def Listener.growing : Listener :=
  { Listener.supplying with
    script := [(0, .data [0, 0, 0, 13, 0, 0, 0, 8, 0, 0, 0, 1, 0, 0, 0, 64, 0, 0, 0, 14, 0, 0, 0, 8,
      0, 0, 0, 90, 0, 0, 32, 0, 0, 0, 0, 6, 0, 0, 0, 0])] }

namespace Session

/-- A worker that was started there. -/
def grown : Session :=
  (Call.handshake.run (fresh (.ofController "127.0.0.1" 4000) 7
    { net := { listeners := [.assigning, .growing] } })).2

theorem reachable_grown : Reachable grown := (Reachable.fresh _ _ _).call .handshake

/-- Both messages are handed out, and the second segment is not attached. -/
theorem receives_unfiltered_grown :
    Reachable grown ∧ grown.worker.datamanager = some ⟨1⟩ ∧
      ∃ c, grown.worker.connections.get? ⟨1⟩ = some c ∧ c.alive = true ∧
      ∃ t, Receives grown
          [(Message.ofBytes .newSharedSegment [0, 0, 0, 90, 0, 0, 32, 0]).withOrigin ⟨1⟩,
            (Message.ofBytes .info []).withOrigin ⟨1⟩] t ∧
        t.holding = grown.holding := by
  have hd : grown.worker.datamanager = some ⟨1⟩ := by decide +kernel
  have hstream : (grown.worker.connections.get? ⟨1⟩).map
      (fun c => (c.alive, Frame.messages (c.stream grown.env.net))) =
        some (true, [Message.ofBytes .newSharedSegment [0, 0, 0, 90, 0, 0, 32, 0],
          Message.ofBytes .info []]) := by decide +kernel
  obtain ⟨c, hc, hfacts⟩ := Option.map_eq_some_iff.1 hstream
  obtain ⟨ha, hmessages⟩ := Prod.mk.inj hfacts
  obtain ⟨hall, hkeeps, -⟩ := receives_unfiltered reachable_grown hd hc ha
  have hwhole := congrArg (List.map (·.withOrigin ⟨1⟩)) hmessages
  obtain ⟨t, ht⟩ := (hall _).2 ⟨[], (List.append_nil _).trans hwhole.symm⟩
  exact ⟨reachable_grown, hd, c, hc, ha, t, ht, (hkeeps _ t ht).1⟩

/-- There a direct receive hands out an announcement, and the worker, which runs, has not attached
the segment. -/
theorem announcement_handed_out :
    Reachable grown ∧ grown.worker.stage = .running ∧
      grown.receiveFromDatamanager.1 =
        .ok ((Message.ofBytes .newSharedSegment [0, 0, 0, 90, 0, 0, 32, 0]).withOrigin ⟨1⟩) ∧
      grown.receiveFromDatamanager.2.worker.attachCount ⟨90⟩ = 0 :=
  ⟨reachable_grown, by decide +kernel, by decide +kernel, by decide +kernel⟩

end Session

end PipelineWorker
