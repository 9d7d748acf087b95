/-
What a shutdown gives back.

A shutdown always ends the worker and drops all connections, and a second one changes nothing.  But
it takes a worker that has ended, and has no connections left, for one that was shut down before:
what such a worker still holds stays with it (`Coordinator.Stranded`).

* `connections_removeAll` — dropping all connections leaves none;
* `shutdown_releases` — **after a shutdown nothing is held, unless the worker was stranded before**;
* `Serving.released_iff` — a worker that was started gives everything back if it has a connection
  left, and only then;
* `dispose_releases` — the end of the worker gives back also what a shutdown left alone.
-/
import PipelineWorker.Proofs.Fatality

namespace PipelineWorker

namespace Coordinator

/-- The worker has ended and holds nothing. -/
structure Released (p : Coordinator) : Prop where
  stage : p.stage = .terminated
  connections : p.connections.isEmpty = true
  controller : p.controller = none
  datamanager : p.datamanager = none
  access : p.segments = none
  working : p.workingSegment? = none
  segment : ∀ key, p.segment? key = none

/-- The worker has ended and has no connections left, but it still holds something. -/
structure Stranded (p : Coordinator) : Prop where
  stage : p.stage = .terminated
  connections : p.connections.isEmpty = true
  holds : p.segments ≠ none ∨ p.controller ≠ none ∨ p.datamanager ≠ none

theorem Released.of_access {p : Coordinator} (stage : p.stage = .terminated)
    (connections : p.connections.isEmpty = true) (controller : p.controller = none)
    (datamanager : p.datamanager = none) (access : p.segments = none) : p.Released := by
  refine ⟨stage, connections, controller, datamanager, access, ?_, fun key => ?_⟩
  · rw [workingSegment?, access, Option.bind_none]
  · rw [segment?, access, Option.bind_none]

end Coordinator

namespace Session

/-! ### Dropping all connections -/

/-- The oldest connection is the one that is found under its number. -/
theorem connections_remove_cons {s : Session} {c : Connection} {cs : List Connection}
    (h : s.worker.connections.connections = c :: cs) :
    (s.remove c.id).2.worker.connections.connections = cs := by
  refine (Registry.connections_remove c.id s.worker.connections s.env).trans ?_
  rw [h]
  exact List.eraseP_cons_of_pos (decide_eq_true rfl)

/-- **Dropping all connections leaves none.** -/
theorem connections_removeAll (s : Session) :
    (s.removeAll (s.worker.connections.connections.map (·.id))).worker.connections.connections
      = [] := by
  generalize hcs : s.worker.connections.connections = cs
  -- The list is fixed before the first connection is dropped; it goes on to fit what is left.
  induction cs generalizing s with
  | nil => exact hcs
  | cons c cs ih =>
    have hrest := ih (s.remove c.id).2 (connections_remove_cons hcs)
    exact hrest

theorem worker_removeAll (ids : List ConnectionId) (s : Session) :
    (s.removeAll ids).worker
      = { s.worker with connections := (s.removeAll ids).worker.connections } := by
  induction ids generalizing s with
  | nil => rfl
  | cons id ids ih => exact ih (s.remove id).2

/-! ### Shutting down -/

theorem shutdown_of_idle {s : Session} (hstage : s.worker.stage = .terminated)
    (hconnections : s.worker.connections.isEmpty = true) : s.shutdown = s :=
  if_pos ⟨hstage, hconnections⟩

theorem released_of_busy {s : Session}
    (h : ¬ (s.worker.stage = .terminated ∧ s.worker.connections.isEmpty)) :
    s.shutdown.worker.Released := by
  rw [shutdown, if_neg h]
  dsimp only
  generalize hu : (s.report (.shuttingDown s.worker.config.moduleName)).releaseSegments = u
  have hsegments : u.worker.segments = none := by rw [← hu]; rfl
  refine .of_access rfl ?_ rfl rfl ?_
  · show (u.removeAll _).worker.connections.connections.isEmpty = true
    rw [connections_removeAll u]
    rfl
  · show (u.removeAll _).worker.segments = none
    rw [worker_removeAll]
    exact hsegments

theorem ended_shutdown (s : Session) :
    s.shutdown.worker.stage = .terminated ∧ s.shutdown.worker.connections.isEmpty = true := by
  by_cases h : s.worker.stage = .terminated ∧ s.worker.connections.isEmpty
  · rw [shutdown_of_idle h.1 h.2]
    exact h
  · have hreleased := released_of_busy h
    exact ⟨hreleased.stage, hreleased.connections⟩

theorem released_iff_not_stranded (s : Session) :
    s.shutdown.worker.Released ↔ ¬ s.worker.Stranded := by
  by_cases h : s.worker.stage = .terminated ∧ s.worker.connections.isEmpty
  · -- the shutdown does nothing, so that the worker holds what it held before
    rw [shutdown_of_idle h.1 h.2]
    constructor
    · rintro hreleased ⟨-, -, hheld | hheld | hheld⟩
      · exact hheld hreleased.access
      · exact hheld hreleased.controller
      · exact hheld hreleased.datamanager
    · intro hnot
      have hholds : ¬ (s.worker.segments ≠ none ∨ s.worker.controller ≠ none ∨
          s.worker.datamanager ≠ none) := fun hheld => hnot ⟨h.1, h.2, hheld⟩
      simp only [not_or, ne_eq, Classical.not_not] at hholds
      obtain ⟨haccess, hcontroller, hdatamanager⟩ := hholds
      exact .of_access h.1 h.2 hcontroller hdatamanager haccess
  · exact ⟨fun _ hstranded => h ⟨hstranded.stage, hstranded.connections⟩,
      fun _ => released_of_busy h⟩

/-- **After a shutdown the worker has ended, no connection is left, and a second shutdown changes
nothing; and nothing is held, unless the worker was stranded before.** -/
theorem shutdown_releases (s : Session) :
    s.shutdown.worker.stage = .terminated ∧ s.shutdown.worker.connections.isEmpty = true ∧
      s.shutdown.shutdown = s.shutdown ∧
      (s.shutdown.worker.Released ↔ ¬ s.worker.Stranded) := by
  obtain ⟨hstage, hconnections⟩ := s.ended_shutdown
  exact ⟨hstage, hconnections, shutdown_of_idle hstage hconnections,
    s.released_iff_not_stranded⟩

/-- A worker that was started loses its controller and its datamanager, and is then shut down: it
keeps its segment. -/
theorem held_after_shutdown :
    let s := (fresh (.ofController "127.0.0.1" 4000) 7
      .cooperative).handshake.2.popDeferred.2.wait.2.wait.2
    Reachable s ∧ s.shutdown.worker.workingSegment?.isSome = true ∧
      s.shutdown.worker.segments.isSome = true := by
  intro s
  have hhandshake := Reachable.call (.fresh (.ofController "127.0.0.1" 4000) 7 .cooperative)
    .handshake
  have hs : Reachable s := ((hhandshake.call .popDeferred).call .wait).call .wait
  exact ⟨hs, by decide +kernel, by decide +kernel⟩

/-! ### A worker that was started -/

theorem isSome_segments_of_handshake {config : ModuleConfig} {pid : UInt32} {env : Environment}
    {u : Session} (h : (fresh config pid env).handshake = (.ok (), u)) :
    u.worker.segments.isSome = true := by
  obtain ⟨m, port, id, reply, t₁, t₂, t₃, t₄, t₅, t₆, t₇, hs⟩ := (handshake_eq_ok rfl).1 h
  have hattached : t₆.worker.segments.isSome = true := by
    obtain ⟨a, handle, -, hattach, rfl⟩ := Coordinated.assignedSegment_eq_ok.1 hs.assignedSegment
    rw [(Coordinated.afterSegment_of_ok hattach).1]
    rfl
  obtain ⟨v, hsent, ht₇⟩ := Coordinated.announcePid_eq_ok.1 hs.announcePid
  have hsteps := t₆.steps_sendToDatamanager (ProcessIdAnnouncement.toMessage ⟨t₆.worker.pid⟩)
  rw [hsent] at hsteps
  rw [hs.finish, ht₇]
  exact hsteps.isSome_segments hattached

/-- Whatever becomes of its connections, the worker keeps its segments. -/
theorem Serving.isSome_segments {s : Session} (h : Serving s) :
    s.worker.segments.isSome = true := by
  induction h with
  | started h => exact isSome_segments_of_handshake (handshake_of_start h)
  | task h task ih => exact (steps_task task _).isSome_segments ih
  | popDeferred h ih => exact ih
  | addConnection h role endpoint port timeout ih => exact ih
  | meanwhile h passes ih => exact ih

/-- A worker that was started has ended once it has no connections left. -/
theorem Serving.terminated_of_isEmpty {s : Session} (h : Serving s)
    (hempty : s.worker.connections.isEmpty = true) : s.worker.stage = .terminated := by
  obtain ⟨hserves, -⟩ := h.serves
  refine hserves.stage.resolve_left fun hrunning => ?_
  obtain ⟨id, hid⟩ := Option.isSome_iff_exists.1 (hserves.staffed hrunning).1
  -- while it runs, its controller is registered
  have hrole := hserves.controller id hid
  have hnone : s.worker.connections.get? id = none := by
    rw [Registry.get?, List.isEmpty_iff.1 hempty]
    rfl
  rw [role?_standing, hnone] at hrole
  cases hrole

/-- **A worker that was started gives everything back if it has a connection left, and only
then.** -/
theorem Serving.released_iff {s : Session} (h : Serving s) :
    s.shutdown.worker.Released ↔ s.worker.connections.isEmpty = false := by
  rw [released_iff_not_stranded, ← Bool.not_eq_true]
  refine not_congr ⟨fun hstranded => hstranded.connections, fun hempty => ?_⟩
  refine ⟨h.terminated_of_isEmpty hempty, hempty, .inl fun hnone => ?_⟩
  have hsome := h.isSome_segments
  rw [hnone] at hsome
  cases hsome

/-- **The end of a worker gives back what a shutdown left alone.** -/
theorem dispose_releases (s : Session) :
    s.dispose.worker.stage = .terminated ∧ s.dispose.worker.connections.isEmpty = true ∧
      s.dispose.worker.segments = none := by
  obtain ⟨hstage, hconnections⟩ := s.ended_shutdown
  exact ⟨hstage, hconnections, rfl⟩

end Session

end PipelineWorker
