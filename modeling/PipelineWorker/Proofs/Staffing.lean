/-
Whom a worker depends on, at every stage.

A worker takes one connection for its controller and one for its datamanager.  It is `Staffed` if
these two are registered as what it takes them for, and if it has both for as long as it runs.
However the use of a connection ends, this stays so; the worker may have lost connections by then, or
have ended, but it has come no further (`Declines`).

* `After.staffed`, `Waited.staffed` — an operation on a connection and a wait keep a worker staffed;
* `After.isFatal`, `Waited.isFatal` — what they fail with is fatal, unless the connection leads to a
  peer;
* `Staffed.joined` — a new connection changes nothing for the others;
* `Numbered.role?_joined` — for as long as the numbers last, it is found under its own;
* `Session.Steps.declines` — no operation adds a connection, or moves the stage but to its end.
-/
import PipelineWorker.Proofs.Standing

namespace PipelineWorker

namespace Standing

/-- The connections that the worker takes for its controller and its datamanager are registered as
that, and while it runs it has both. -/
structure Staffed (p : Standing) : Prop where
  controller : ∀ id, p.controller = some id → p.role? id = some .controller
  datamanager : ∀ id, p.datamanager = some id → p.role? id = some .datamanager
  complete : p.stage = .running → p.controller.isSome ∧ p.datamanager.isSome

/-- From `p` to `q` connections may have been lost, and the worker may have ended. -/
structure Declines (p q : Standing) : Prop where
  stage : q.stage = p.stage ∨ q.stage = .terminated
  roster : q.roster.Sublist p.roster
  nextId : q.nextId = p.nextId

section

variable {p q r : Standing} {id : ConnectionId} {role : Role}

/-! ### What the loss of a connection leaves -/

theorem Declines.refl (p : Standing) : Declines p p := ⟨.inl rfl, .refl _, rfl⟩

theorem Declines.trans (h : Declines p q) (h' : Declines q r) : Declines p r := by
  refine ⟨?_, h'.roster.trans h.roster, h'.nextId.trans h.nextId⟩
  rcases h'.stage with hr | hr
  · rw [hr]
    exact h.stage
  · exact .inr hr

theorem declines_without (id : ConnectionId) (p : Standing) : Declines p (p.without id) :=
  ⟨.inl rfl, List.eraseP_sublist, rfl⟩

theorem declines_ended (p : Standing) : Declines p p.ended := by
  unfold ended
  split
  · exact .refl p
  · exact ⟨.inr rfl, .refl _, rfl⟩

/-! ### Who is left -/

theorem eq_some_of_forgotten {x : Option ConnectionId} {j : ConnectionId}
    (h : (if x = some id then none else x) = some j) : x = some j ∧ j ≠ id := by
  split at h
  · cases h
  · rename_i hne
    exact ⟨h, fun hj => hne (by rw [h, hj])⟩

theorem stage_ended_ne (p : Standing) : p.ended.stage ≠ .running := by
  unfold ended
  split
  · rename_i hstage
    intro h
    rw [h] at hstage
    cases hstage
  · exact Stage.noConfusion

/-- A worker that ends may give up any connection. -/
theorem Staffed.ended_without (h : p.Staffed) (id : ConnectionId) :
    (p.without id).ended.Staffed := by
  have hrest : (p.without id).ended.controller = (p.without id).controller ∧
      (p.without id).ended.datamanager = (p.without id).datamanager := by
    unfold ended
    split <;> exact ⟨rfl, rfl⟩
  refine ⟨fun j hj => ?_, fun j hj => ?_, fun hs => absurd hs (stage_ended_ne _)⟩
  · obtain ⟨hj, hne⟩ := eq_some_of_forgotten (hrest.1.symm.trans hj)
    rw [role?_ended, role?_without_ne p hne]
    exact h.controller j hj
  · obtain ⟨hj, hne⟩ := eq_some_of_forgotten (hrest.2.symm.trans hj)
    rw [role?_ended, role?_without_ne p hne]
    exact h.datamanager j hj

/-- Nothing depends on a peer. -/
theorem Staffed.without_peer (h : p.Staffed) (hrole : (p.role? id).getD .peer = .peer) :
    (p.without id).Staffed := by
  have hcontroller : (p.without id).controller = p.controller := by
    refine if_neg fun hid => ?_
    rw [h.controller id hid] at hrole
    cases hrole
  have hdatamanager : (p.without id).datamanager = p.datamanager := by
    refine if_neg fun hid => ?_
    rw [h.datamanager id hid] at hrole
    cases hrole
  refine ⟨fun j hj => ?_, fun j hj => ?_, fun hs => ?_⟩
  · obtain ⟨hj, hne⟩ := eq_some_of_forgotten hj
    rw [role?_without_ne p hne]
    exact h.controller j hj
  · obtain ⟨hj, hne⟩ := eq_some_of_forgotten hj
    rw [role?_without_ne p hne]
    exact h.datamanager j hj
  · rw [hcontroller, hdatamanager]
    exact h.complete hs

theorem Staffed.lose (h : p.Staffed) (id : ConnectionId) : (p.lose id).Staffed := by
  rw [Standing.lose]
  split
  · exact h.without_peer ‹_›
  · exact h.ended_without id

theorem Staffed.fails {e : CoordinatorError} (h : p.Staffed) (hf : p.Fails id e q) :
    q.Staffed := by
  cases hf with
  | unknown missing => exact h
  | lost found => exact h.lose id
  | garbled found e => exact h.lose id
  | unsent datamanager => exact h.ended_without id

/-- **An operation on a connection keeps a worker staffed, however it ends.** -/
theorem After.staffed {α : Type} {x : Except CoordinatorError α} (ha : p.After id x q)
    (h : p.Staffed) : q.Staffed := by
  cases ha with
  | done a => exact h
  | failed fails => exact h.fails fails
  | unattachable key size reason => exact h

/-- **So does a wait.** -/
theorem Waited.staffed {α : Type} {x : Except CoordinatorError α} (hw : p.Waited x q)
    (h : p.Staffed) : q.Staffed := by
  cases hw with
  | done a => exact h
  | unpolled f => exact h
  | failed watched found fails => exact h.fails fails
  | unattachable key size reason => exact h

/-! ### What a worker cannot go on without -/

theorem Staffed.ne_peer_of_watched (h : p.Staffed) (hmem : id ∈ p.watched)
    (hrole : p.role? id = some role) : role ≠ .peer := by
  rintro rfl
  rcases List.mem_append.1 hmem with hmem | hmem
  · rw [h.controller id (Option.mem_toList.1 hmem)] at hrole
    cases hrole
  · rw [h.datamanager id (Option.mem_toList.1 hmem)] at hrole
    cases hrole

/-- A connection that leads to no peer fails fatally. -/
theorem Fails.isFatal {e : CoordinatorError} (hf : p.Fails id e q) (found : p.role? id = some role)
    (hne : role ≠ .peer) : e.isFatal = true := by
  cases hf with
  | unknown missing =>
    rw [found] at missing
    cases missing
  | @lost role' found' =>
    obtain rfl := Option.some.inj (found.symm.trans found')
    exact CoordinatorError.isFatal_peerDisconnected_iff.2 hne
  | garbled found' e => rfl
  | unsent datamanager => rfl

/-- So does an operation on it. -/
theorem After.isFatal {α : Type} {e : CoordinatorError}
    (ha : p.After id (.error e : Except CoordinatorError α) q) (found : p.role? id = some role)
    (hne : role ≠ .peer) : e.isFatal = true := by
  cases ha with
  | failed fails => exact fails.isFatal found hne
  | unattachable key size reason => rfl

/-- And a wait, which watches no peer. -/
theorem Waited.isFatal {α : Type} {e : CoordinatorError}
    (hw : p.Waited (.error e : Except CoordinatorError α) q) (h : p.Staffed) :
    e.isFatal = true := by
  cases hw with
  | unpolled f => rfl
  | failed watched found fails => exact fails.isFatal found (h.ne_peer_of_watched watched found)
  | unattachable key size reason => rfl

/-! ### New connections -/

theorem role?_joined_of_some {j : ConnectionId} (hj : p.role? j = some role) (new : Role) :
    (p.joined new).role? j = some role := by
  obtain ⟨x, hx, rfl⟩ := Option.map_eq_some_iff.1 hj
  rw [role?, joined]
  dsimp only
  rw [List.find?_append, hx, Option.some_or, Option.map_some]

theorem Staffed.joined (h : p.Staffed) (role : Role) : (p.joined role).Staffed :=
  ⟨fun j hj => role?_joined_of_some (h.controller j hj) role,
    fun j hj => role?_joined_of_some (h.datamanager j hj) role, h.complete⟩

/-- After `n` attempts to connect: the next number follows from that, and those of the registered
connections were given out before, to one connection each for as long as they last. -/
structure Numbered (n : Nat) (p : Standing) : Prop where
  nextId : p.nextId = UInt32.ofNat n
  roster : ∀ x ∈ p.roster, x.1.number.toNat < n
  distinct : n ≤ UInt32.size → (p.roster.map (·.1)).Nodup

/-- The stage and those whom the worker depends on do not matter to that. -/
theorem Numbered.of_eq {n : Nat} (h : p.Numbered n) (hnext : q.nextId = p.nextId)
    (hroster : q.roster = p.roster) : q.Numbered n := by
  refine ⟨hnext.trans h.nextId, ?_, ?_⟩
  · rw [hroster]
    exact h.roster
  · rw [hroster]
    exact h.distinct

theorem Numbered.declines {n : Nat} (h : p.Numbered n) (hd : Declines p q) : q.Numbered n :=
  ⟨hd.nextId.trans h.nextId, fun x hx => h.roster x (hd.roster.subset hx),
    fun hn => (h.distinct hn).sublist (hd.roster.map _)⟩

theorem Numbered.skipped {n : Nat} (h : p.Numbered n) :
    Numbered (n + 1) { p with nextId := p.nextId + 1 } := by
  refine ⟨?_, fun x hx => Nat.lt_succ_of_lt (h.roster x hx), fun hn => h.distinct (Nat.le_of_lt hn)⟩
  show p.nextId + 1 = _
  rw [h.nextId, UInt32.ofNat_add]
  rfl

/-- For as long as the numbers last, the next one is not in use. -/
theorem Numbered.fresh {n : Nat} (h : p.Numbered n) (hn : n < UInt32.size) {x : ConnectionId × Role}
    (hx : x ∈ p.roster) : x.1 ≠ ⟨p.nextId⟩ := by
  intro heq
  have hlt := h.roster x hx
  rw [heq, h.nextId, UInt32.toNat_ofNat', Nat.mod_eq_of_lt hn] at hlt
  exact Nat.lt_irrefl n hlt

theorem Numbered.joined {n : Nat} (h : p.Numbered n) (role : Role) :
    (p.joined role).Numbered (n + 1) := by
  refine ⟨h.skipped.nextId, fun x hx => ?_, fun hn => ?_⟩
  · rcases List.mem_append.1 hx with hx | hx
    · exact Nat.lt_succ_of_lt (h.roster x hx)
    · rw [List.mem_singleton.1 hx]
      show p.nextId.toNat < n + 1
      rw [h.nextId, UInt32.toNat_ofNat']
      exact Nat.lt_succ_of_le (Nat.mod_le _ _)
  · rw [Standing.joined]
    dsimp only
    rw [List.map_append]
    refine List.Nodup.append (h.distinct (Nat.le_of_lt hn)) (List.nodup_singleton _) ?_
    rw [List.map_singleton, List.disjoint_singleton]
    intro hmem
    obtain ⟨x, hx, heq⟩ := List.mem_map.1 hmem
    exact h.fresh hn hx heq

/-- **For as long as the numbers last, a new connection is found under its own.** -/
theorem Numbered.role?_joined {n : Nat} (h : p.Numbered n) (hn : n < UInt32.size) (role : Role) :
    (p.joined role).role? ⟨p.nextId⟩ = some role := by
  have hnone : p.roster.find? (·.1 = ⟨p.nextId⟩) = none :=
    List.find?_eq_none.2 fun x hx heq => h.fresh hn hx (of_decide_eq_true heq)
  rw [role?, Standing.joined]
  dsimp only
  rw [List.find?_append, hnone, Option.none_or]
  simp

end

end Standing

namespace Session

open Standing

/-! ### What operations do -/

theorem Use.declines {id : ConnectionId} {s t : Session} (h : Use id s t) :
    s.standing.Declines t.standing := by
  cases h with
  | report event => exact .refl _
  | send m => exact (s.standing_send id m).symm ▸ .refl _
  | receive deadline => exact (s.standing_receiveBy deadline id).symm ▸ .refl _
  | takeAnnouncement m => exact (s.standing_takeAnnouncement m).symm ▸ .refl _
  | defer m => exact .refl _
  | drop => exact (s.standing_drop id).symm ▸ declines_without id s.standing
  | terminate => exact s.standing_terminate.symm ▸ declines_ended s.standing

/-- **No operation adds a connection, or moves the stage but to its end.** -/
theorem Steps.declines {s t : Session} (h : Steps s t) : s.standing.Declines t.standing := by
  refine h.keeps (P := fun s t => s.standing.Declines t.standing) (fun s => .refl _)
    (fun h h' => h.trans h') fun step => ?_
  cases step with
  | use use => exact use.declines
  | poll => exact .refl _
  | takeAnnouncement => exact (standing_takeAnnouncement _ _).symm ▸ .refl _
  | pop => exact .refl _

end Session

end PipelineWorker
