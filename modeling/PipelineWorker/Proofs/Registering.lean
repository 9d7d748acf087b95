/-
Who is registered, as the calls tell it.

Connections are added, or cannot be made, and removed, in any order and in any surroundings.  What a
registry then knows is told by what was called and answered.

* `Registered`, `Newer` — what was added and not removed since, and which of two was added later;
* `Reflects.added`, `Reflects.refused`, `Reflects.removed` — what every call keeps up;
* `refines_of_calls` — **for as long as the numbers last, a registry is a map that keeps the order
  in which its entries were added.**
-/
import PipelineWorker.Proofs.Diary
import PipelineWorker.Proofs.Registry

namespace PipelineWorker

namespace Registry

/-! ### Calls -/

/-- A call on a registry. -/
inductive Call
  | add (role : Role) (endpoint : Endpoint) (port : Port) (timeout : Option Nat)
  | remove (id : ConnectionId)

/-- Whether the call uses a number up. -/
def Call.isAdd : Call → Bool
  | .add .. => true
  | .remove _ => false

/-- What came of a call. -/
inductive Entry
  | added (c : Connection)
  | refused (e : NetError)
  | removed (id : ConnectionId) (c : Option Connection)

namespace Entry

/-- Whether a number was used up. -/
def isAdd : Entry → Bool
  | added _ => true
  | refused _ => true
  | removed .. => false

/-- The connection that was added. -/
def added? : Entry → Option Connection
  | added c => some c
  | refused _ => none
  | removed .. => none

end Entry

/-- Makes a call.  A connection that is added is on the next link of the network. -/
def Call.make : Call → Environment → Registry → Entry × Registry
  | .add role endpoint port timeout, env, r =>
    match r.add role endpoint port timeout env with
    | (.ok id, r', _) => (.added { id, role, endpoint, port, link := env.net.links.length }, r')
    | (.error e, r', _) => (.refused e, r')
  | .remove id, env, r => (.removed id (r.remove id env).1, (r.remove id env).2.1)

/-- Makes calls on a registry that is empty at first, each call in surroundings of its own. -/
def Call.run (calls : List (Call × Environment)) : Diary Registry Entry :=
  Diary.run (fun c => c.1.make c.2) calls {}

/-- An add uses up a number, and it adds a connection of that number behind the others if it can. -/
theorem add_cases (role : Role) (endpoint : Endpoint) (port : Port) (timeout : Option Nat)
    (r : Registry) (env : Environment) :
    (∃ e env', r.add role endpoint port timeout env
      = (.error e, { r with nextId := r.nextId + 1 }, env')) ∨
    ∃ env', r.add role endpoint port timeout env
      = (.ok ⟨r.nextId⟩,
        { connections := r.connections ++
            [{ id := ⟨r.nextId⟩, role, endpoint, port, link := env.net.links.length }]
          nextId := r.nextId + 1 }, env') := by
  rw [add]
  cases hd : Connection.dial ⟨r.nextId⟩ role endpoint port timeout env with
  | mk x env' =>
    cases x with
    | error e => exact .inl ⟨e, env', rfl⟩
    | ok c =>
      obtain ⟨l, -, ho, hc, -⟩ := Connection.dial_ok hd
      refine .inr ⟨env', ?_⟩
      rw [hc, ho.number]

/-- All that a call can do. -/
theorem Call.make_cases (c : Call) (env : Environment) (r : Registry) :
    (∃ e, c.isAdd = true ∧ c.make env r = (.refused e, { r with nextId := r.nextId + 1 })) ∨
    (∃ x, c.isAdd = true ∧ x.id = ⟨r.nextId⟩ ∧ c.make env r
      = (.added x, { connections := r.connections ++ [x], nextId := r.nextId + 1 })) ∨
    ∃ id x, c.isAdd = false ∧ c.make env r = (.removed id x, (r.remove id env).2.1) := by
  cases c with
  | remove id => exact .inr (.inr ⟨id, _, rfl, rfl⟩)
  | add role endpoint port timeout =>
    rcases add_cases role endpoint port timeout r env with ⟨e, env', h⟩ | ⟨env', h⟩
    · exact .inl ⟨e, rfl, by rw [make, h]⟩
    · exact .inr (.inl ⟨_, rfl, rfl, by rw [make, h]⟩)

theorem Call.isAdd_make (c : Call) (env : Environment) (r : Registry) :
    (c.make env r).1.isAdd = c.isAdd := by
  rcases c.make_cases env r with ⟨e, ha, h⟩ | ⟨x, ha, -, h⟩ | ⟨id, x, ha, h⟩ <;> rw [h, ha] <;> rfl

/-! ### What the entries tell -/

/-- The connections that were ever added, latest first. -/
def added (es : List Entry) : List Connection := es.filterMap Entry.added?

/-- The connection was added, and its number was not removed since. -/
def Registered (es : List Entry) (c : Connection) : Prop :=
  ∃ since before, es = since ++ .added c :: before ∧ ∀ x, .removed c.id x ∉ since

/-- After `c` was added, `d` was added. -/
def Newer (es : List Entry) (c d : Connection) : Prop :=
  ∃ since before, es = since ++ .added c :: before ∧ .added d ∈ since

section

variable {es : List Entry} {r : Registry} {c d : Connection} {id : ConnectionId} {e : Entry}

@[simp] theorem mem_added : c ∈ added es ↔ .added c ∈ es := by
  rw [added, List.mem_filterMap]
  constructor
  · rintro ⟨e, he, h⟩
    cases e with
    | added x => rwa [← Option.some.inj h]
    | refused => cases h
    | removed => cases h
  · exact fun h => ⟨_, h, rfl⟩

theorem Registered.mem (h : Registered es c) : .added c ∈ es := by
  obtain ⟨since, before, rfl, -⟩ := h
  exact List.mem_append_right _ List.mem_cons_self

theorem registered_cons :
    Registered (e :: es) c ↔ e = .added c ∨ (Registered es c ∧ ∀ x, e ≠ .removed c.id x) := by
  constructor
  · rintro ⟨since, before, hes, hkept⟩
    rcases List.cons_eq_append_iff.1 hes with ⟨rfl, h⟩ | ⟨since, rfl, h⟩
    · exact .inl (List.cons.inj h).1.symm
    · exact .inr ⟨⟨since, before, h, fun x hx => hkept x (List.mem_cons_of_mem _ hx)⟩,
        fun x hx => hkept x (hx ▸ List.mem_cons_self)⟩
  · rintro (rfl | ⟨⟨since, before, rfl, hkept⟩, hne⟩)
    · exact ⟨[], es, rfl, fun _ h => nomatch h⟩
    · refine ⟨e :: since, before, rfl, fun x hx => ?_⟩
      rcases List.mem_cons.1 hx with hx | hx
      · exact hne x hx.symm
      · exact hkept x hx

theorem Newer.cons (h : Newer es c d) (e : Entry) : Newer (e :: es) c d := by
  obtain ⟨since, before, rfl, hd⟩ := h
  exact ⟨e :: since, before, rfl, List.mem_cons_of_mem _ hd⟩

/-- What is added now is newer than all that was added before. -/
theorem newer_added (h : .added c ∈ es) (d : Connection) : Newer (.added d :: es) c d := by
  obtain ⟨since, before, rfl⟩ := List.append_of_mem h
  exact ⟨.added d :: since, before, rfl, List.mem_cons_self⟩

/-- Where no number is handed out twice, all that was added before or after has another one. -/
theorem ne_of_distinct (hn : ((added es).map (·.id)).Nodup) {since before : List Entry}
    (hes : es = since ++ .added c :: before) (hd : .added d ∈ since ∨ .added d ∈ before) :
    c.id ≠ d.id := by
  have hadded : (added es).map (·.id)
      = (added since).map (·.id) ++ c.id :: (added before).map (·.id) := by
    rw [hes, added, List.filterMap_append, List.map_append]
    rfl
  rw [hadded, List.nodup_append, List.nodup_cons] at hn
  obtain ⟨-, ⟨hbefore, -⟩, hsince⟩ := hn
  rcases hd with hd | hd
  · exact (hsince _ (List.mem_map_of_mem (mem_added.2 hd)) _ List.mem_cons_self).symm
  · exact fun h => hbefore (h ▸ List.mem_map_of_mem (mem_added.2 hd))

/-- What was removed after it was added is not registered, and no other of that number is. -/
theorem not_registered_of_removed (hn : ((added es).map (·.id)).Nodup) {since before : List Entry}
    {x : Option Connection} (hes : es = since ++ .removed d.id x :: before)
    (hd : .added d ∈ before) (hid : c.id = d.id) : ¬ Registered es c := by
  rintro ⟨later, earlier, hes', hkept⟩
  rw [hes] at hes'
  rcases List.append_eq_append_iff.1 hes' with ⟨rest, rfl, hrest⟩ | ⟨rest, rfl, hrest⟩
  · -- the removal is at the front of what came since `c` was added, or it is the adding of `c`
    cases rest with
    | nil => cases hrest
    | cons a rest =>
      rw [List.cons_append, List.cons.injEq] at hrest
      exact hkept x (hid ▸ hrest.1 ▸ List.mem_append_right _ List.mem_cons_self)
  · cases rest with
    | nil => cases hrest
    | cons a rest =>
      rw [List.cons_append, List.cons.injEq] at hrest
      refine ne_of_distinct hn (c := c) (d := d) (hes.trans hes') (.inr ?_) hid
      rw [hrest.2]
      exact List.mem_append_right _ (List.mem_cons_of_mem _ hd)

/-! ### What every call keeps up -/

/-- The connections of `r` are those that the entries tell, in their order, and its next number
follows from how often a number was used up. -/
structure Reflects (es : List Entry) (r : Registry) : Prop where
  nextId : r.nextId = UInt32.ofNat (es.countP Entry.isAdd)
  below : ∀ c, .added c ∈ es → c.id.number.toNat < es.countP Entry.isAdd
  distinct : ((added es).map (·.id)).Nodup
  connections : ∀ c, c ∈ r.connections ↔ Registered es c
  order : r.connections.Pairwise (Newer es)

theorem reflects_empty : Reflects [] {} := by
  refine ⟨rfl, (fun _ h => nomatch h), List.nodup_nil, fun c => ?_, .nil⟩
  exact ⟨(fun h => nomatch h), fun h => nomatch h.mem⟩

/-- The next number was not handed out yet. -/
theorem Reflects.fresh (h : Reflects es r) (hn : es.countP Entry.isAdd < UInt32.size)
    (hd : .added d ∈ es) : d.id ≠ ⟨r.nextId⟩ := by
  intro heq
  have hlt := h.below d hd
  rw [heq, h.nextId, UInt32.toNat_ofNat', Nat.mod_eq_of_lt hn] at hlt
  exact Nat.lt_irrefl _ hlt

theorem Reflects.succ_nextId (h : Reflects es r) (he : e.isAdd = true) :
    r.nextId + 1 = UInt32.ofNat ((e :: es).countP Entry.isAdd) := by
  rw [h.nextId, List.countP_cons_of_pos he, UInt32.ofNat_add]
  rfl

theorem Reflects.refused (h : Reflects es r) (e : NetError) :
    Reflects (.refused e :: es) { r with nextId := r.nextId + 1 } := by
  refine ⟨h.succ_nextId rfl, fun c hc => ?_, h.distinct, fun c => ?_,
    h.order.imp fun hnew => hnew.cons _⟩
  · rw [List.countP_cons_of_pos rfl]
    rcases List.mem_cons.1 hc with hc | hc
    · cases hc
    · exact Nat.lt_succ_of_lt (h.below c hc)
  · rw [registered_cons, h.connections]
    exact ⟨fun hc => .inr ⟨hc, fun _ => Entry.noConfusion⟩,
      fun hc => hc.elim Entry.noConfusion (·.1)⟩

theorem Reflects.added (h : Reflects es r) (hn : es.countP Entry.isAdd < UInt32.size)
    (hid : c.id = ⟨r.nextId⟩) :
    Reflects (.added c :: es) { connections := r.connections ++ [c], nextId := r.nextId + 1 } := by
  refine ⟨h.succ_nextId rfl, fun d hd => ?_, ?_, fun d => ?_, ?_⟩
  · rw [List.countP_cons_of_pos rfl]
    rcases List.mem_cons.1 hd with hd | hd
    · rw [Entry.added.inj hd, hid, h.nextId, UInt32.toNat_ofNat']
      exact Nat.lt_succ_of_le (Nat.mod_le _ _)
    · exact Nat.lt_succ_of_lt (h.below d hd)
  · have hcons : Registry.added (.added c :: es) = c :: Registry.added es := rfl
    rw [hcons, List.map_cons, List.nodup_cons]
    refine ⟨fun hmem => ?_, h.distinct⟩
    obtain ⟨d, hd, heq⟩ := List.mem_map.1 hmem
    exact h.fresh hn (mem_added.1 hd) (heq.trans hid)
  · rw [registered_cons, List.mem_append, List.mem_singleton, h.connections, Entry.added.injEq]
    constructor
    · rintro (hd | rfl)
      · exact .inr ⟨hd, fun _ => Entry.noConfusion⟩
      · exact .inl rfl
    · rintro (rfl | ⟨hd, -⟩)
      · exact .inr rfl
      · exact .inl hd
  · refine List.pairwise_append.2 ⟨h.order.imp fun hnew => hnew.cons _,
      List.pairwise_singleton _ _, fun d hd x hx => ?_⟩
    rw [List.mem_singleton.1 hx]
    exact newer_added ((h.connections d).1 hd).mem c

/-! ### Lookups in a registry without duplicates -/

theorem get?_eq_some_iff (hn : (r.connections.map (·.id)).Nodup) :
    r.get? id = some c ↔ c ∈ r.connections ∧ c.id = id := by
  constructor
  · exact fun h => ⟨List.mem_of_find?_eq_some h, id_of_get? h⟩
  · rintro ⟨hc, hid⟩
    have hsome : (r.get? id).isSome = true :=
      List.find?_isSome.2 ⟨c, hc, decide_eq_true hid⟩
    obtain ⟨d, hd⟩ := Option.isSome_iff_exists.1 hsome
    have hsame : d = c := List.inj_on_of_nodup_map hn (List.mem_of_find?_eq_some hd) hc
      ((id_of_get? hd).trans hid.symm)
    rw [hd, hsame]

/-- The answer of a removal is the connection that it takes out. -/
theorem fst_remove (id : ConnectionId) (r : Registry) (env : Environment) :
    (r.remove id env).1 = r.get? id := by
  rw [remove]
  cases r.get? id <;> rfl

theorem Reflects.apart (h : Reflects es r) : (r.connections.map (·.id)).Nodup := by
  refine List.pairwise_map.2 (h.order.imp fun hnew => ?_)
  obtain ⟨since, before, hes, hd⟩ := hnew
  exact ne_of_distinct h.distinct hes (.inl hd)

theorem Reflects.removed (h : Reflects es r) (id : ConnectionId) (x : Option Connection)
    (env : Environment) : Reflects (.removed id x :: es) (r.remove id env).2.1 := by
  have hcons : (r.remove id env).2.1.connections = r.connections.filter (·.id ≠ id) :=
    (connections_remove id r env).trans (eraseP_eq_filter h.apart id)
  refine ⟨?_, fun c hc => ?_, h.distinct, fun c => ?_, ?_⟩
  · rw [nextId_remove, h.nextId, List.countP_cons_of_neg Bool.false_ne_true]
  · rw [List.countP_cons_of_neg Bool.false_ne_true]
    rcases List.mem_cons.1 hc with hc | hc
    · cases hc
    · exact h.below c hc
  · rw [registered_cons, hcons, List.mem_filter, h.connections, decide_eq_true_eq]
    constructor
    · rintro ⟨hc, hne⟩
      exact .inr ⟨hc, fun y hy => hne (Entry.removed.inj hy).1.symm⟩
    · rintro (hc | ⟨hc, hne⟩)
      · cases hc
      · exact ⟨hc, fun hid => hne x (by rw [hid])⟩
  · rw [hcons]
    exact (h.order.imp fun hnew => hnew.cons _).filter _

/-! ### Lookups -/

/-- The newest of a role is found: all others of that role were added before it. -/
theorem Reflects.find?_eq_some (h : Reflects es r) {role : Role} (hf : r.find? role = some c) :
    Registered es c ∧ c.role = role ∧
      ∀ d, Registered es d → d.role = role → d = c ∨ Newer es d c := by
  obtain ⟨hrole, newer, older, hr, hnewer⟩ := List.find?_eq_some_iff_append.1 hf
  have hconnections : r.connections = older.reverse ++ c :: newer.reverse := by
    rw [← List.reverse_reverse r.connections, hr]
    simp
  have horder := h.order
  rw [hconnections, List.pairwise_append] at horder
  refine ⟨?_, of_decide_eq_true hrole, fun d hd hdrole => ?_⟩
  · rw [← h.connections, hconnections]
    exact List.mem_append_right _ List.mem_cons_self
  · rw [← h.connections, hconnections, List.mem_append, List.mem_cons, List.mem_reverse,
      List.mem_reverse] at hd
    rcases hd with hd | hd | hd
    · exact .inr (horder.2.2 d (List.mem_reverse.2 hd) c List.mem_cons_self)
    · exact .inl hd
    · exact absurd hdrole (by simpa using hnewer d hd)

theorem Reflects.find?_eq_none (h : Reflects es r) {role : Role} (hf : r.find? role = none)
    (hc : Registered es c) : c.role ≠ role := by
  have hnone := List.find?_eq_none.1 hf c (List.mem_reverse.2 ((h.connections c).2 hc))
  simpa using hnone

end

/-! ### What a registry is -/

/-- The registry is a map from numbers to connections in the order in which these were added, as the
entries tell it. -/
structure Refines (es : List Entry) (r : Registry) : Prop where
  /-- No number is handed out twice. -/
  distinct : ((added es).map (·.id)).Nodup
  apart : (r.connections.map (·.id)).Nodup
  connections : ∀ c, c ∈ r.connections ↔ Registered es c
  order : r.connections.Pairwise (Newer es)
  get? : ∀ id c, r.get? id = some c ↔ Registered es c ∧ c.id = id
  /-- Before anything was added under a number, nothing is found under it. -/
  before : ∀ id, (∀ c, .added c ∈ es → c.id ≠ id) → r.get? id = none
  /-- Once what was added under a number was removed, nothing is found under it any more. -/
  after : ∀ since earlier x c, es = since ++ .removed c.id x :: earlier → .added c ∈ earlier →
    r.get? c.id = none
  newest : ∀ role c, r.find? role = some c → Registered es c ∧ c.role = role ∧
    ∀ d, Registered es d → d.role = role → d = c ∨ Newer es d c
  nobody : ∀ role, r.find? role = none → ∀ c, Registered es c → c.role ≠ role
  remove : ∀ id env, (r.remove id env).1 = r.get? id ∧
    (r.remove id env).2.1.connections = r.connections.filter (·.id ≠ id)
  refused : ∀ role endpoint port timeout env e,
    (r.add role endpoint port timeout env).1 = .error e →
      (r.add role endpoint port timeout env).2.1.connections = r.connections

theorem Reflects.refines {es : List Entry} {r : Registry} (h : Reflects es r) : Refines es r := by
  have hget (id : ConnectionId) (c : Connection) :
      r.get? id = some c ↔ Registered es c ∧ c.id = id := by
    rw [get?_eq_some_iff h.apart, h.connections]
  refine
    { distinct := h.distinct, apart := h.apart, connections := h.connections, order := h.order
      get? := hget, before := ?_, after := ?_, newest := fun _ _ => h.find?_eq_some
      nobody := fun _ hf _ => h.find?_eq_none hf, remove := fun id env => ⟨fst_remove id r env, ?_⟩
      refused := ?_ }
  · refine fun id hnew => Option.eq_none_iff_forall_ne_some.2 fun c hc => ?_
    obtain ⟨hreg, hid⟩ := (hget id c).1 hc
    exact hnew c hreg.mem hid
  · refine fun since earlier x c hes hc => Option.eq_none_iff_forall_ne_some.2 fun d hd => ?_
    obtain ⟨hreg, hid⟩ := (hget c.id d).1 hd
    exact not_registered_of_removed h.distinct hes hc hid hreg
  · rw [connections_remove, eraseP_eq_filter h.apart]
  · intro role endpoint port timeout env e he
    rcases add_cases role endpoint port timeout r env with ⟨_, _, ha⟩ | ⟨_, ha⟩
    · rw [ha]
    · rw [ha] at he
      cases he

theorem reflects_run (calls : List (Call × Environment))
    (h : (Call.run calls).entries.countP Entry.isAdd ≤ UInt32.size) :
    Reflects (Call.run calls).entries (Call.run calls).now := by
  refine Diary.run_induction (P := fun d => d.entries.countP Entry.isAdd ≤ UInt32.size →
    Reflects d.entries d.now) (fun _ => reflects_empty) (fun d c hd hn => ?_) calls h
  rw [Diary.entries_enter] at hn ⊢
  rw [Diary.now_enter]
  rcases c.1.make_cases c.2 d.now with ⟨e, -, hm⟩ | ⟨x, -, hid, hm⟩ | ⟨id, x, -, hm⟩
  · rw [hm, List.countP_cons_of_pos rfl] at hn
    rw [hm]
    exact (hd (Nat.le_of_succ_le hn)).refused e
  · rw [hm, List.countP_cons_of_pos rfl] at hn
    rw [hm]
    exact (hd (Nat.le_of_succ_le hn)).added hn hid
  · rw [hm, List.countP_cons_of_neg Bool.false_ne_true] at hn
    rw [hm]
    exact (hd hn).removed id x c.2

/-- **For as long as the numbers last, a registry is a map that keeps the order in which its entries
were added.** -/
theorem refines_of_calls (calls : List (Call × Environment))
    (h : calls.countP (·.1.isAdd) ≤ UInt32.size) :
    Refines (Call.run calls).entries (Call.run calls).now := by
  have hcount : (Call.run calls).entries.countP Entry.isAdd = calls.countP (·.1.isAdd) :=
    Diary.countP_entries_run (fun c r => c.1.isAdd_make c.2 r) calls
  exact (reflects_run calls (hcount ▸ h)).refines

/-- Number 1 is used up where nobody listens; once the newer peer is removed, the older is found. -/
theorem refines_of_calls_refused_once :
    let env (links : Nat) : Environment := { net :=
      { listeners := [{ addr := .loopback, port := 4000 }], links := List.replicate links {} } }
    let host : Endpoint := ⟨.loopback, "host"⟩
    let calls : List (Call × Environment) := [
      (.add .peer host 4000 none, env 0), (.add .peer host 5000 none, env 1),
      (.add .controller host 4000 none, env 1), (.add .peer host 4000 none, env 2),
      (.remove ⟨3⟩, env 3)]
    calls.countP (·.1.isAdd) ≤ UInt32.size ∧ Refines (Call.run calls).entries (Call.run calls).now ∧
      ((Call.run calls).now.connections.map (·.id) = [⟨0⟩, ⟨2⟩] ∧
        ((Call.run calls).now.find? .peer).map (·.id) = some ⟨0⟩) :=
  ⟨by decide, refines_of_calls _ (by decide), by decide⟩

end Registry

end PipelineWorker
