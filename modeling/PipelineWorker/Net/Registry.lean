/-
All connections of a worker.

Connections stand in the order in which they were added, and each has a number of its own.  Of those
with one role, the one that was added last is found first.

* `id_of_get?` — a connection is found under its own number;
* `pollReadableFor`, `pollReadable` wait until one of several connections can be read.
-/
import PipelineWorker.Net.Connection

namespace PipelineWorker

/-- The connections, oldest first, and the number that the next one gets. -/
structure Registry where
  connections : List Connection := []
  nextId : UInt32 := 0
  deriving Repr

namespace Registry

/-! ### Bookkeeping -/

/-- Connects to a host and adds the connection.  The number is used up also by a failure. -/
def add (role : Role) (endpoint : Endpoint) (port : Port) (timeout : Option Nat) (r : Registry)
    (env : Environment) : Except NetError ConnectionId × Registry × Environment :=
  let id : ConnectionId := ⟨r.nextId⟩
  let r := { r with nextId := r.nextId + 1 }
  match Connection.dial id role endpoint port timeout env with
  | (.error e, env) => (.error e, r, env)
  | (.ok c, env) => (.ok id, { r with connections := r.connections ++ [c] }, env)

/-- The connection of that number. -/
def get? (r : Registry) (id : ConnectionId) : Option Connection :=
  r.connections.find? (·.id = id)

/-- The newest connection with that role. -/
def find? (r : Registry) (role : Role) : Option Connection :=
  r.connections.reverse.find? (·.role = role)

/-- Takes a connection out. -/
def remove (id : ConnectionId) (r : Registry) (env : Environment) :
    Option Connection × Registry × Environment :=
  match r.get? id with
  | none => (none, r, env)
  | some c =>
    (some c, { r with connections := r.connections.eraseP (·.id = id) },
      env.report (.connectionRemoved id c.role))

/-- Puts a connection in the place of the one with the same number. -/
def replaceIn (c : Connection) : List Connection → List Connection
  | [] => []
  | d :: ds => if d.id = c.id then c :: ds else d :: replaceIn c ds

/-- Puts a connection in the place of the one with the same number. -/
def put (c : Connection) (r : Registry) : Registry :=
  { r with connections := replaceIn c r.connections }

/-- How many connections there are. -/
def length (r : Registry) : Nat := r.connections.length

/-- Whether there are none. -/
def isEmpty (r : Registry) : Bool := r.connections.isEmpty

/-! ### Messages -/

/-- Does something with the connection of that number. -/
def withConnection {α : Type} (id : ConnectionId)
    (f : Connection → Environment → Except NetError α × Connection × Environment)
    (r : Registry) (env : Environment) : Except NetError α × Registry × Environment :=
  match r.get? id with
  | none => (.error (.unknownConnection id), r, env)
  | some c => ((f c env).1, r.put (f c env).2.1, (f c env).2.2)

/-- Sends a message on a connection. -/
def send (id : ConnectionId) (m : Message) : Registry → Environment →
    Except NetError Unit × Registry × Environment :=
  withConnection id (Connection.send m)

/-- Waits for a message on a connection. -/
def receive (id : ConnectionId) : Registry → Environment →
    Except NetError Message × Registry × Environment :=
  withConnection id Connection.receive

/-- Waits for a message on a connection until the deadline. -/
def receiveUntil (id : ConnectionId) (deadline : Nat) : Registry → Environment →
    Except NetError (Option Message) × Registry × Environment :=
  withConnection id (Connection.receiveUntil deadline)

/-! ### Polling -/

/-- The longest time that one poll waits, in milliseconds. -/
def longestPoll : Nat := 2147483647

/-- How many milliseconds a poll waits for a deadline, both times in nanoseconds.  What is left is
counted in whole microseconds first, rounded down, and these then in whole milliseconds, rounded
up. -/
def pollWindow (deadline clock : Nat) : Nat :=
  min (((deadline - clock) / 1000 + 999) / 1000) longestPoll

/-- The first of the watched connections that is among the ready links. -/
def firstReady (watched : List Connection) (ready : List Nat) : Option ConnectionId :=
  (watched.find? fun c => ready.contains c.link).map (·.id)

/-- Polls until a watched connection is ready or the deadline, in nanoseconds, has passed. -/
def pollWatched (watched : List Connection) (deadline : Option Nat) (net : Network) :
    Except NetError (Option ConnectionId) × Network :=
  match _h : net.poll (watched.map (·.link)) (deadline.map fun d => pollWindow d net.clock) with
  | (.ready ready, net) => (.ok (firstReady watched ready), net)
  | (.failure e, net') =>
    if e.kind = .interrupted then pollWatched watched deadline net'
    else (.error (.socket (.number e)), net')
  | (.spurious, net') =>
    if deadline.any (· ≤ net'.clock) then (.ok none, net')
    else pollWatched watched deadline net'
termination_by net.pollFaults.length
decreasing_by
  all_goals
    have hlt := Network.faults_poll_lt (watched.map (·.link))
      (deadline.map fun d => pollWindow d net.clock) net (by simp [_h])
    simpa [_h] using hlt

/-- One turn of the polling. -/
theorem pollWatched_eq (watched : List Connection) (deadline : Option Nat) (net : Network) :
    pollWatched watched deadline net =
      match net.poll (watched.map (·.link)) (deadline.map fun d => pollWindow d net.clock) with
      | (.ready ready, net) => (.ok (firstReady watched ready), net)
      | (.failure e, net) =>
        if e.kind = .interrupted then pollWatched watched deadline net
        else (.error (.socket (.number e)), net)
      | (.spurious, net) =>
        if deadline.any (· ≤ net.clock) then (.ok none, net)
        else pollWatched watched deadline net := by
  rw [pollWatched]
  split
  all_goals
    rename_i h
    rw [h]

/-- Waits until one of the connections can be read: a message, a close or a failure.  The answer is
the first in the order of `ids`, or none once the timeout, in nanoseconds, has passed.  Numbers that
are not registered are passed over; where none is, the answer is none at once. -/
def pollReadableFor (ids : List ConnectionId) (timeout : Option Nat) (r : Registry)
    (env : Environment) : Except NetError (Option ConnectionId) × Environment :=
  match ids.filterMap r.get? with
  | [] => (.ok none, env)
  | watched =>
    let (x, net) := pollWatched watched (timeout.map (env.net.clock + ·)) env.net
    (x, { env with net })

/-- The same for a timeout of whole microseconds. -/
def pollReadable (ids : List ConnectionId) (timeout : Option Nat) (r : Registry)
    (env : Environment) : Except NetError (Option ConnectionId) × Environment :=
  r.pollReadableFor ids (timeout.map (1000 * ·)) env

/-! ### Small laws -/

theorem id_of_get? {r : Registry} {id : ConnectionId} {c : Connection} (h : r.get? id = some c) :
    c.id = id := by
  simpa using List.find?_some h

theorem get?_remove_length {r : Registry} {id : ConnectionId} {env : Environment} {c : Connection}
    (h : r.get? id = some c) : (r.remove id env).2.1.length < r.length := by
  have hm : c ∈ r.connections := List.mem_of_find?_eq_some h
  have hc : decide (c.id = id) = true := by simpa using id_of_get? h
  simp only [remove, h, length]
  rw [List.length_eraseP_of_mem hm hc]
  have := List.length_pos_of_mem hm
  omega

@[simp] theorem length_put (c : Connection) (r : Registry) : (r.put c).length = r.length := by
  have (ds : List Connection) : (replaceIn c ds).length = ds.length := by
    induction ds with
    | nil => rfl
    | cons d ds ih => simp only [replaceIn]; split <;> simp [ih]
  exact this _

theorem length_withConnection {α : Type} (id : ConnectionId)
    (f : Connection → Environment → Except NetError α × Connection × Environment) (r : Registry)
    (env : Environment) : (r.withConnection id f env).2.1.length = r.length := by
  rw [withConnection]
  split
  · rfl
  · exact length_put ..

theorem isSome_get?_put {r : Registry} {id : ConnectionId} (c : Connection)
    (h : (r.get? id).isSome = true) : ((r.put c).get? id).isSome = true := by
  have (cs : List Connection) (h : (cs.find? (·.id = id)).isSome = true) :
      ((replaceIn c cs).find? (·.id = id)).isSome = true := by
    simp only [List.find?_isSome, decide_eq_true_eq] at h ⊢
    obtain ⟨d, hd, rfl⟩ := h
    induction cs with
    | nil => simp at hd
    | cons e es ih =>
      simp only [replaceIn]
      by_cases he : e.id = c.id
      · rw [if_pos he]
        rcases List.mem_cons.1 hd with rfl | hd
        · exact ⟨c, by simp, he.symm⟩
        · exact ⟨d, by simp [hd], rfl⟩
      · rw [if_neg he]
        rcases List.mem_cons.1 hd with rfl | hd
        · exact ⟨d, by simp, rfl⟩
        · obtain ⟨x, hx, hid⟩ := ih hd
          exact ⟨x, by simp [hx], hid⟩
  exact this _ h

theorem isSome_get?_withConnection {α : Type} {id : ConnectionId} (i : ConnectionId)
    (f : Connection → Environment → Except NetError α × Connection × Environment) {r : Registry}
    (env : Environment) (h : (r.get? id).isSome = true) :
    ((r.withConnection i f env).2.1.get? id).isSome = true := by
  rw [withConnection]
  split
  · exact h
  · exact isSome_get?_put _ h

/-- The answer of a poll is one of the watched connections. -/
theorem mem_of_pollWatched {watched : List Connection} {deadline : Option Nat} {net : Network}
    {id : ConnectionId} (h : (pollWatched watched deadline net).1 = .ok (some id)) :
    ∃ c ∈ watched, c.id = id := by
  fun_induction pollWatched watched deadline net with
  | case1 net ready =>
    simp only [firstReady, Except.ok.injEq, Option.map_eq_some_iff] at h
    obtain ⟨c, hc, rfl⟩ := h
    exact ⟨c, List.mem_of_find?_eq_some hc, rfl⟩
  | case2 _ _ _ _ _ ih => exact ih h
  | case3 => simp at h
  | case4 => simp at h
  | case5 _ _ _ _ ih => exact ih h

theorem isSome_get?_of_pollReadable {ids : List ConnectionId} {timeout : Option Nat} {r : Registry}
    {env : Environment} {id : ConnectionId}
    (h : (r.pollReadable ids timeout env).1 = .ok (some id)) : (r.get? id).isSome = true := by
  rw [pollReadable, pollReadableFor] at h
  split at h
  · simp at h
  · obtain ⟨c, hc, rfl⟩ := mem_of_pollWatched h
    obtain ⟨i, _, hi⟩ := List.mem_filterMap.1 hc
    simp [id_of_get? hi, hi]

/-- A poll fails by a failure of the socket only. -/
theorem pollWatched_error {watched : List Connection} {deadline : Option Nat} {net : Network}
    {e : NetError} (h : (pollWatched watched deadline net).1 = .error e) : ∃ f, e = .socket f := by
  fun_induction pollWatched watched deadline net with
  | case1 => simp at h
  | case2 _ _ _ _ _ ih => exact ih h
  | case3 => exact ⟨_, by simpa using h.symm⟩
  | case4 => simp at h
  | case5 _ _ _ _ ih => exact ih h

theorem pollReadable_error {ids : List ConnectionId} {timeout : Option Nat} {r : Registry}
    {env : Environment} {e : NetError} (h : (r.pollReadable ids timeout env).1 = .error e) :
    ∃ f, e = .socket f := by
  rw [pollReadable, pollReadableFor] at h
  split at h
  · simp at h
  · exact pollWatched_error h

theorem length_remove_lt {r : Registry} {id : ConnectionId} (env : Environment)
    (h : (r.get? id).isSome = true) : (r.remove id env).2.1.length < r.length := by
  obtain ⟨c, hc⟩ := Option.isSome_iff_exists.1 h
  exact get?_remove_length hc

/-! ### What is still to come -/

/-- The bytes of frames that are not complete. -/
def buffered (r : Registry) : Nat := total (fun c => c.buffered.length) r.connections

/-- What can still be read off all connections. -/
def weight (r : Registry) (net : Network) : Nat := net.weight + r.buffered

theorem buffered_put {r : Registry} {id : ConnectionId} {c d : Connection}
    (h : r.get? id = some c) (hd : d.id = id) :
    (r.put d).buffered + c.buffered.length = r.buffered + d.buffered.length := by
  have (cs : List Connection) (h : cs.find? (·.id = id) = some c) :
      total (fun c => c.buffered.length) (replaceIn d cs) + c.buffered.length
        = total (fun c => c.buffered.length) cs + d.buffered.length := by
    induction cs with
    | nil => simp at h
    | cons e es ih =>
      simp only [replaceIn, hd]
      by_cases he : e.id = id
      · simp [he] at h
        subst h
        simp [he]
        omega
      · simp [he] at h
        have := ih (by simpa using h)
        simp only [he, if_false, total_cons]
        omega
  exact this _ h

theorem buffered_remove_le (id : ConnectionId) (r : Registry) (env : Environment) :
    (r.remove id env).2.1.buffered ≤ r.buffered := by
  have (cs : List Connection) :
      total (fun c => c.buffered.length) (cs.eraseP (·.id = id))
        ≤ total (fun c => c.buffered.length) cs := by
    induction cs with
    | nil => exact Nat.le_refl _
    | cons c cs ih =>
      rw [List.eraseP_cons]
      cases decide (c.id = id) with
      | true => exact Nat.le_add_left ..
      | false => exact Nat.add_le_add_left ih _
  rw [remove]
  split
  · exact Nat.le_refl _
  · exact this _

@[simp] theorem net_remove (id : ConnectionId) (r : Registry) (env : Environment) :
    (r.remove id env).2.2.net = env.net := by
  rw [remove]
  split <;> rfl

theorem length_remove_le (id : ConnectionId) (r : Registry) (env : Environment) :
    (r.remove id env).2.1.length ≤ r.length := by
  rw [remove]
  split
  · exact Nat.le_refl _
  · exact List.length_eraseP_le

/-- What is taken from one connection is taken from the whole. -/
theorem weight_put {r : Registry} {id : ConnectionId} {c d : Connection} (net net' : Network)
    (h : r.get? id = some c) (hd : d.id = id) :
    (r.put d).weight net' + c.weight net = r.weight net + d.weight net' := by
  have := buffered_put h hd
  simp only [weight, Connection.weight]
  omega

section Using

variable {α : Type} {f : Connection → Environment → Except NetError α × Connection × Environment}

theorem weight_withConnection_le (hid : ∀ c env, (f c env).2.1.id = c.id)
    (hf : ∀ c env, (f c env).2.1.weight (f c env).2.2.net ≤ c.weight env.net)
    (id : ConnectionId) (r : Registry) (env : Environment) :
    (r.withConnection id f env).2.1.weight (r.withConnection id f env).2.2.net
      ≤ r.weight env.net := by
  rw [withConnection]
  split
  · exact Nat.le_refl _
  · rename_i c hc
    have hw := weight_put env.net (f c env).2.2.net hc
      ((hid c env).trans (id_of_get? hc))
    have := hf c env
    show (r.put (f c env).2.1).weight (f c env).2.2.net ≤ _
    omega

theorem weight_withConnection_lt {a : α} (hid : ∀ c env, (f c env).2.1.id = c.id)
    (hf : ∀ c env, (f c env).1 = .ok a →
      (f c env).2.1.weight (f c env).2.2.net < c.weight env.net)
    {id : ConnectionId} {r : Registry} {env : Environment}
    (h : (r.withConnection id f env).1 = .ok a) :
    (r.withConnection id f env).2.1.weight (r.withConnection id f env).2.2.net
      < r.weight env.net := by
  rw [withConnection] at h ⊢
  split at h
  · simp at h
  · rename_i c hc
    have hw := weight_put env.net (f c env).2.2.net hc
      ((hid c env).trans (id_of_get? hc))
    have := hf c env h
    simp only
    omega

end Using

theorem weight_receive_le (id : ConnectionId) (r : Registry) (env : Environment) :
    (r.receive id env).2.1.weight (r.receive id env).2.2.net ≤ r.weight env.net :=
  weight_withConnection_le Connection.id_receive Connection.weight_receive_le id r env

theorem weight_receive_lt {id : ConnectionId} {r : Registry} {env : Environment} {m : Message}
    (h : (r.receive id env).1 = .ok m) :
    (r.receive id env).2.1.weight (r.receive id env).2.2.net < r.weight env.net :=
  weight_withConnection_lt Connection.id_receive (fun _ _ => Connection.weight_receive_lt) h

theorem weight_receiveUntil_le (id : ConnectionId) (deadline : Nat) (r : Registry)
    (env : Environment) :
    (r.receiveUntil id deadline env).2.1.weight (r.receiveUntil id deadline env).2.2.net
      ≤ r.weight env.net :=
  weight_withConnection_le (Connection.id_receiveWith _) (Connection.weight_receiveWith_le _)
    id r env

theorem weight_receiveUntil_lt {id : ConnectionId} {deadline : Nat} {r : Registry}
    {env : Environment} {m : Message} (h : (r.receiveUntil id deadline env).1 = .ok (some m)) :
    (r.receiveUntil id deadline env).2.1.weight (r.receiveUntil id deadline env).2.2.net
      < r.weight env.net :=
  weight_withConnection_lt (Connection.id_receiveWith _)
    (fun _ _ => Connection.weight_receiveWith_lt) h

/-- Polling reads nothing. -/
theorem weight_pollWatched (watched : List Connection) (deadline : Option Nat) (net : Network) :
    (pollWatched watched deadline net).2.weight = net.weight := by
  have kept {net : Network} {answer : PollAnswer} {net' : Network}
      (h : net.poll (watched.map (·.link)) (deadline.map fun d => pollWindow d net.clock)
        = (answer, net')) : net'.weight = net.weight := by
    rw [← Network.weight_poll (watched.map (·.link))
      (deadline.map fun d => pollWindow d net.clock) net, h]
  fun_induction pollWatched watched deadline net with
  | case1 net ready net' h => exact kept h
  | case2 net e net' h he ih => exact ih.trans (kept h)
  | case3 net e net' h he => exact kept h
  | case4 net net' h hd => exact kept h
  | case5 net net' h hd ih => exact ih.trans (kept h)

theorem weight_pollReadable (ids : List ConnectionId) (timeout : Option Nat) (r : Registry)
    (env : Environment) : (r.pollReadable ids timeout env).2.net.weight = env.net.weight := by
  rw [pollReadable, pollReadableFor]
  split
  · rfl
  · exact weight_pollWatched ..

end Registry

end PipelineWorker
