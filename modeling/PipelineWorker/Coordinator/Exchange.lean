/-
Requests and replies.

An exchange sends a request on a connection and then reads from that connection alone until a reply
of an expected kind arrives.  Announcements of segments are taken up on the way and never returned;
all else is deferred.

* `awaitReply` ends because every message is taken from what the connections still carry.
-/
import PipelineWorker.Coordinator.Waiting

namespace PipelineWorker

namespace Session

/-- Reads from a connection until a reply of an expected kind arrives. -/
def awaitReply (id : ConnectionId) (role : Role) (expected : List Kind) (s : Session) :
    Except CoordinatorError Message × Session :=
  match _hr : s.receive id with
  | (.error e, s') => let (e, s') := s'.receiveFailed id e; (.error e, s')
  | (.ok m, s') =>
    if m.kind = .newSharedSegment then
      match _ht : s'.takeAnnouncement m with
      | (.error e, t) => (.error e, t)
      | (.ok (), t) => awaitReply id role expected t
    else if m.kind ∈ expected then (.ok m, s')
    else if m.kind = .socketClosed then
      let (e, s') := s'.connectionLost id
      (.error e, s')
    else awaitReply id role expected ((s'.report (.deferring m.kind role)).defer m)
termination_by s.traffic
decreasing_by
  · have hr := traffic_receive_lt (congrArg Prod.fst _hr)
    have ht := s'.traffic_takeAnnouncement m
    rw [_hr] at hr
    rw [_ht] at ht
    exact Nat.lt_of_le_of_lt (Nat.le_of_eq ht) hr
  · have hr := traffic_receive_lt (congrArg Prod.fst _hr)
    rw [_hr] at hr
    simpa using hr

/-- One turn of the wait for a reply. -/
theorem awaitReply_eq (id : ConnectionId) (role : Role) (expected : List Kind) (s : Session) :
    s.awaitReply id role expected = match s.receive id with
      | (.error e, t) => (.error (t.receiveFailed id e).1, (t.receiveFailed id e).2)
      | (.ok m, t) =>
        if m.kind = .newSharedSegment then
          match t.takeAnnouncement m with
          | (.error e, u) => (.error e, u)
          | (.ok (), u) => u.awaitReply id role expected
        else if m.kind ∈ expected then (.ok m, t)
        else if m.kind = .socketClosed then
          (.error (t.connectionLost id).1, (t.connectionLost id).2)
        else ((t.report (.deferring m.kind role)).defer m).awaitReply id role expected := by
  rw [awaitReply]
  split
  · rename_i h
    rw [h]
  · rename_i h
    rw [h]
    dsimp only
    split
    · split
      all_goals
        rename_i h
        rw [h]
    · rfl

/-- Sends a request and waits for the reply. -/
def exchange (id : ConnectionId) (request : Message) (expected : List Kind) (s : Session) :
    Except CoordinatorError Message × Session :=
  match s.worker.connections.get? id with
  | none => (.error (.net (.unknownConnection id)), s)
  | some c =>
    match s.send id request with
    | (.error e, s) =>
      let (e, s) := (s.report (.exchangeSendFailed c.role e)).sendFailed id
      (.error e, s)
    | (.ok (), s) => s.awaitReply id c.role expected

/-! ### The datamanager -/

/-- Sends a request to the datamanager and waits for the reply. -/
def exchangeWithDatamanager (request : Message) (expected : List Kind) (s : Session) :
    Except CoordinatorError Message × Session :=
  match s.worker.datamanager with
  | none => (.error .datamanagerUnreachable, s)
  | some id => s.exchange id request expected

/-- Sends a message to the datamanager, without waiting for a reply. -/
def sendToDatamanager (m : Message) (s : Session) : Except CoordinatorError Unit × Session :=
  match s.worker.datamanager with
  | none => (.error .datamanagerUnreachable, s)
  | some id =>
    match s.send id m with
    | (.ok (), s) => (.ok (), s)
    | (.error e, s) =>
      let (e, s) := (s.report (.datamanagerSendFailed e m.kind)).sendFailed id
      (.error e, s)

/-- Waits for the next message of the datamanager, whatever was deferred. -/
def receiveFromDatamanager (s : Session) : Except CoordinatorError Message × Session :=
  match s.worker.datamanager with
  | none => (.error .datamanagerUnreachable, s)
  | some id =>
    match s.receive id with
    | (.ok m, s) => (.ok m, s)
    | (.error e, s) => let (e, s) := s.receiveFailed id e; (.error e, s)

end Session

end PipelineWorker
