/-
The life of a coordinator.

The stages are passed in the order of declaration; a fatal error leads straight to `terminated`,
which is never left.
-/

namespace PipelineWorker

/-- How far a coordinator has come. -/
inductive Stage
  | unstarted
  | contactingController
  | awaitingAssignment
  | contactingDatamanager
  | awaitingKey
  | attached
  | running
  | terminated
  deriving DecidableEq, Repr, Inhabited

namespace Stage

/-- Every stage, in order. -/
def all : List Stage :=
  [unstarted, contactingController, awaitingAssignment, contactingDatamanager, awaitingKey,
    attached, running, terminated]

/-- The place of the stage in the order. -/
def index : Stage → Nat
  | unstarted => 0
  | contactingController => 1
  | awaitingAssignment => 2
  | contactingDatamanager => 3
  | awaitingKey => 4
  | attached => 5
  | running => 6
  | terminated => 7

/-- Inside the startup handshake. -/
def isHandshaking : Stage → Bool
  | contactingController | awaitingAssignment | contactingDatamanager | awaitingKey
  | attached => true
  | _ => false

/-- The text of a stage in messages and logs. -/
def display : Stage → String
  | unstarted => "unstarted"
  | contactingController => "contacting controller"
  | awaitingAssignment => "awaiting datamanager assignment"
  | contactingDatamanager => "contacting datamanager"
  | awaitingKey => "awaiting shared memory key"
  | attached => "attached"
  | running => "running"
  | terminated => "terminated"

/-- The text of a stage where values are spelled out. -/
def detail : Stage → String
  | unstarted => "Unstarted"
  | contactingController => "ContactingController"
  | awaitingAssignment => "AwaitingDatamanagerAssignment"
  | contactingDatamanager => "ContactingDatamanager"
  | awaitingKey => "AwaitingShmKey"
  | attached => "Attached"
  | running => "Running"
  | terminated => "Terminated"

end Stage

end PipelineWorker
