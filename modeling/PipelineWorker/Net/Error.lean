/-
What can go wrong between the worker and another process.
-/
import PipelineWorker.Message.Basic
import PipelineWorker.Message.Error
import PipelineWorker.Message.Control

namespace PipelineWorker

/-- Why a connection could not be made or used. -/
inductive NetError
  /-- Text that is no dotted quad where one is due. -/
  | invalidAddress (text : String)
  /-- A name that no lookup knows. -/
  | hostNotFound (name : String)
  /-- The other end went away. -/
  | connectionClosed (id : ConnectionId)
  /-- The connection was never made. -/
  | connect (endpoint : String) (port : Port) (failure : OsFailure)
  /-- No connection of that id is registered. -/
  | unknownConnection (id : ConnectionId)
  /-- A message could not be framed or read. -/
  | codec (error : CodecError)
  /-- The socket failed outside a frame. -/
  | socket (failure : OsFailure)
  deriving DecidableEq, Repr, Inhabited

/-- The text of the error. -/
def NetError.message : NetError → String
  | invalidAddress text => s!"invalid IP address '{text}'"
  | hostNotFound name => s!"host '{name}' could not be resolved"
  | connectionClosed id => s!"connection {id.display} closed by peer"
  | connect endpoint port _ => s!"failed to connect to {endpoint}:{port}"
  | unknownConnection id => s!"no connection {id.display} in registry"
  | codec _ => "message framing failed"
  | socket _ => "socket i/o failed"

end PipelineWorker
