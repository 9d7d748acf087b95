/-
Hosts as endpoints of connections, and the roles of the processes on them.

An endpoint is an address together with the name by which it was asked for.  A name that could not
be looked up yields an endpoint of its own kind, which must not be dialled (`isResolved`).
-/
import PipelineWorker.Net.Address

namespace PipelineWorker

/-- What the process at the other end of a connection is to the worker. -/
inductive Role
  | controller | datamanager | peer
  deriving DecidableEq, Repr, Inhabited

/-- The text of a role. -/
def Role.display : Role → String
  | controller => "controller"
  | datamanager => "datamanager"
  | peer => "peer"

/-- A host: its address and the name it was asked for by. -/
structure Endpoint where
  addr : Ipv4
  name : String
  deriving DecidableEq, Repr, Inhabited

namespace Endpoint

/-- The name of an endpoint whose lookup failed. -/
def unresolvableName : String := "unresolvable IP address"

/-- What a failed lookup yields. -/
def unresolvable : Endpoint := ⟨.unspecified, unresolvableName⟩

/-- Whether the address means anything. -/
def isResolved (e : Endpoint) : Bool := e.name != unresolvableName

/-- The endpoint of a packed address, named by its dotted quad. -/
def ofPacked (w : UInt32) : Endpoint := ⟨.ofPacked w, (Ipv4.ofPacked w).display⟩

/-- The longest dotted quad, in bytes. -/
def maxQuadBytes : Nat := 15

/-- The endpoint that a dotted quad names; the name is the text itself. -/
def ofQuad? (text : String) : Option Endpoint :=
  if text.utf8ByteSize ≤ maxQuadBytes then (Ipv4.ofQuad? text).map (⟨·, text⟩) else none

/-- The text of an endpoint: the name, and the address unless the name is its dotted quad. -/
def display (e : Endpoint) : String :=
  if e.name = e.addr.display then e.addr.display else s!"{e.name} ({e.addr.display})"

end Endpoint

end PipelineWorker
