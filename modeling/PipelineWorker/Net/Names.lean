/-
Finding the address of a name and the name of an address.

A `NameTable` holds what the lookups of a host know.  Looking up a name never fails outright: what
is not known yields `Endpoint.unresolvable` and a report.  Reverse lookups go through a
`HostResolver`, which stops asking after too many failures in a row; its `Inquiry` shows whether it
asks.
-/
import PipelineWorker.Log.Event
import PipelineWorker.Text.Lossy

namespace PipelineWorker

/-- An address that a lookup answers with.  Only IPv4 addresses are ever used. -/
inductive FoundAddress
  | v4 (addr : Ipv4)
  | v6
  deriving DecidableEq, Repr

/-- What the host can look up. -/
structure NameTable where
  /-- Names with their addresses, in the order of the answer. -/
  forward : List (String × List FoundAddress) := []
  /-- Addresses with the bytes of their names; the first entry counts. -/
  reverse : List (Ipv4 × Bytes) := []
  /-- The bytes of the host's own name. -/
  hostname : Option Bytes := none
  deriving Repr

namespace NameTable

/-- The text of a name that ends at its first zero byte. -/
def terminated (bs : Bytes) : String := Lossy.decode (bs.takeWhile (· ≠ 0))

/-- The first IPv4 address among the found ones. -/
def firstV4 : List FoundAddress → Option Ipv4
  | [] => none
  | .v4 addr :: _ => some addr
  | .v6 :: rest => firstV4 rest

/-- The addresses of a name.  A literal is its own address and is not looked up; a name with a zero
character cannot be asked for. -/
def addresses (t : NameTable) (name : String) : List FoundAddress :=
  if name.toList.contains '\x00' then []
  else
    match Ipv4.ofLiteral? name.toList with
    | some addr => [.v4 addr]
    | none => if isIpv6Literal name then [.v6] else (t.forward.lookup name).getD []

/-- The most bytes that a name found in reverse may have. -/
def maxReverseBytes : Nat := 1024

/-- The name of an address. -/
def nameOf? (t : NameTable) (addr : Ipv4) : Option String :=
  match t.reverse.lookup addr with
  | some bs => if bs.length ≤ maxReverseBytes then some (terminated bs) else none
  | none => none

/-- The most bytes that the host's own name may have. -/
def maxHostnameBytes : Nat := 254

/-- The host's own name. -/
def ownName? (t : NameTable) : Option String :=
  match t.hostname with
  | some bs => if bs.length ≤ maxHostnameBytes then some (terminated bs) else none
  | none => none

end NameTable

namespace Endpoint

/-- The endpoint of a dotted quad. -/
def resolveNumeric (text : String) : Except NetError Endpoint :=
  match ofQuad? text with
  | some e => .ok e
  | none => .error (.invalidAddress text)

/-- The endpoint of a name, and the report on its lookup. -/
def resolveSymbolic (names : NameTable) (text : String) : Endpoint × Event :=
  match NameTable.firstV4 (names.addresses text) with
  | some addr => (⟨addr, text⟩, .hostResolved text addr)
  | none => (unresolvable, .hostLookupFailed text)

/-- Digits and dots are a dotted quad or nothing; any other text is a name. -/
def resolve (names : NameTable) (text : String) : Except NetError Endpoint × List Event :=
  if text.toList.all fun c => isDigit c || c = '.' then
    (resolveNumeric text, [])
  else
    let (e, report) := resolveSymbolic names text
    (.ok e, [report])

/-- The host that the worker runs on. -/
def own (names : NameTable) : Endpoint × Event :=
  match names.ownName? with
  | none => (⟨.loopback, "localhost"⟩, .hostNameUnknown)
  | some name => resolveSymbolic names name

end Endpoint

/-- Something that is known at once, or when the host has been asked for the name of an address. -/
inductive Inquiry (α : Type)
  | known (a : α)
  | ask (addr : Ipv4) (next : Option String → α)

/-- What an inquiry comes to with these names. -/
def Inquiry.run {α : Type} (names : NameTable) : Inquiry α → α
  | known a => a
  | ask addr next => next (names.nameOf? addr)

/-- Reverse lookups that give up after `limit` failures in a row. -/
structure HostResolver where
  limit : UInt32
  numericOnly : Bool := false
  /-- Failures since the last lookup that succeeded. -/
  failures : UInt32 := 0
  deriving DecidableEq, Repr

namespace HostResolver

/-- The resolver that the whole worker shares. -/
def shared : HostResolver := { limit := 3 }

/-- Turns the numeric mode on or off by hand.  The failures so far are kept. -/
def setNumericOnly (r : HostResolver) (on : Bool) : HostResolver := { r with numericOnly := on }

/-- The answer, the resolver and the reports when the host has told the name of `text`, if any. -/
def learn (text : String) (r : HostResolver) :
    Option String → String × HostResolver × List Event
  | some name => (name, { r with failures := 0 }, [])
  | none =>
    let failures := r.failures + 1
    if r.limit ≤ failures then
      (text, { r with failures, numericOnly := true }, [.numericOnly failures])
    else
      (text, { r with failures }, [])

/-- Asks for the name of the host with the address `text`, if that is an address and the resolver
still asks. -/
def inquiry (text : String) (r : HostResolver) : Inquiry (String × HostResolver × List Event) :=
  if r.numericOnly then .known (text, r, [])
  else
    match Endpoint.ofQuad? text with
    | none => .known (text, r, [])
    | some e => .ask e.addr (r.learn text)

/-- The name of the host with the address `text`, or `text` itself if there is none to be had. -/
def lookup (names : NameTable) (text : String) (r : HostResolver) :
    String × HostResolver × List Event :=
  (r.inquiry text).run names

end HostResolver

end PipelineWorker
