/-
Control messages: a kind, a payload and the connection it came in on.

A `Payload` knows its length and lays its bytes out only when asked, so that a payload over the
size limit is refused without ever being built.  Two payloads with the same bytes are equal
(`Payload.ext`), and every byte string is the payload of its own bytes (`Payload.toList_ofList`).
-/
import PipelineWorker.BigEndian
import PipelineWorker.Message.Kind

namespace PipelineWorker

/-- Names a connection within one registry. -/
structure ConnectionId where
  number : UInt32
  deriving DecidableEq, Repr, Inhabited

namespace ConnectionId

/-- The text of a connection in messages and logs. -/
def display (id : ConnectionId) : String := s!"conn#{id.number}"

/-- The text of a connection where values are spelled out. -/
def detail (id : ConnectionId) : String := s!"ConnectionId({id.number})"

end ConnectionId

/-- Names a shared segment; unique on one host. -/
structure SegmentKey where
  number : Int32
  deriving DecidableEq, Repr, Inhabited

namespace SegmentKey

/-- The text of a key in messages and logs. -/
def display (k : SegmentKey) : String := toString k.number.toInt

/-- The text of a key where values are spelled out. -/
def detail (k : SegmentKey) : String := s!"SegmentKey({k.number.toInt})"

end SegmentKey

/-- The bytes of a message, laid out on demand. -/
structure Payload where
  length : Nat
  bytes : Thunk Bytes
  length_bytes : bytes.get.length = length

namespace Payload

/-- The bytes of the payload, in order. -/
def toList (p : Payload) : Bytes := p.bytes.get

/-- The payload with the bytes `bs`. -/
def ofList (bs : Bytes) : Payload := ⟨bs.length, Thunk.pure bs, rfl⟩

/-- The payload that repeats `pattern` as often as `count` says. -/
def repeated (pattern : Bytes) (count : Nat) : Payload :=
  ⟨count * pattern.length, Thunk.mk fun _ => (List.replicate count pattern).flatten, by
    simp [Thunk.get]⟩

@[simp] theorem length_toList (p : Payload) : p.toList.length = p.length := p.length_bytes

@[simp] theorem toList_ofList (bs : Bytes) : (ofList bs).toList = bs := rfl

@[simp] theorem length_ofList (bs : Bytes) : (ofList bs).length = bs.length := rfl

@[simp] theorem toList_repeated (pattern : Bytes) (count : Nat) :
    (repeated pattern count).toList = (List.replicate count pattern).flatten := rfl

@[ext] theorem ext {p q : Payload} (h : p.toList = q.toList) : p = q := by
  obtain ⟨n, ⟨f⟩, hn⟩ := p
  obtain ⟨m, ⟨g⟩, hm⟩ := q
  obtain rfl : f = g := funext fun ⟨⟩ => h
  obtain rfl : n = m := hn.symm.trans hm
  rfl

@[simp] theorem ofList_toList (p : Payload) : ofList p.toList = p := ext rfl

instance : DecidableEq Payload := fun p q =>
  decidable_of_iff (p.toList = q.toList) ⟨ext, fun h => h ▸ rfl⟩

instance : Inhabited Payload := ⟨ofList []⟩

instance : Repr Payload := ⟨fun p _ => repr p.toList⟩

/-- Whether there is nothing in the payload. -/
def isEmpty (p : Payload) : Bool := p.length == 0

end Payload

/-- A control message.  The connection it arrived on is set by the receiving side and never
travels. -/
structure Message where
  kind : Kind
  payload : Payload
  origin : Option ConnectionId := none
  deriving DecidableEq, Inhabited, Repr

namespace Message

/-- A message that has not travelled yet. -/
def ofBytes (kind : Kind) (bs : Bytes) : Message := { kind, payload := .ofList bs }

/-- A message without payload. -/
def empty (kind : Kind) : Message := ofBytes kind []

/-- The message as it arrived on connection `id`. -/
def withOrigin (m : Message) (id : ConnectionId) : Message := { m with origin := some id }

@[simp] theorem kind_withOrigin (m : Message) (id : ConnectionId) :
    (m.withOrigin id).kind = m.kind := rfl

@[simp] theorem payload_withOrigin (m : Message) (id : ConnectionId) :
    (m.withOrigin id).payload = m.payload := rfl

@[simp] theorem origin_withOrigin (m : Message) (id : ConnectionId) :
    (m.withOrigin id).origin = some id := rfl

end Message

end PipelineWorker
