/-
The payloads that the coordinator itself looks into.

| kind | layout |
|---|---|
| `appContactDm` | port, a signed word |
| `getShmKey` reply, `newSharedSegment` | key and size, two signed words |
| `sendApplProcId` | process id, an unsigned word and nothing else |

The first two layouts may be followed by anything; the last must fill the payload.
-/
import PipelineWorker.Message.Basic
import PipelineWorker.Message.Fields

namespace PipelineWorker

/-- Key and size of a shared segment, as assigned or announced by the datamanager. -/
structure SegmentAnnouncement where
  key : SegmentKey
  size : UInt32
  deriving DecidableEq, Repr

namespace SegmentAnnouncement

/-- The size travels as a signed word, so only sizes below 2^31 arrive as they were. -/
def encode (a : SegmentAnnouncement) : Bytes :=
  BigEndian.ofSigned a.key.number ++ BigEndian.ofSigned a.size.toInt32

/-- A size that is not positive is out of range. -/
def decode (bs : Bytes) : Except CodecError SegmentAnnouncement := do
  let (key, rest) := Field.take 4 bs
  let key ← key
  let (size, _) := Field.take 4 rest
  let size := BigEndian.signedOf (← size)
  if size.toInt ≤ 0 then
    .error (.outOfRange .segmentSize size.toInt)
  else
    .ok { key := ⟨BigEndian.signedOf key⟩, size := size.toUInt32 }

/-- The announcement as a message of the given kind. -/
def toMessage (a : SegmentAnnouncement) (kind : Kind) : Message := .ofBytes kind a.encode

end SegmentAnnouncement

/-- A port on which the controller's host runs the datamanager. -/
abbrev Port := UInt16

/-- The controller's pointer to the datamanager. -/
structure DatamanagerAssignment where
  port : Port
  deriving DecidableEq, Repr

namespace DatamanagerAssignment

/-- The port travels as a signed word. -/
def encode (a : DatamanagerAssignment) : Bytes :=
  BigEndian.ofSigned (Int32.ofNat a.port.toNat)

/-- A port is a number from 1 to 65535. -/
def decode (bs : Bytes) : Except CodecError DatamanagerAssignment := do
  let port := (BigEndian.signedOf (← (Field.take 4 bs).1)).toInt
  if 1 ≤ port ∧ port ≤ 65535 then
    .ok { port := UInt16.ofNat port.toNat }
  else
    .error (.outOfRange .datamanagerPort port)

/-- The assignment as a message. -/
def toMessage (a : DatamanagerAssignment) : Message := .ofBytes .appContactDm a.encode

end DatamanagerAssignment

/-- A worker's process id, as reported to the datamanager. -/
structure ProcessIdAnnouncement where
  pid : UInt32
  deriving DecidableEq, Repr

namespace ProcessIdAnnouncement

/-- The four bytes of the id. -/
def encode (a : ProcessIdAnnouncement) : Bytes := BigEndian.ofWord a.pid

/-- Exactly four bytes are an id. -/
def decode (bs : Bytes) : Except CodecError ProcessIdAnnouncement :=
  if bs.length = 4 then
    .ok { pid := BigEndian.wordOf bs }
  else
    .error (.truncated 4 bs.length)

/-- The announcement as a message. -/
def toMessage (a : ProcessIdAnnouncement) : Message := .ofBytes .sendApplProcId a.encode

end ProcessIdAnnouncement

end PipelineWorker
