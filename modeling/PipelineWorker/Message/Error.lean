/-
What can go wrong between a message and its bytes.

A failure of the stream below is kept as it was reported; `isEof` and `isDisconnect` look at its
kind only.
-/
import PipelineWorker.Failure

namespace PipelineWorker

/-- A field whose values are limited to a range. -/
inductive LimitedField
  | segmentSize
  | datamanagerPort
  deriving DecidableEq, Repr, Inhabited

/-- The words for a limited field. -/
def LimitedField.text : LimitedField → String
  | segmentSize => "segment size"
  | datamanagerPort => "datamanager port"

/-- Why bytes are not a message, or a message could not be moved. -/
inductive CodecError
  /-- The stream failed. -/
  | stream (failure : OsFailure)
  /-- More bytes than a message may carry. -/
  | payloadTooLarge (length limit : Nat)
  /-- Fewer bytes than the layout asks for. -/
  | truncated (needed available : Nat)
  /-- A text field that is not UTF-8. -/
  | invalidUtf8
  /-- A number outside the range of its field. -/
  | outOfRange (field : LimitedField) (value : Int)
  deriving DecidableEq, Repr, Inhabited

namespace CodecError

/-- The text of the error. -/
def message : CodecError → String
  | stream _ => "i/o error while framing message"
  | payloadTooLarge length limit => s!"payload of {length} bytes exceeds the {limit} byte limit"
  | truncated needed available =>
    s!"payload truncated: needed {needed} bytes, {available} available"
  | invalidUtf8 => "payload string is not valid utf-8"
  | outOfRange field value => s!"{field.text} value {value} is out of range"

/-- The stream ended before the frame was complete. -/
def isEof : CodecError → Bool
  | stream f => f.kind == .unexpectedEof
  | _ => false

/-- The other end went away, in whatever manner. -/
def isDisconnect : CodecError → Bool
  | stream f => f.kind.isDisconnect
  | _ => false

/-- The error with its parts spelled out. -/
def detail : CodecError → String
  | stream f => s!"Io({f.detail})"
  | payloadTooLarge length limit =>
    "PayloadTooLarge \x7b len: " ++ toString length ++ ", max: " ++ toString limit ++ " \x7d"
  | truncated needed available =>
    "Truncated \x7b needed: " ++ toString needed ++ ", available: " ++ toString available ++ " \x7d"
  | invalidUtf8 => "InvalidUtf8"
  | outOfRange field value =>
    "OutOfRange \x7b field: \"" ++ field.text ++ "\", value: " ++ toString value ++ " \x7d"

end CodecError

end PipelineWorker
