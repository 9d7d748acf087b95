/-
What can go wrong with shared segments.
-/
import PipelineWorker.Message.Basic

namespace PipelineWorker

/-- Why a segment could not be attached or accessed. -/
inductive SegmentError
  /-- The segment could not be mapped, for the reason given. -/
  | unavailable (key : SegmentKey) (size : Nat) (reason : String)
  /-- An access outside the mapping. -/
  | outOfBounds (offset length size : Nat)
  deriving DecidableEq, Repr, Inhabited

/-- The text of the error. -/
def SegmentError.message : SegmentError → String
  | unavailable key size reason =>
    s!"shared segment {key.display} ({size} bytes) unavailable: {reason}"
  | outOfBounds offset length size =>
    s!"access of {length} bytes at offset {offset} exceeds segment size {size}"

end PipelineWorker
