/-
Timing a repeated operation.

The operation is known by what its calls cost: `cost k` is the time, in microseconds, that the
`k`-th call takes, counted from zero.  Samples are in nanoseconds and never zero.

* `samplesOfEach` times every call by itself;
* `samplesOfBatches` times batches after one batch to warm up, and shares the time out evenly.
-/
import PipelineWorker.Measure.Stats
import PipelineWorker.Message.Basic
import PipelineWorker.Total

namespace PipelineWorker

/-- What was measured, in which unit, and the figures. -/
structure BenchResult where
  name : String
  unit : String
  stats : Stats

/-- A duration as a sample: nanoseconds as a 64-bit number, at least one. -/
def sampleOf (nanoseconds : Nat) : Sample := max (UInt64.ofNat nanoseconds) 1

/-- The time, in microseconds, of `count` calls from call `first` on. -/
def costOfCalls (cost : Nat → Nat) (first count : Nat) : Nat :=
  total (fun i => cost (first + i)) (List.range count)

/-- The time of each of `n` calls. -/
def samplesOfEach (cost : Nat → Nat) (n : Nat) : List Sample :=
  (List.range n).map fun k => sampleOf (1000 * cost k)

/-- The time per call in each of `batches` batches of `size` calls. -/
def samplesOfBatches (cost : Nat → Nat) (batches size : Nat) : List Sample :=
  (List.range batches).map fun b =>
    sampleOf (1000 * costOfCalls cost (size * (b + 1)) size / size)

/-- Times `n` calls one by one.  The number of calls made comes with the result. -/
def measureEach (name : String) (n : Nat) (cost : Nat → Nat) :
    Except MeasureError (BenchResult × Nat) := do
  let (_, stats) ← Stats.ofSamples (samplesOfEach cost n)
  return ({ name, unit := "ns", stats }, n)

/-- Times batches of calls.  The number of calls made comes with the result. -/
def measureBatched (name : String) (batches size : Nat) (cost : Nat → Nat) :
    Except MeasureError (BenchResult × Nat) := do
  if 0 < batches ∧ size = 0 then
    throw .emptyBatch
  let (_, stats) ← Stats.ofSamples (samplesOfBatches cost batches size)
  return ({ name, unit := "ns/op", stats }, size * (batches + 1))

/-- A render request with a patterned payload of `n` bytes. -/
def patternedRequest (n : Nat) : Message :=
  .ofBytes .render ((List.range n).map fun i => UInt8.ofNat (i % 251))

end PipelineWorker
