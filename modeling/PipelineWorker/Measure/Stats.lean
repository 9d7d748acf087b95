/-
Summaries of measured durations.

The samples are sorted, and every figure is taken from the sorted list: the extremes, the nearest
ranks of four percentiles, and mean and standard deviation, whose sums run from the least sample to
the greatest in floating-point arithmetic.  The rank of a percentile is computed in the same
arithmetic (`Percentile.rank`), on exact numbers.

* `perm_sortedSamples`, `sorted_sortedSamples` — sorting loses nothing and sorts.
-/
import PipelineWorker.Measure.Binary64

namespace PipelineWorker

/-- A measured duration, in nanoseconds. -/
abbrev Sample := UInt64

/-- The percentiles of a report. -/
inductive Percentile
  | p50 | p90 | p99 | p999
  deriving DecidableEq, Repr

namespace Percentile

/-- The percentile as a fraction of one hundred. -/
def percent : Percentile → Binary64
  | p50 => .ofNat 50
  | p90 => .ofNat 90
  | p99 => .ofNat 99
  | p999 => .ofRatio 999 10

/-- The nearest rank among `n` samples, counted from one: the percentile of `n`, rounded up. -/
def rank (p : Percentile) (n : Nat) : Nat :=
  ((p.percent.div (.ofNat 100)).mul (.ofNat n)).ceil

/-- The sample of nearest rank in a sorted list; a rank past the end means the last sample. -/
def pick (p : Percentile) (sorted : List Sample) : Sample :=
  sorted.getD (min (p.rank sorted.length - 1) (sorted.length - 1)) 0

end Percentile

/-- The figures of a report. -/
structure Stats where
  min : Sample
  max : Sample
  mean : Float
  stddev : Float
  p50 : Sample
  p90 : Sample
  p99 : Sample
  p999 : Sample
  count : Nat

/-- Why there is no report. -/
inductive MeasureError
  /-- There was nothing to summarise. -/
  | noSamples
  /-- The duration of a batch of no calls cannot be shared out. -/
  | emptyBatch
  deriving DecidableEq, Repr

/-- The text of the error. -/
def MeasureError.message : MeasureError → String
  | noSamples => "cannot compute stats on empty samples"
  | emptyBatch => "attempt to divide by zero"

/-- The samples in ascending order. -/
def sortedSamples (samples : List Sample) : List Sample :=
  samples.mergeSort (fun a b => decide (a ≤ b))

theorem perm_sortedSamples (samples : List Sample) : (sortedSamples samples).Perm samples :=
  List.mergeSort_perm ..

theorem sorted_sortedSamples (samples : List Sample) :
    (sortedSamples samples).Pairwise (· ≤ ·) := by
  have h := @List.pairwise_mergeSort _ (fun a b : Sample => decide (a ≤ b))
    (fun a b c hab hbc => by simp_all; exact UInt64.le_trans hab hbc)
    (fun a b => by simpa using UInt64.le_total a b) samples
  simpa [sortedSamples] using h

/-- The sum of a list, from left to right. -/
def floatSum (xs : List Float) : Float := xs.foldl (· + ·) 0.0

/-- Sorts the samples and summarises them. -/
def Stats.ofSamples (samples : List Sample) : Except MeasureError (List Sample × Stats) :=
  let sorted := sortedSamples samples
  match sorted with
  | [] => .error .noSamples
  | least :: _ =>
    let count := sorted.length.toUInt64.toFloat
    let values := sorted.map UInt64.toFloat
    let mean := floatSum values / count
    let variance := floatSum (values.map fun x => (x - mean) * (x - mean)) / count
    .ok (sorted, {
      min := least
      max := sorted.getLastD 0
      mean
      stddev := variance.sqrt
      p50 := Percentile.p50.pick sorted
      p90 := Percentile.p90.pick sorted
      p99 := Percentile.p99.pick sorted
      p999 := Percentile.p999.pick sorted
      count := sorted.length })

end PipelineWorker
