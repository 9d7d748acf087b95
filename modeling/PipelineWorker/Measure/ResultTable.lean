/-
The text of measurements: sizes in bytes, section headings and the table of results.

A column is padded with blanks to its width, counted in characters; a longer text runs over.
-/
import PipelineWorker.Measure.Sampling

namespace PipelineWorker

namespace ResultTable

/-- A size with one decimal place in the given unit, `2 ^ bits` bytes.  The size is rounded to a
floating-point number first; a tie between two places goes to the even one. -/
def inUnit (size : Nat) (bits : Nat) (unit : String) : String :=
  let x := Binary64.ofNat size
  let tenths := roundDiv (10 * x.num) (x.den <<< bits)
  s!"{tenths / 10}.{tenths % 10} {unit}"

/-- A size in bytes, in kilobytes from 1024 bytes on and in megabytes from 1048576 bytes on. -/
def sizeText (n : Nat) : String :=
  if 1048576 ≤ n then inUnit n 20 "MB"
  else if 1024 ≤ n then inUnit n 10 "KB"
  else s!"{n} B"

/-- A run of `n` copies of a character. -/
def run (n : Nat) (c : Char) : String := String.ofList (List.replicate n c)

/-- The text at the left of a column of width `w`. -/
def left (w : Nat) (s : String) : String := s ++ run (w - s.length) ' '

/-- The text at the right of a column of width `w`. -/
def right (w : Nat) (s : String) : String := run (w - s.length) ' ' ++ s

/-- A line of the table: the name, six figures and the unit. -/
def line (name : String) (figures : List String) (unit : String) : String :=
  "  " ++ left 34 name ++ String.join (figures.map fun f => " " ++ right 9 f) ++
    "  " ++ unit ++ "\n"

/-- The heading of a section. -/
def heading (title : String) : String :=
  "\n" ++ run 90 '─' ++ "\n  " ++ title ++ "\n" ++ run 90 '─' ++ "\n\n"

/-- The head of the table. -/
def tableHead : String :=
  line "Benchmark" ["min", "p50", "p90", "p99", "p99.9", "max"] "unit" ++
    "  " ++ run 100 '─' ++ "\n"

/-- One result as a line of the table. -/
def row (r : BenchResult) : String :=
  let s := r.stats
  line r.name ([s.min, s.p50, s.p90, s.p99, s.p999, s.max].map toString) r.unit

/-- A section with its table. -/
def render (title : String) (rows : List BenchResult) : String :=
  heading title ++ tableHead ++ String.join (rows.map row)

end ResultTable

end PipelineWorker
