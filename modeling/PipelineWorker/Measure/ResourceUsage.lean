/-
What a process has used of the machine.

* `isSound_ofCounters` — a snapshot of a process that was ever resident is sound.
-/

namespace PipelineWorker

/-- What the system counts for a process, from its start on. -/
structure UsageCounters where
  /-- The largest resident size so far, in kilobytes. -/
  residentKb : Nat
  minorFaults : Nat := 0
  majorFaults : Nat := 0
  voluntarySwitches : Nat := 0
  involuntarySwitches : Nat := 0
  deriving DecidableEq, Repr

/-- The counters with the resident size in bytes. -/
structure ResourceSnapshot where
  residentBytes : Int
  minorFaults : Int
  majorFaults : Int
  voluntarySwitches : Int
  involuntarySwitches : Int
  deriving DecidableEq, Repr

namespace ResourceSnapshot

/-- Takes a snapshot of the counters. -/
def ofCounters (c : UsageCounters) : ResourceSnapshot :=
  { residentBytes := 1024 * c.residentKb
    minorFaults := c.minorFaults
    majorFaults := c.majorFaults
    voluntarySwitches := c.voluntarySwitches
    involuntarySwitches := c.involuntarySwitches }

/-- All figures of a snapshot. -/
def figures (s : ResourceSnapshot) : List Int :=
  [s.residentBytes, s.minorFaults, s.majorFaults, s.voluntarySwitches, s.involuntarySwitches]

/-- Whether something was ever resident. -/
def isResident (s : ResourceSnapshot) : Bool := 0 < s.residentBytes

/-- Whether the resident size is a whole number of kilobytes. -/
def isWhole (s : ResourceSnapshot) : Bool := s.residentBytes % 1024 = 0

/-- Whether no figure is negative. -/
def isCount (s : ResourceSnapshot) : Bool := s.figures.all (0 ≤ ·)

/-- Whether no figure has fallen since an earlier snapshot. -/
def notBelow (s earlier : ResourceSnapshot) : Bool :=
  (earlier.figures.zip s.figures).all fun (x, y) => x ≤ y

/-- A snapshot of a process that was ever resident is sound. -/
theorem isSound_ofCounters {c : UsageCounters} (h : 0 < c.residentKb) :
    (ofCounters c).isResident = true ∧ (ofCounters c).isWhole = true
      ∧ (ofCounters c).isCount = true := by
  refine ⟨?_, ?_, ?_⟩
  · have : (0 : Int) < 1024 * c.residentKb := by omega
    simp [isResident, ofCounters, this]
  · have : (1024 * c.residentKb : Int) % 1024 = 0 := by omega
    simp [isWhole, ofCounters, this]
  · have : (0 : Int) ≤ 1024 * c.residentKb := by omega
    simp [isCount, figures, ofCounters, this]

end ResourceSnapshot

end PipelineWorker
