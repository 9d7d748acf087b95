/-
What a worker runs in: the network, the names of hosts, the files, and the report on its doings.
-/
import PipelineWorker.Net.Network
import PipelineWorker.Net.Names
import PipelineWorker.Files

namespace PipelineWorker

/-- The surroundings of a worker. -/
structure Environment where
  net : Network := {}
  names : NameTable := {}
  files : FileSystem := {}
  /-- What was reported, newest first. -/
  log : List Event := []

namespace Environment

/-- Reports one event. -/
def report (event : Event) (env : Environment) : Environment :=
  { env with log := event :: env.log }

/-- Reports events, oldest first. -/
def reportAll (events : List Event) (env : Environment) : Environment :=
  { env with log := events.reverse ++ env.log }

/-- What was reported, oldest first. -/
def events (env : Environment) : List Event := env.log.reverse

@[simp] theorem events_report (event : Event) (env : Environment) :
    (env.report event).events = env.events ++ [event] := by
  simp [report, events]

@[simp] theorem events_reportAll (events : List Event) (env : Environment) :
    (env.reportAll events).events = env.events ++ events := by
  simp [reportAll, Environment.events]

@[simp] theorem net_report (event : Event) (env : Environment) : (env.report event).net = env.net :=
  rfl

@[simp] theorem net_reportAll (events : List Event) (env : Environment) :
    (env.reportAll events).net = env.net := rfl

end Environment

end PipelineWorker
