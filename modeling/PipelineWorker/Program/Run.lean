/-
The program from its command line to its exit.

The exit code is 0 after an orderly end and for the help, 1 where the handshake failed or the
coordinator could not go on, and 2 where the command line or the configuration was refused.

* `stopCode_eq_zero_iff` — of the command lines that are not run only the help exits with 0.
-/
import PipelineWorker.Program.Arguments
import PipelineWorker.Program.Serve
import PipelineWorker.Log.Filter

namespace PipelineWorker

/-- What came of a run. -/
structure Run where
  exitCode : UInt8
  /-- What the program complains about, line by line. -/
  complaints : List String
  /-- The reports that were written, line by line. -/
  lines : List String
  /-- The surroundings afterwards. -/
  env : Environment

namespace Program

/-- The exit code of a command line that is not run. -/
def stopCode : CommandLineStop → UInt8
  | .help => 0
  | _ => 2

theorem stopCode_eq_zero_iff {stop : CommandLineStop} : stopCode stop = 0 ↔ stop = .help := by
  cases stop <;> decide

/-- The filter for the reports, and what could not be read of it.  The text from outside goes before
the one of the configuration, if it can be read as a whole. -/
def filterFor (outside : Option String) (config : ModuleConfig) : LogFilter × List String :=
  match outside.bind LogFilter.ofText? with
  | some f => (f, [])
  | none => LogFilter.ofText config.logLevel

/-- Reports that the program starts. -/
def announce (numericHosts : Bool) (config : ModuleConfig) (env : Environment) : Environment :=
  let resolver := HostResolver.shared.setNumericOnly numericHosts
  let (controller, _, events) := resolver.lookup env.names config.controllerHost
  (env.reportAll events).report
    (.startingModule config.moduleName config.moduleId controller config.controllerPort)

/-- Starts a coordinator and serves until the end. -/
def work (config : ModuleConfig) (pid : UInt32) (env : Environment) : UInt8 × Environment :=
  match Session.start config pid env with
  | (.error _, s) => (1, s.env)
  | (.ok (), s) =>
    match s.serve with
    | (.ok (), s) => (0, s.dispose.env)
    | (.error e, s) => (1, (s.report (.coordinatorFailed e)).dispose.env)

/-- A line without its first word and the blank behind it, which are the time where a report
begins.  A line without a blank stays as it is. -/
def dropTime (line : List Char) : List Char :=
  match line.dropWhile (· ≠ ' ') with
  | [] => line
  | _ :: rest => rest

/-- A line without the carriage return that belongs to its end. -/
def dropReturn (line : List Char) : List Char :=
  if line.getLast? = some '\r' then line.dropLast else line

/-- The lines of a report, without their time.  Text from outside may bring line ends along, and
the lines that begin in it lose their first word just the same. -/
def linesOfReport (r : Report) : List String :=
  match Separated.split '\n' r.line.toList with
  | [] => []
  | first :: more =>
    (dropReturn first :: more.map (dropTime ∘ dropReturn)).map String.ofList

/-- The lines of the reports that pass. -/
def linesOf (f : LogFilter) (events : List Event) : List String :=
  ((events.map Event.report).filter f.passes).flatMap linesOfReport

/-- Runs the program on a command line that was read. -/
def run (a : Arguments) (outside : Option String) (pid : UInt32) (env : Environment) : Run :=
  match a.toConfig env.files with
  | .error refusal =>
    { exitCode := 2
      complaints := ["basalt-module: " ++ ": ".intercalate refusal.chain]
      lines := []
      env }
  | .ok config =>
    let (f, complaints) := filterFor outside config
    let (exitCode, env) := work config pid (announce a.numericHosts config env)
    { exitCode, complaints, lines := linesOf f env.events, env }

end Program

end PipelineWorker
