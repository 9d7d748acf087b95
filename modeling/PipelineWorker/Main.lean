/-
The command line program.

It reads the configuration that its command line names, and runs the worker in a network of its own,
in which nobody listens; the reports go to standard output, complaints to standard error.
-/
import PipelineWorker.Program.Run
import PipelineWorker.Program.Usage

open PipelineWorker

/-- The file system that holds the configuration, as far as it can be read. -/
def configFiles (path : Option String) : IO FileSystem := do
  let some path := path | return {}
  try
    let bytes ← IO.FS.readBinFile path
    return ({} : FileSystem).provide path (.ofBytes bytes.toList)
  catch _ => return {}

def main (words : List String) : IO UInt32 := do
  match Arguments.read words with
  | .error stop =>
    if stop = .help then IO.println stop.message else IO.eprintln s!"error: {stop.message}"
    return (Program.stopCode stop).toUInt32
  | .ok a =>
    let files ← configFiles a.config
    let run := Program.run a (← IO.getEnv "RUST_LOG") 1 { files }
    run.lines.forM IO.println
    run.complaints.forM IO.eprintln
    return run.exitCode.toUInt32
