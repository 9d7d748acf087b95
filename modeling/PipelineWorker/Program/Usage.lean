/-
What the program tells about its command line.
-/
import PipelineWorker.Program.Arguments

namespace PipelineWorker

namespace CommandLineStop

/-- How the program is called. -/
def usage : String :=
  "Usage: basalt-module [OPTIONS] [CONFIG]\n\n" ++
  "Worker module: handshake with the controller, then serve control messages\n\n" ++
  "  [CONFIG]         TOML module config. Without one, --port is required\n" ++
  "  --host <HOST>    Controller host name or dotted-quad address\n" ++
  "  --port <PORT>    Controller port\n" ++
  "  --id <ID>\n" ++
  "  --name <NAME>\n" ++
  "  --numeric-hosts  Log addresses as dotted quads instead of reverse-resolving them\n" ++
  "  -h, --help       Print help"

/-- What is told to somebody whose command line is not run. -/
def message : CommandLineStop → String
  | missingValue => "a value is required"
  | badValue => "invalid value"
  | unknownWord => "unexpected argument found"
  | repeated => "an argument cannot be used multiple times"
  | needlessValue => "unexpected value found"
  | help => usage

end CommandLineStop

end PipelineWorker
