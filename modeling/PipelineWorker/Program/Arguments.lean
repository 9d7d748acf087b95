/-
The command line of the program.

    [config.toml] [--host H] [--port P] [--id N] [--name NAME] [--numeric-hosts]

Words are read from left to right.  A word that looks like an option is one, even where the option
before it still waits for its value, until `--` makes all that follow plain words.  The value of an
option is looked at when the next one begins, so a fault in it is found no earlier than that.

* `read_nil` — an empty command line sets nothing.
-/
import PipelineWorker.Config.ModuleConfig

namespace PipelineWorker

/-- What the command line says. -/
structure Arguments where
  /-- The path of the configuration. -/
  config : Option String := none
  host : Option String := none
  port : Option Port := none
  id : Option UInt32 := none
  name : Option String := none
  /-- Addresses are reported as numbers, without looking up their names. -/
  numericHosts : Bool := false
  deriving DecidableEq, Repr

/-- Why the program does not start from its command line. -/
inductive CommandLineStop
  /-- An option without its value, or an empty path. -/
  | missingValue
  /-- A value that is not of the option's type. -/
  | badValue
  | unknownWord
  /-- An option that is given twice. -/
  | repeated
  /-- A value for an option that takes none. -/
  | needlessValue
  /-- The help was asked for. -/
  | help
  deriving DecidableEq, Repr

namespace CommandLine

/-- What a word can give a value to. -/
inductive Slot
  | config | host | port | id | name
  deriving DecidableEq, Repr

/-- The option of that name that takes a value. -/
def Slot.ofOption? : String → Option Slot
  | "host" => some .host
  | "port" => some .port
  | "id" => some .id
  | "name" => some .name
  | _ => none

/-- A slot that waits to be settled, with its value if that was read. -/
structure Pending where
  slot : Slot
  value : Option String
  deriving DecidableEq, Repr

/-- A decimal number below `bound`, with an optional sign. -/
def numeric? (bound : Nat) (text : String) : Option Nat :=
  match text.toList with
  | '-' :: ds => (decimal? ds).filter (· = 0)
  | '+' :: ds => (decimal? ds).filter (· < bound)
  | ds => (decimal? ds).filter (· < bound)

/-- Whether a value was given already. -/
def isSet (a : Arguments) : Slot → Bool
  | .config => a.config.isSome
  | .host => a.host.isSome
  | .port => a.port.isSome
  | .id => a.id.isSome
  | .name => a.name.isSome

/-- Gives a value. -/
def fill (a : Arguments) (slot : Slot) (text : String) : Except CommandLineStop Arguments :=
  match slot with
  | .config => if text = "" then .error .missingValue else .ok { a with config := some text }
  | .host => .ok { a with host := some text }
  | .name => .ok { a with name := some text }
  | .port =>
    match numeric? UInt16.size text with
    | some n => .ok { a with port := some (UInt16.ofNat n) }
    | none => .error .badValue
  | .id =>
    match numeric? UInt32.size text with
    | some n => .ok { a with id := some (UInt32.ofNat n) }
    | none => .error .badValue

/-- Takes up what was pending.  A missing value is found first, then a repetition, then a value of
the wrong type. -/
def settle (a : Arguments) : Option Pending → Except CommandLineStop Arguments
  | none => .ok a
  | some ⟨_, none⟩ => .error .missingValue
  | some ⟨slot, some text⟩ => if isSet a slot then .error .repeated else fill a slot text

/-- A word, by its looks. -/
inductive Word
  /-- The two dashes after which all words are plain. -/
  | separator
  | option (name : String) (value : Option String)
  /-- One dash and the letter behind it. -/
  | letter (c : Char)
  | plain (text : String)
  deriving DecidableEq, Repr

/-- Takes a word apart.  A single dash is plain. -/
def Word.ofString (text : String) : Word :=
  match text.toList with
  | ['-', '-'] => .separator
  | '-' :: '-' :: cs =>
    match cs.dropWhile (· ≠ '=') with
    | [] => .option (String.ofList cs) none
    | _ :: value => .option (String.ofList (cs.takeWhile (· ≠ '='))) (some (String.ofList value))
  | '-' :: c :: _ => .letter c
  | _ => .plain text

/-- Turns the switch on. -/
def switchOn (a : Arguments) : Except CommandLineStop Arguments :=
  if a.numericHosts then .error .repeated else .ok { a with numericHosts := true }

/-- The help is shown unless what is pending is at fault. -/
def showHelp (a : Arguments) (pending : Option Pending) : CommandLineStop :=
  match settle a pending with
  | .error e => e
  | .ok _ => .help

/-- Takes a word that looks like an option. -/
def readOption (a : Arguments) (pending : Option Pending) (name : String) (value : Option String) :
    Except CommandLineStop (Arguments × Option Pending) :=
  match Slot.ofOption? name, value with
  | some slot, none => do return (← settle a pending, some ⟨slot, none⟩)
  | some slot, some text => do
    let a ← settle a pending
    return (← settle a (some ⟨slot, some text⟩), none)
  | none, value =>
    if name = "numeric-hosts" then
      match value with
      | some _ => .error .needlessValue
      | none => do return (← switchOn (← settle a pending), none)
    else if name = "help" then
      match value with
      | some _ => .error .needlessValue
      | none => .error (showHelp a pending)
    else .error .unknownWord

/-- Takes a plain word as the path; there is room for one. -/
def readPath (a : Arguments) (pending : Option Pending) (text : String) :
    Except CommandLineStop (Arguments × Option Pending) :=
  let taken := a.config.isSome || pending.any (·.slot = .config)
  if taken then .error .unknownWord
  else do return (← settle a pending, some ⟨.config, some text⟩)

/-- Reads the words; behind the separator, `plainOnly`, all are plain. -/
def readFrom (plainOnly : Bool) (a : Arguments) (pending : Option Pending) :
    List String → Except CommandLineStop Arguments
  | [] => settle a pending
  | text :: rest =>
    if plainOnly then do
      let (a, pending) ← readPath a pending text
      readFrom true a pending rest
    else
      match Word.ofString text with
      | .separator => readFrom true a pending rest
      | .option name value => do
        let (a, pending) ← readOption a pending name value
        readFrom false a pending rest
      | .letter c => .error (if c = 'h' then showHelp a pending else .unknownWord)
      | .plain text =>
        match pending with
        | some ⟨slot, none⟩ => readFrom false a (some ⟨slot, some text⟩) rest
        | pending => do
          let (a, pending) ← readPath a pending text
          readFrom false a pending rest

end CommandLine

namespace Arguments

/-- Reads a command line. -/
def read (words : List String) : Except CommandLineStop Arguments :=
  CommandLine.readFrom false {} none words

theorem read_nil : read [] = .ok {} := rfl

end Arguments

/-- A refused configuration: what was being done, and why it failed. -/
structure ConfigRefusal where
  context : String
  cause : ConfigError
  deriving DecidableEq, Repr

/-- The texts of the refusal and of what caused it, outermost first. -/
def ConfigRefusal.chain (r : ConfigRefusal) : List String := r.context :: r.cause.chain

namespace Arguments

/-- The settings on the command line take the place of those in a configuration. -/
def overlay (a : Arguments) (c : ModuleConfig) : ModuleConfig :=
  { c with
    controllerHost := a.host.getD c.controllerHost
    controllerPort := a.port.getD c.controllerPort
    moduleId := a.id.getD c.moduleId
    moduleName := a.name.getD c.moduleName }

/-- The configuration to run with: the file, or else the defaults, under the command line. -/
def toConfig (a : Arguments) (fs : FileSystem) : Except ConfigRefusal ModuleConfig := do
  let base ← match a.config with
    | none => pure (ModuleConfig.ofController "127.0.0.1" 0)
    | some path =>
      (ModuleConfig.load fs path).mapError (⟨s!"loading module config from {path}", ·⟩)
  let c := a.overlay base
  c.validate.mapError (⟨"applying command line overrides", ·⟩)
  return c

end Arguments

end PipelineWorker
