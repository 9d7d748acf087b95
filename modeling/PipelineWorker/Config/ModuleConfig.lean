/-
How a worker is set up: who controls it, what it is called and where its segments live.

A configuration is read from a TOML document.  All settings but the controller's port have
defaults, and keys that are no settings are passed over.

* `ofToml_eq_ok_iff` — what is accepted is well formed and valid.
-/
import PipelineWorker.Config.Toml.Parser
import PipelineWorker.Files
import PipelineWorker.Message.Control

namespace PipelineWorker

/-- The settings of a worker. -/
structure ModuleConfig where
  controllerHost : String := "127.0.0.1"
  controllerPort : Port
  moduleId : UInt32 := 0
  moduleName : String := "module"
  /-- The directory of the segments' files. -/
  segmentDir : String := "/dev/shm"
  /-- How long to wait for a connection; zero waits for as long as it takes. -/
  connectTimeoutMs : UInt64 := 5000
  /-- The backlog of deferred messages that is worth a warning; zero never is. -/
  queueHighWater : UInt64 := 1024
  logLevel : String := "info"
  deriving DecidableEq, Repr

/-- Why a configuration is refused. -/
inductive ConfigError
  | read (path : String) (failure : OsFailure)
  | parse
  | invalid (reason : String)
  deriving DecidableEq, Repr

/-- The text of the error. -/
def ConfigError.message : ConfigError → String
  | read path _ => s!"failed to read '{path}'"
  | parse => "failed to parse config"
  | invalid reason => s!"invalid config: {reason}"

/-- The texts of the error and of what caused it, outermost first. -/
def ConfigError.chain : ConfigError → List String
  | read path f => [(read path f).message, f.message]
  | e => [e.message]

/-- White space of any script. -/
def isBlank (c : Char) : Bool :=
  let n := c.toNat
  (9 ≤ n && n ≤ 13) || n = 0x20 || n = 0x85 || n = 0xA0 || n = 0x1680 ||
    (0x2000 ≤ n && n ≤ 0x200A) || n = 0x2028 || n = 0x2029 || n = 0x202F || n = 0x205F || n = 0x3000

namespace ModuleConfig

/-- The defaults for a controller on `host` and `port`. -/
def ofController (host : String) (port : Port) : ModuleConfig :=
  { controllerHost := host, controllerPort := port }

/-- How long to wait for a connection, in microseconds; `none` is for as long as it takes. -/
def connectTimeout (c : ModuleConfig) : Option Nat :=
  if c.connectTimeoutMs = 0 then none else some (1000 * c.connectTimeoutMs.toNat)

/-- A worker needs a host and a port to go to. -/
def validate (c : ModuleConfig) : Except ConfigError Unit :=
  if c.controllerHost.toList.all isBlank then .error (.invalid "controller_host is empty")
  else if c.controllerPort = 0 then .error (.invalid "controller_port must be non-zero")
  else .ok ()

/-- A text setting; `d` where it is missing. -/
def textAt (es : Toml.Entries) (key : String) (d : String) : Option String :=
  match es.lookup key with
  | none => some d
  | some (.value (.text s)) => some s
  | some _ => none

/-- A number below `bound`; `d` where it is missing. -/
def numberAt (es : Toml.Entries) (key : String) (bound : Nat) (d : Option Nat) : Option Nat :=
  match es.lookup key with
  | none => d
  | some (.value (.integer n)) => if 0 ≤ n ∧ n < bound then some n.toNat else none
  | some _ => none

/-- The settings in a table. -/
def ofEntries? (es : Toml.Entries) : Option ModuleConfig := do
  let d : ModuleConfig := { controllerPort := 0 }
  return {
    controllerHost := ← textAt es "controller_host" d.controllerHost
    controllerPort := UInt16.ofNat (← numberAt es "controller_port" UInt16.size none)
    moduleId := UInt32.ofNat (← numberAt es "module_id" UInt32.size (some d.moduleId.toNat))
    moduleName := ← textAt es "module_name" d.moduleName
    segmentDir := ← textAt es "shm_dir" d.segmentDir
    connectTimeoutMs := UInt64.ofNat
      (← numberAt es "connect_timeout_ms" UInt64.size (some d.connectTimeoutMs.toNat))
    queueHighWater := UInt64.ofNat
      (← numberAt es "queue_high_water" UInt64.size (some d.queueHighWater.toNat))
    logLevel := ← textAt es "log_level" d.logLevel }

/-- Reads a configuration from a document. -/
def ofToml (text : String) : Except ConfigError ModuleConfig := do
  match Toml.parse? text >>= ofEntries? with
  | none => .error .parse
  | some c => do
    c.validate
    return c

/-- Reads a configuration from the file at `path`. -/
def load (fs : FileSystem) (path : String) : Except ConfigError ModuleConfig :=
  match fs.readAll path with
  | .error f => .error (.read path f)
  | .ok bs =>
    match String.fromUTF8? bs.toByteArray with
    | none => .error (.read path (.worded .invalidData "stream did not contain valid UTF-8"))
    | some text => ofToml text

/-- What is accepted is well formed and valid. -/
theorem ofToml_eq_ok_iff {text : String} {c : ModuleConfig} :
    ofToml text = .ok c ↔ Toml.parse? text >>= ofEntries? = some c ∧ c.validate = .ok () := by
  rw [ofToml]
  split
  · rename_i h
    simp [h]
  · rename_i d h
    simp only [h, Option.some.injEq]
    cases hv : d.validate with
    | error e =>
      constructor
      · intro hc; cases hc
      · rintro ⟨rfl, h⟩; simp [hv] at h
    | ok u =>
      constructor
      · intro hc; cases hc; exact ⟨rfl, hv⟩
      · rintro ⟨rfl, _⟩; rfl

end ModuleConfig

end PipelineWorker
