import DnsReconcile.Text.Lowercase

/-!
The settings of the command line program, which come from environment
variables.
-/

namespace DnsReconcile.Cli

inductive Mode where
  | preview
  | push
  deriving DecidableEq, Inhabited

def Mode.text : Mode → String
  | preview => "Preview"
  | push => "Push"

/-- How grave a log message is, the least grave first. -/
inductive Level where
  | trace
  | debug
  | info
  | warn
  | error
  deriving DecidableEq, Inhabited

namespace Level

def text : Level → String
  | trace => "TRACE"
  | debug => "DEBUG"
  | info => "INFO"
  | warn => "WARN"
  | error => "ERROR"

def rank : Level → Nat
  | trace => 0
  | debug => 1
  | info => 2
  | warn => 3
  | error => 4

/-- Whether messages of a level are written when `least` is the least grave
level to be written. -/
def isWritten (least l : Level) : Bool := least.rank ≤ l.rank

end Level

structure Settings where
  configPath : String
  apiKey : Option String
  mode : Mode
  logLevel : Level
  deriving DecidableEq, Inhabited

inductive SettingsFault where
  | noConfigPath
  | badMode (text : String)
  | badLevel (text : String)
  deriving DecidableEq

def SettingsFault.message : SettingsFault → String
  | noConfigPath =>
    "ZONESYNC_CONFIG is required. Set it via: export ZONESYNC_CONFIG=/path/to/zones.json"
  | badMode text => s!"ZONESYNC_MODE '{text}' is not valid. Valid modes: preview, push"
  | badLevel text =>
    s!"ZONESYNC_LOG_LEVEL '{text}' is not valid. " ++
      "Valid levels: trace, debug, info, warn, error"

namespace Settings

def modeOf : String → Except SettingsFault Mode
  | "preview" => .ok .preview
  | "push" => .ok .push
  | other => .error (.badMode other)

def levelOf : String → Except SettingsFault Level
  | "trace" => .ok .trace
  | "debug" => .ok .debug
  | "info" => .ok .info
  | "warn" => .ok .warn
  | "error" => .ok .error
  | other => .error (.badLevel other)

/-- The settings in an environment. An empty path or key counts as missing. -/
def ofEnvironment (lookup : String → Option String) : Except SettingsFault Settings :=
  match (lookup "ZONESYNC_CONFIG").filter (· ≠ "") with
  | none => .error .noConfigPath
  | some configPath => do
    let mode ← modeOf (Text.lowercase ((lookup "ZONESYNC_MODE").getD "preview"))
    let logLevel ← levelOf (Text.lowercase ((lookup "ZONESYNC_LOG_LEVEL").getD "info"))
    let apiKey := (lookup "ZONESYNC_PROVIDER_API_KEY").filter (· ≠ "")
    return { configPath, apiKey, mode, logLevel }

end Settings

end DnsReconcile.Cli
