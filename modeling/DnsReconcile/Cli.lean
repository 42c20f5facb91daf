import DnsReconcile.Backend
import DnsReconcile.Cli.Settings
import DnsReconcile.Engine
import DnsReconcile.Format.Config
import DnsReconcile.Text.Terminal

/-!
The command line program: settings from the environment, a configuration file,
and a preview or a push of every domain in it.

A domain that fails is reported and the others are still worked on. The exit
status tells whether all went well (0), the configuration was not accepted (1)
or a domain failed (2).
-/

namespace DnsReconcile.Cli

structure LogMessage where
  level : Level
  text : String
  deriving DecidableEq, Inhabited

def LogMessage.line (m : LogMessage) : String := s!"{m.level.text} {Text.terminalText m.text}"

structure Output where
  printed : String := ""
  /-- The log, oldest message first. -/
  log : List LogMessage := []
  deriving DecidableEq, Inhabited

namespace Output

def append (a b : Output) : Output := ⟨a.printed ++ b.printed, a.log ++ b.log⟩

instance : Append Output := ⟨append⟩

def line (text : String) : Output := { printed := text ++ "\n" }

def logged (level : Level) (text : String) : Output := { log := [⟨level, text⟩] }

def lines (texts : List String) : Output := texts.foldl (fun out text => out ++ line text) {}

end Output

inductive ExitStatus where
  | success
  | configError
  | runtimeError
  deriving DecidableEq, Inhabited

def ExitStatus.code : ExitStatus → Nat
  | success => 0
  | configError => 1
  | runtimeError => 2

/-- The configuration with a key from the environment. Only the G-Core provider
has a use for it. -/
def overrideKey (key : Option String) (c : Config) : Output × Config :=
  match key, c.provider with
  | none, _ => ({}, c)
  | some key, .gcore _ apiUrl => ({}, { c with provider := .gcore key apiUrl })
  | some _, other =>
    (.logged .warn s!"ZONESYNC_PROVIDER_API_KEY ignored for provider type {other.typeName}", c)

/-- A failure to load a configuration. One that concerns the file names it. -/
structure LoadFailure where
  error : Error
  path : Option String

def LoadFailure.message (f : LoadFailure) : String :=
  match f.path with
  | some path => s!"loading {path}: {f.error.message}"
  | none => f.error.message

def loadConfig (settings : Settings) (file : Except Error String) :
    Output × Except LoadFailure Config :=
  match file.bind Config.ofText with
  | .error e => ({}, .error ⟨e, some settings.configPath⟩)
  | .ok c =>
    let (out, c) := overrideKey settings.apiKey c
    match c.validate with
    | .error fault => (out, .error ⟨fault.toError, none⟩)
    | .ok () => (out, .ok c)

/-- The log messages for an event. Most events are only of use to a debugger. -/
def eventMessages : Event → List LogMessage
  | .zoneCreated zone => [⟨.info, s!"Zone {zone} created"⟩]
  | .correctionFailed _ index _ error retries =>
    [⟨.warn, s!"Correction #{index + 1} failed after {retries} retries: {error}"⟩]
  | _ => []

/-- How the events of a run get to the log. -/
inductive EventReader where
  /-- They are read on a thread of their own, so that none is lost. -/
  | beside
  /-- They are read while the run waits and once it is over. -/
  | inTurns
  deriving DecidableEq, Inhabited

/-- The events that get to the log, through a channel of a capacity. -/
def EventReader.events (capacity : Nat) (notices : List Notice) : EventReader → List Event
  | beside => notices.filterMap Notice.event?
  | inTurns => (Channel.new capacity).deliver notices

section run

variable {σ : Type}

abbrev Writing (σ α : Type) := Session σ → Output × Except Error α × Session σ

def previewLines (provider : String) (corrections : List Correction) : List String :=
  s!"----- {provider}: {corrections.length} correction(s)" ::
    (Reconciler.indexed 1 corrections).map (fun (i, c) => s!"#{i}: {c.message}")

def pushLines (provider : String) (report : Report) : List String :=
  s!"----- {provider}: {report.applied} of {report.planned} correction(s) applied" ::
    report.failures.map (fun f => s!"#{f.index + 1}: FAILURE! {f.error}")

/-- Previews or pushes the corrections of a domain. -/
def runCorrections (r : Reconciler σ) (mode : Mode) (domain : Domain) : Writing σ Unit := fun s =>
  match mode with
  | .preview =>
    match r.plan domain s with
    | (.error e, s) => ({}, .error e, s)
    | (.ok corrections, s) => (.lines (previewLines r.provider.name corrections), .ok (), s)
  | .push =>
    match r.reconcile domain s with
    | (.error e, s) => ({}, .error e, s)
    | (.ok report, s) => (.lines (pushLines r.provider.name report), report.result, s)

def runNameservers (r : Reconciler σ) (domain : Domain) : Writing σ Unit := fun s =>
  match r.nameservers domain.name s with
  | (.error e, s) => ({}, .error e, s)
  | (.ok [], s) => ({}, .ok (), s)
  | (.ok names, s) =>
    (.logged .info (s!"{domain.name} nameservers: " ++ String.intercalate ", " names), .ok (), s)

def runDomain (r : Reconciler σ) (mode : Mode) (domain : Domain) (s : Session σ) :
    Output × Bool × Session σ :=
  let heading := Output.line s!"******************** Domain: {domain.name}"
  let failed (e : Error) := Output.logged .error s!"{domain.name}: {e.message}"
  match runCorrections r mode domain s with
  | (out, .error e, s) => (heading ++ out ++ failed e, false, s)
  | (out, .ok (), s) =>
    match runNameservers r domain s with
    | (more, .error e, s) => (heading ++ out ++ more ++ failed e, false, s)
    | (more, .ok (), s) => (heading ++ out ++ more, true, s)

/-- Works on domains one after the other, whatever becomes of each. -/
def runDomains (r : Reconciler σ) (mode : Mode) :
    List Domain → Session σ → Output × ExitStatus × Session σ
  | [], s => ({}, .success, s)
  | domain :: rest, s =>
    let (out, wentWell, s) := runDomain r mode domain s
    let (more, status, s) := runDomains r mode rest s
    (out ++ more, if wentWell then status else .runtimeError, s)

/-- Works on domains with a provider in a state. The messages for events stand
behind all others. -/
def runWith (reader : EventReader) (p : Provider σ) (engine : EngineConfig) (mode : Mode)
    (domains : List Domain) (s : σ) : Output × ExitStatus × Session σ :=
  match Reconciler.new p engine with
  | .error e =>
    (.logged .error s!"Cannot start reconciler: {e.message}", .configError, .start s)
  | .ok r =>
    let (out, status, session) := runDomains r mode domains (.start s)
    let events := reader.events engine.eventCapacity.toNat session.notices
    (out ++ { log := events.flatMap eventMessages }, status, session)

end run

def registry : Registry Backend := Backend.withGCore Backend.builtin

/-- Runs an accepted configuration. The transport is what the G-Core provider
reaches its server by. -/
def run {τ : Type} (t : Http.Transport τ) (reader : EventReader) (config : Config) (mode : Mode)
    (s : τ) : Output × ExitStatus × τ :=
  match registry.create config.provider with
  | .error e =>
    let available := String.intercalate ", " registry.names
    (.logged .error (s!"Cannot create provider {config.provider.typeName} " ++
      s!"(available: {available}): {e.message}"), .configError, s)
  | .ok (.memory nameservers) =>
    let (out, status, _) :=
      runWith reader (Store.provider nameservers) config.engine mode config.domains .empty
    (out, status, s)
  | .ok (.gcore access) =>
    let (out, status, session) :=
      runWith reader (access.provider t) config.engine mode config.domains s
    (out, status, session.provider)

def loadedMessage (config : Config) (mode : Mode) : String :=
  s!"Loaded {config.domains.length} domain(s) for provider {config.provider.typeName} " ++
    s!"[mode: {mode.text}]"

def main {τ : Type} (t : Http.Transport τ) (settings : Settings) (file : Except Error String)
    (s : τ) : Output × ExitStatus × τ :=
  match loadConfig settings file with
  | (out, .error f) =>
    (out ++ .logged .error s!"Configuration validation error: {f.message}", .configError, s)
  | (out, .ok config) =>
    let (more, status, s) := run t .beside config settings.mode s
    (out ++ .logged .info (loadedMessage config settings.mode) ++ more, status, s)

end DnsReconcile.Cli
