import DnsReconcile.Config.Domain
import DnsReconcile.Engine.Event
import DnsReconcile.Engine.Pool
import DnsReconcile.Engine.Report

/-!
The engine: reads a zone, plans its corrections and applies them.

Errors that end a run (a failing audit, existence check, listing, reading of a
record set, or planning) come before any correction is tried. The failure of a
correction is a matter of the report.

Unless a domain declares name servers of its own, those of the provider are
desired at the apex, so that no run takes away the delegation of a zone.
-/

namespace DnsReconcile

/-- The state of a run: that of the provider, the time and what a reader of
events could notice so far. -/
structure Session (σ : Type) where
  provider : σ
  clock : Nat
  notices : List Notice

/-- A part of a run, which may end in an error. -/
abbrev Run (σ α : Type) : Type := ExceptT Error (StateM (Session σ)) α

namespace Session

variable {σ : Type}

def start (provider : σ) : Session σ := ⟨provider, 0, []⟩

def events (s : Session σ) : List Event := s.notices.filterMap Notice.event?

def emit (s : Session σ) (e : Event) : Session σ := { s with notices := s.notices ++ [.event e] }

def pause (s : Session σ) : Session σ := { s with notices := s.notices ++ [.pause] }

def called (s : Session σ) (p : Provider σ) (provider : σ) : Session σ :=
  if p.isRemote then { s with provider }.pause else { s with provider }

/-- The session once some time has passed. -/
def later (s : Session σ) (seconds : Nat) : Session σ := { s with clock := s.clock + seconds }.pause

theorem events_emit (s : Session σ) (e : Event) : (s.emit e).events = s.events ++ [e] := by
  simp [events, emit, Notice.event?]

theorem events_pause (s : Session σ) : s.pause.events = s.events := by
  simp [events, pause, Notice.event?]

theorem events_called (s : Session σ) (p : Provider σ) (provider : σ) :
    (s.called p provider).events = s.events := by
  unfold called
  split
  · exact events_pause _
  · rfl

theorem events_later (s : Session σ) (seconds : Nat) : (s.later seconds).events = s.events :=
  events_pause _

end Session

structure Reconciler (σ : Type) where
  provider : Provider σ
  config : EngineConfig
  scheduler : Scheduler σ

structure Application (σ : Type) where
  session : Session σ
  report : Report

namespace Application

variable {σ : Type}

def record (a : Application σ) (index : Nat) (c : Correction) (o : Outcome) : Application σ :=
  let zone := a.report.zone
  match o.result with
  | .ok () =>
    { session := a.session.emit (.correctionApplied zone index c.message o.attempts)
      report := { a.report with applied := a.report.applied + 1 } }
  | .error e =>
    { session := a.session.emit
        (.correctionFailed zone index c.message e.message (o.attempts - 1))
      report := { a.report with
        failures := a.report.failures ++ [⟨index, c.message, e.message⟩] } }

end Application

namespace Reconciler

variable {σ : Type}

def new (provider : Provider σ) (config : EngineConfig) : Except Error (Reconciler σ) :=
  match config.validate with
  | .ok () => .ok ⟨provider, config, .virtualTime⟩
  | .error fault => .error fault.toError

/-- The time to live of apex name servers in a zone that has none yet. -/
def apexTtl : UInt32 := 300

def ask (r : Reconciler σ) {α : Type} (c : Call α) : Run σ α := fun s =>
  let (outcome, provider) := r.provider.answer c s.provider
  (outcome, s.called r.provider provider)

/-- Makes a call whose failure means that the zone could not be read. -/
def fetch (r : Reconciler σ) {α : Type} (context : String) (c : Call α) : Run σ α := fun s =>
  let (outcome, s) := r.ask c s
  (outcome.mapError (fun e => .fetch s!"{context}: {e.message}"), s)

def tell (e : Event) : Run σ Unit := modify (·.emit e)

def zoneExists (r : Reconciler σ) (zone : String) : Run σ Bool :=
  r.fetch s!"checking zone {zone}" (.zoneExists zone)

/-- Creates a zone that is missing, if that is allowed, and tells whether it
was missing. -/
def ensureZone (r : Reconciler σ) (zone : String) : Run σ Bool := do
  if ← r.zoneExists zone then return false
  if !r.config.createMissingZones then
    throw (.notFound s!"zone {zone} does not exist and create_missing_zones is off")
  r.ask (.createZone zone)
  tell (.zoneCreated zone)
  return true

def fetchSets (r : Reconciler σ) (zone : String) : List SetRef → Run σ (List Record)
  | [] => return []
  | ref :: rest => do
    let type ← RecordType.ofString ref.type
    let set ← r.fetch s!"{ref.name} {type.text}" (.get zone ref.name type)
    let records ← set.toRecords zone ref.name type
    let others ← r.fetchSets zone rest
    return records ++ others

def fetchObserved (r : Reconciler σ) (zone : String) : Run σ (List Record) := do
  let refs ← r.fetch s!"listing {zone}" (.list zone)
  r.fetchSets zone refs

def apexLabel (zone : String) : Label := .new zone .ns

def apexRecords (zone : String) (ttl : UInt32) (nameservers : List String) : List Record :=
  nameservers.map (fun ns => .new zone zone ttl (.ns ns))

/-- Desired and observed records with the name servers of the provider. They
join the desired ones, with the time to live that was observed. If there are
none, or if the provider hosts none, the apex set is left out of the comparison
altogether. -/
def mergeNameservers (zone : String) (capabilities : Capabilities) (nameservers : List String)
    (desired observed : List Record) : List Record × List Record :=
  let atApex (rec : Record) : Bool := rec.label = apexLabel zone
  if nameservers.isEmpty || !capabilities.supports .ns then
    (desired, observed.filter (fun rec => !atApex rec))
  else
    let ttl := ((observed.find? atApex).map (·.ttl)).getD apexTtl
    (desired ++ apexRecords zone ttl nameservers, observed)

/-- Desired and observed records once it is settled who answers for the apex
name servers. -/
def withApexNameservers (r : Reconciler σ) (zone : String) (desired observed : List Record) :
    Run σ (List Record × List Record) := do
  if desired.any (fun rec => rec.label = apexLabel zone) then return (desired, observed)
  let nameservers ← r.fetch s!"nameservers of {zone}" (.nameservers zone)
  return mergeNameservers zone r.provider.capabilities nameservers desired observed

/-- The corrections for a domain. Nothing is changed. A zone that the provider
does not host counts as empty. -/
def plan (r : Reconciler σ) (domain : Domain) : Run σ (List Correction) := do
  let zone := domain.zone.text
  let desired := domain.desiredRecords
  r.provider.capabilities.audit desired
  let observed ← if ← r.zoneExists zone then r.fetchObserved zone else pure []
  let (desired, observed) ← r.withApexNameservers zone desired observed
  let corrections ← Correction.compute zone desired observed r.provider.capabilities
  if corrections.isEmpty then tell (.inSync zone)
  else tell (.planReady zone corrections.length)
  return corrections

def nameservers (r : Reconciler σ) (domain : String) : Run σ (List String) :=
  r.ask (.nameservers domain)

/-- Applies a correction, with further attempts as long as it fails and retries
are left. -/
def applyWithRetries (p : Provider σ) (delay : Nat) (c : Correction) :
    Nat → Session σ → Outcome × Session σ
  | retries, s =>
    let (result, provider) := c.apply p s.provider
    let s := s.called p provider
    match result, retries with
    | .ok (), _ => (⟨1, result⟩, s)
    | .error _, 0 => (⟨1, result⟩, s)
    | .error _, retries + 1 =>
      let (o, s) := applyWithRetries p delay c retries (s.later delay)
      ({ o with attempts := o.attempts + 1 }, s)

/-- Whether an outcome keeps everything behind it from being started. -/
def stopsOn (r : Reconciler σ) (o : Outcome) : Bool :=
  r.config.failurePolicy = .failFast && o.isFailure

/-- Applies corrections one after the other, and tells whether a failure
stopped the run. -/
def applySequentially (r : Reconciler σ) :
    List (Nat × Correction) → Application σ → Bool × Application σ
  | [], a => (false, a)
  | (i, c) :: rest, a =>
    let (o, session) := applyWithRetries r.provider r.config.wait c
      r.config.maxRetries.toNat a.session
    let a := { a with session }.record i c o
    if r.stopsOn o then (true, a) else r.applySequentially rest a

/-- Records the outcomes of corrections in the order of the list. A correction
without outcome was not started. -/
def recordOutcomes (outcomes : SortedMap Nat Outcome) :
    List (Nat × Correction) → Application σ → Application σ
  | [], a => a
  | (i, c) :: rest, a =>
    match outcomes.get? i with
    | some o => recordOutcomes outcomes rest (a.record i c o)
    | none => recordOutcomes outcomes rest a

/-- Applies corrections with several under way at once, and tells whether a
failure stopped the run. The outcomes are recorded once all are joined. -/
def applyConcurrently (r : Reconciler σ) (pass : List (Nat × Correction)) (a : Application σ) :
    Bool × Application σ :=
  let pool := (Pool.new r.config pass a.session.provider a.session.clock).drain
    r.provider r.scheduler
  let session := { a.session with provider := pool.provider, clock := pool.clock }.pause
  let a := recordOutcomes pool.outcomes pass { a with session }
  (pool.outcomes.values.any r.stopsOn, a)

def applyPass (r : Reconciler σ) (pass : List (Nat × Correction)) (a : Application σ) :
    Bool × Application σ :=
  if 1 < r.config.maxParallel then r.applyConcurrently pass a else r.applySequentially pass a

def indexed (start : Nat) : List Correction → List (Nat × Correction)
  | [] => []
  | c :: rest => (start, c) :: indexed (start + 1) rest

/-- The longest runs of corrections of one pass. -/
def passes (corrections : List Correction) : List (List (Nat × Correction)) :=
  (indexed 0 corrections).splitBy (fun a b => a.2.pass == b.2.pass)

/-- Applies passes one after the other until a failure stops the run. -/
def applyPasses (r : Reconciler σ) :
    List (List (Nat × Correction)) → Application σ → Application σ
  | [], a => a
  | pass :: rest, a =>
    match r.applyPass pass a with
    | (true, a) =>
      let tried := a.report.applied + a.report.failures.length
      { a with report := { a.report with aborted := tried < a.report.planned } }
    | (false, a) => r.applyPasses rest a

/-- Applies corrections in their order. A pass begins once the one before it is
through. -/
def apply (r : Reconciler σ) (zone : String) (corrections : List Correction) :
    StateM (Session σ) Report := fun s =>
  let report : Report := { zone, planned := corrections.length }
  let a := r.applyPasses (passes corrections) ⟨s, report⟩
  let finished := Event.finished zone a.report.applied a.report.failures.length a.report.aborted
  (a.report, a.session.emit finished)

/-- Makes sure that the zone of a domain exists, plans its corrections and
applies them. A domain that cannot be hosted is told before any call. -/
def reconcile (r : Reconciler σ) (domain : Domain) : Run σ Report := do
  let zone := domain.zone.text
  tell (.started zone)
  r.provider.capabilities.audit domain.desiredRecords
  let _ ← r.ensureZone zone
  let corrections ← r.plan domain
  r.apply zone corrections

end Reconciler

end DnsReconcile
