import DnsReconcile.Config
import DnsReconcile.Format.RecordData

/-!
Configurations in JSON.

Configurations, domains and engine settings are objects, or arrays of their
fields in order. A provider is an object with the name of its kind under
`type`, or an array that starts with that name. A desired record is an object
that holds the fields of its data beside its own; there the type may also be
given by its place in the order of types.
-/

namespace DnsReconcile

open Document

namespace DesiredRecord

/-- The type with this name or at this place. -/
def typeOfTag? (d : Document) : Option RecordType :=
  match d.natural? RecordType.all.length with
  | some n => RecordType.all[n]?
  | none => RecordData.typeOfTag? d

/-- Reads a desired record inside `level` arrays and objects. -/
def ofDocument? (level : Nat) (d : Document) : Option DesiredRecord := do
  let fs ← d.members?
  if !d.isSound level then none
  else
    let name ← required? "name" fs text?
    let ttl ← optional? "ttl" fs uint32? 300
    let type ← required? "type" fs typeOfTag?
    let data ← RecordData.ofFields? type fs
    return ⟨name, ttl, data⟩

def toJson (r : DesiredRecord) : Json :=
  .ofMembers (("name", .string r.name) :: ("ttl", .nat r.ttl.toNat) :: r.data.members)

end DesiredRecord

namespace Domain

def ofDocument? (level : Nat) (d : Document) : Option Domain := do
  let fs ← d.fields? ["name", "records"]
  let name ← required? "name" fs text?
  let records ← optional? "records" fs (list? (DesiredRecord.ofDocument? (level + 2))) []
  return ⟨name, records⟩

def toJson (d : Domain) : Json :=
  .ofMembers [("name", .string d.name), ("records", .array (d.records.map (·.toJson)))]

end Domain

namespace FailurePolicy

def text : FailurePolicy → String
  | failFast => "fail_fast"
  | keepGoing => "continue"

def ofText? (s : String) : Option FailurePolicy :=
  [failFast, keepGoing].find? (·.text == s)

/-- Reads a policy: its name, or an object with nothing under its name. -/
def ofDocument? : Document → Option FailurePolicy
  | .string (some s) => ofText? s
  | .object [(some s, .null)] => ofText? s
  | _ => none

end FailurePolicy

namespace EngineConfig

def fieldNames : List String :=
  ["max_retries", "retry_delay_secs", "failure_policy", "max_parallel_per_pass",
    "create_missing_zones", "event_channel_capacity"]

def ofDocument? (d : Document) : Option EngineConfig := do
  let fs ← d.fields? fieldNames
  let absent : EngineConfig := {}
  let maxRetries ← optional? "max_retries" fs uint64? absent.maxRetries
  let retryDelay ← optional? "retry_delay_secs" fs uint64? absent.retryDelay
  let failurePolicy ←
    optional? "failure_policy" fs FailurePolicy.ofDocument? absent.failurePolicy
  let maxParallel ← optional? "max_parallel_per_pass" fs uint64? absent.maxParallel
  let createMissingZones ←
    optional? "create_missing_zones" fs bool? absent.createMissingZones
  let eventCapacity ← optional? "event_channel_capacity" fs uint64? absent.eventCapacity
  return { maxRetries, retryDelay, failurePolicy, maxParallel, createMissingZones, eventCapacity }

def toJson (e : EngineConfig) : Json :=
  .ofMembers
    [("max_retries", .nat e.maxRetries.toNat), ("retry_delay_secs", .nat e.retryDelay.toNat),
      ("failure_policy", .string e.failurePolicy.text),
      ("max_parallel_per_pass", .nat e.maxParallel.toNat),
      ("create_missing_zones", .bool e.createMissingZones),
      ("event_channel_capacity", .nat e.eventCapacity.toNat)]

end EngineConfig

namespace ProviderConfig

def optionalText? : Document → Option (Option String)
  | .null => some none
  | d => d.text?.map some

def fieldNames? : String → Option (List String)
  | "gcore" => some ["api_key", "api_url"]
  | "memory" => some ["nameservers"]
  | "custom" => some ["factory", "config"]
  | _ => none

def ofFields? (kind : String) (fs : List (String × Document)) : Option ProviderConfig :=
  match kind with
  | "gcore" => do
    let apiKey ← optional? "api_key" fs text? ""
    let apiUrl ← optional? "api_url" fs optionalText? none
    return .gcore apiKey apiUrl
  | "memory" => do return .memory (← optional? "nameservers" fs (list? text?) [])
  | "custom" => do
    let factory ← required? "factory" fs text?
    let config ← required? "config" fs toJson?
    return .custom factory config
  | _ => none

/-- Reads the configuration of a provider inside `level` arrays and objects.
All of it is looked at, so all of it has to be sound. -/
def ofDocument? (level : Nat) (d : Document) : Option ProviderConfig :=
  if !d.isSound level then none
  else match d with
    | .array (tag :: rest) => do
      let kind ← tag.text?
      let names ← fieldNames? kind
      if names.length < rest.length then none else ofFields? kind (names.zip rest)
    | .object _ => do
      let fs ← d.members?
      let kind ← required? "type" fs text?
      ofFields? kind fs
    | _ => none

def toJson : ProviderConfig → Json
  | gcore apiKey apiUrl =>
    .ofMembers [("type", .string "gcore"), ("api_key", .string apiKey),
      ("api_url", (apiUrl.map Json.string).getD .null)]
  | memory nameservers =>
    .ofMembers [("type", .string "memory"), ("nameservers", .array (nameservers.map .string))]
  | custom factory config =>
    .ofMembers [("type", .string "custom"), ("factory", .string factory), ("config", config)]

end ProviderConfig

namespace Config

def ofDocument? (d : Document) : Option Config := do
  let fs ← d.fields? ["provider", "domains", "engine"]
  let provider ← required? "provider" fs (ProviderConfig.ofDocument? 1)
  let domains ← required? "domains" fs (list? (Domain.ofDocument? 2))
  let engine ← optional? "engine" fs EngineConfig.ofDocument? {}
  return { provider, domains, engine }

def ofText (text : String) : Except Error Config :=
  match (Document.ofString? text).bind ofDocument? with
  | some c => .ok c
  | none => .error .json

def toJson (c : Config) : Json :=
  .ofMembers [("provider", c.provider.toJson), ("domains", .array (c.domains.map (·.toJson))),
    ("engine", c.engine.toJson)]

end Config

end DnsReconcile
