import DnsReconcile.Capabilities
import DnsReconcile.NativeSet

/-!
Providers: what hosts zones.

A provider answers calls. Its state is of any type, so a statement about every
provider is one about every way of answering, each answer depending on all that
came before.
-/

namespace DnsReconcile

/-- One record set in the listing of a zone. The type stays as the provider
spelled it. -/
structure SetRef where
  name : String
  type : String
  deriving DecidableEq, Inhabited

/-- A call to a provider, with the type of its answer. -/
inductive Call : Type → Type where
  | zoneExists (zone : String) : Call Bool
  /-- Creates a zone without record sets. -/
  | createZone (zone : String) : Call Unit
  /-- The record sets of a zone, without their content. -/
  | list (zone : String) : Call (List SetRef)
  | get (zone name : String) (type : RecordType) : Call NativeSet
  /-- Writes a record set that does not exist yet. -/
  | create (zone name : String) (type : RecordType) (set : NativeSet) : Call Unit
  /-- Writes over a record set that exists. -/
  | update (zone name : String) (type : RecordType) (set : NativeSet) : Call Unit
  | delete (zone name : String) (type : RecordType) : Call Unit
  /-- The name servers that a zone should be delegated to. -/
  | nameservers (zone : String) : Call (List String)

/-- The line that tells a call, with its arguments as they were passed. -/
def Call.text {α : Type} : Call α → String
  | zoneExists zone => s!"zone_exists {zone}"
  | createZone zone => s!"create_zone {zone}"
  | list zone => s!"list {zone}"
  | get _ name type => s!"get {name} {type.text}"
  | create _ name type _ => s!"create {name} {type.text}"
  | update _ name type _ => s!"update {name} {type.text}"
  | delete _ name type => s!"delete {name} {type.text}"
  | nameservers zone => s!"nameservers {zone}"

/-- A provider with states of type `σ`. -/
structure Provider (σ : Type) where
  name : String
  capabilities : Capabilities
  /-- The answer to a call in a state, and the state behind it. -/
  answer : {α : Type} → Call α → σ → Except Error α × σ
  /-- Whether a task that makes this call dies on it, and the state behind it. -/
  crash : {α : Type} → Call α → σ → Option σ := fun _ _ => none
  /-- Whether answers come over a network, so that they are waited for. -/
  isRemote : Bool := false

end DnsReconcile
