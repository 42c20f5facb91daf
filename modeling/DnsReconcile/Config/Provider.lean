import DnsReconcile.Config.Fault
import DnsReconcile.Json.Value

/-!
Which provider hosts the zones.
-/

namespace DnsReconcile

inductive ProviderConfig where
  /-- The G-Core API, at its own address or another one. -/
  | gcore (apiKey : String) (apiUrl : Option String)
  /-- Zones in memory, all delegated to the same name servers. -/
  | memory (nameservers : List String)
  /-- A provider that a factory makes. -/
  | custom (factory : String) (config : Json)
  deriving Inhabited

namespace ProviderConfig

def typeName : ProviderConfig → String
  | gcore .. => "gcore"
  | memory _ => "memory"
  | custom factory _ => factory

def hasHttpScheme (url : String) : Bool :=
  "https://".toList.isPrefixOf url.toList || "http://".toList.isPrefixOf url.toList

def validate : ProviderConfig → Except ConfigFault Unit
  | gcore apiKey apiUrl =>
    if apiKey = "" then .error .emptyKey
    else match apiUrl with
      | some url => if hasHttpScheme url then .ok () else .error (.badScheme url)
      | none => .ok ()
  | memory _ => .ok ()
  | custom factory config =>
    if factory = "" then .error .emptyFactory
    else match config with
      | .null => .error .nullConfig
      | _ => .ok ()

end ProviderConfig

end DnsReconcile
