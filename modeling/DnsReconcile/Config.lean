import DnsReconcile.Config.Domain
import DnsReconcile.Config.Engine
import DnsReconcile.Config.Provider

/-!
A whole configuration: a provider, the domains it hosts and the engine.
-/

namespace DnsReconcile

structure Config where
  provider : ProviderConfig
  domains : List Domain := []
  engine : EngineConfig := {}

namespace Config

/-- Accepts domains that are each in order and name different zones, none of
which is among `seen`. -/
def validateDomains (seen : List Name) : List Domain → Except ConfigFault Unit
  | [] => .ok ()
  | d :: rest => do
    d.validate
    if d.zone ∈ seen then throw (.repeatedDomain d.name)
    validateDomains (d.zone :: seen) rest

def validate (c : Config) : Except ConfigFault Unit := do
  if c.domains = [] then throw .noDomains
  c.provider.validate
  c.engine.validate
  validateDomains [] c.domains

end Config

end DnsReconcile
