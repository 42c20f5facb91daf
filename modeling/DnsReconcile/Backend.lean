import DnsReconcile.GCore
import DnsReconcile.Registry
import DnsReconcile.Store

/-!
The kinds of provider that come with this library, and their factories.
-/

namespace DnsReconcile

inductive Backend where
  | memory (nameservers : List String)
  | gcore (access : GCore)
  deriving DecidableEq, Inhabited

namespace Backend

def name : Backend → String
  | memory _ => Store.providerName
  | gcore _ => GCore.providerName

def capabilities : Backend → Capabilities
  | memory nameservers => (Store.provider nameservers).capabilities
  | gcore _ => GCore.capabilities

def nameservers : Backend → List String
  | memory nameservers => nameservers
  | gcore _ => GCore.nameservers

def memoryFactory : Factory Backend
  | .memory nameservers => .ok (memory nameservers)
  | _ => .error (.config "Invalid config for memory provider")

def gcoreFactory : Factory Backend
  | .gcore apiKey apiUrl =>
    if apiKey = "" then .error (.config "G-Core API key is required")
    else (GCore.new apiKey (apiUrl.getD GCore.publicUrl)).map gcore
  | _ => .error (.config "Invalid config for G-Core provider")

/-- The registry with the provider that needs no service. -/
def builtin : Registry Backend := Registry.empty.register Store.providerName memoryFactory

def withGCore (r : Registry Backend) : Registry Backend :=
  r.register GCore.providerName gcoreFactory

end Backend

end DnsReconcile
