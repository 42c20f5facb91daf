import DnsReconcile.Config.Provider
import DnsReconcile.SortedMap

/-!
Registries: which factory makes a provider from its configuration.

What factories make is left open, so that a registry can be used for any kind
of provider.
-/

namespace DnsReconcile

abbrev Factory (π : Type) := ProviderConfig → Except Error π

structure Registry (π : Type) where
  factories : SortedMap String (Factory π)

namespace Registry

variable {π : Type}

def empty : Registry π := ⟨.empty⟩

def register (r : Registry π) (name : String) (factory : Factory π) : Registry π :=
  ⟨r.factories.insert name factory⟩

def names (r : Registry π) : List String := r.factories.keys

def has (r : Registry π) (name : String) : Bool := r.factories.contains name

def create (r : Registry π) (config : ProviderConfig) : Except Error π :=
  match r.factories.get? config.typeName with
  | some factory => factory config
  | none => .error (.config s!"Unknown provider type: {config.typeName}")

end Registry

end DnsReconcile
