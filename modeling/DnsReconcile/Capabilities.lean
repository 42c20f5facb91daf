import DnsReconcile.Record

/-!
What a provider can host, and the audit of records against it.
-/

namespace DnsReconcile

structure Capabilities where
  /-- The types of record that the provider accepts. -/
  types : List RecordType := RecordType.all
  /-- Whether an SRV record may have the null target `.`. -/
  allowsNullTarget : Bool := true
  deriving DecidableEq

inductive Unhostable where
  | type (label : Label)
  | nullTarget (label : Label)
  | emptyText (label : Label)
  deriving DecidableEq

namespace Unhostable

def toError : Unhostable → Error
  | type l => .unsupported s!"{l.text}: provider does not support {l.type.text} records"
  | nullTarget l =>
    .unsupported s!"{l.text}: provider does not support SRV records with empty targets"
  | emptyText l => .unsupported s!"{l.text}: TXT record needs at least one string"

end Unhostable

namespace Capabilities

instance : Inhabited Capabilities := ⟨{}⟩

def supports (c : Capabilities) (t : RecordType) : Bool := c.types.contains t

/-- The first reason why a record cannot be hosted, if there is one. A TXT
record without strings cannot be read back once it is written. -/
def obstacle? (c : Capabilities) (r : Record) : Option Unhostable :=
  if !c.supports r.type then some (.type r.label)
  else match r.data with
    | .srv _ _ _ target =>
      if target = "." ∧ !c.allowsNullTarget then some (.nullTarget r.label) else none
    | .txt [] => some (.emptyText r.label)
    | _ => none

def check (c : Capabilities) (r : Record) : Except Error Unit :=
  match c.obstacle? r with
  | some reason => .error reason.toError
  | none => .ok ()

/-- Accepts records that can all be hosted, else reports the first that cannot.
This needs no provider call, so it can stand before all of them. -/
def audit (c : Capabilities) : List Record → Except Error Unit
  | [] => .ok ()
  | r :: rest => do
    c.check r
    c.audit rest

end Capabilities

end DnsReconcile
