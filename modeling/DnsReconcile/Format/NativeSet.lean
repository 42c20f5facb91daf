import DnsReconcile.Format.Fields
import DnsReconcile.NativeSet

/-!
Native record sets in JSON: objects, or arrays of their fields in order.
-/

namespace DnsReconcile

open Document

namespace NativeRecord

def ofDocument? (level : Nat) (d : Document) : Option NativeRecord := do
  let fs ← d.fields? ["content", "enabled"]
  let content ← required? "content" fs (list? (keptJson? (level + 2)))
  let enabled ← optional? "enabled" fs bool? true
  return ⟨content, enabled⟩

def toJson (r : NativeRecord) : Json :=
  .ofMembers [("content", .array r.content), ("enabled", .bool r.enabled)]

end NativeRecord

namespace NativeSet

def ofDocument? (level : Nat) (d : Document) : Option NativeSet := do
  let fs ← d.fields? ["ttl", "resource_records"]
  let ttl ← optional? "ttl" fs uint32? 0
  let records ← optional? "resource_records" fs
    (list? (NativeRecord.ofDocument? (level + 2))) []
  return ⟨ttl, records⟩

def ofText (text : String) : Except Error NativeSet :=
  match (Document.ofString? text).bind (ofDocument? 0) with
  | some set => .ok set
  | none => .error .json

def toJson (s : NativeSet) : Json :=
  .ofMembers [("ttl", .nat s.ttl.toNat), ("resource_records", .array (s.records.map (·.toJson)))]

end NativeSet

end DnsReconcile
