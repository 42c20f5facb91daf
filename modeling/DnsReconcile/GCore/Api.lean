import DnsReconcile.Format.NativeSet
import DnsReconcile.Provider

/-!
What the G-Core DNS API answers, in JSON.
-/

namespace DnsReconcile.GCore

open Document

def zoneNames? (d : Document) : Option (List String) := do
  let fs ← d.fields? ["zones"]
  optional? "zones" fs (list? (fun zone => do
    let fs ← zone.fields? ["name"]
    required? "name" fs text?)) []

def zoneSets? (d : Document) : Option (List SetRef) := do
  let fs ← d.fields? ["records"]
  optional? "records" fs (list? (fun set => do
    let fs ← set.fields? ["name", "type"]
    let name ← required? "name" fs text?
    let type ← required? "type" fs text?
    return ⟨name, type⟩)) []

def errorMessage? (body : String) : Option String := do
  let d ← Document.ofString? body
  let fs ← d.fields? ["error"]
  required? "error" fs text?

end DnsReconcile.GCore
