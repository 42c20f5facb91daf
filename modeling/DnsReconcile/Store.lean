import DnsReconcile.Provider
import DnsReconcile.SortedMap

/-!
Zones kept in memory.

Zones and record sets are found by canonical name, however a call spells it.
Like a real backend the store refuses writes that would break the rules of DNS:
a CNAME shares its name with no other type, a set that exists is not created
again, and one that does not exist is neither updated nor deleted. A call that
fails changes nothing.
-/

namespace DnsReconcile

/-- The record sets of one zone. -/
abbrev Contents := SortedMap Label NativeSet

/-- Zones with their record sets. -/
structure Store where
  zones : SortedMap Name Contents

namespace Store

def empty : Store := ⟨.empty⟩

instance : Inhabited Store := ⟨empty⟩

def providerName : String := "memory"

def contents? (s : Store) (zone : String) : Option Contents := s.zones.get? (.ofString zone)

def setContents (s : Store) (zone : String) (contents : Contents) : Store :=
  ⟨s.zones.insert (.ofString zone) contents⟩

/-- Puts a record set into a zone, which is created if it is missing. None of
the rules for writes apply. -/
def seed (s : Store) (zone name : String) (type : RecordType) (set : NativeSet) : Store :=
  s.setContents zone (((s.contents? zone).getD .empty).insert (.new name type) set)

def missingZone (zone : String) : Error := .notFound s!"zone {zone} does not exist"

def missingSet (name : String) (type : RecordType) : Error :=
  .notFound s!"record set {name} {type.text}"

def conflict (message : String) : Error := .provider providerName message

/-- Whether two types cannot share a name. -/
def clash (s t : RecordType) : Bool := s ≠ t && (s == .cname || t == .cname)

/-- The first label in a zone that cannot stand beside another. -/
def clashing? (contents : Contents) (l : Label) : Option Label :=
  contents.keys.find? (fun m => m.name == l.name && clash l.type m.type)

def createZone (s : Store) (zone : String) : Except Error Store :=
  match s.contents? zone with
  | some _ => .error (conflict s!"zone {fqdn zone} already exists")
  | none => .ok (s.setContents zone .empty)

def hosted (s : Store) (zone : String) : Except Error Contents :=
  match s.contents? zone with
  | some contents => .ok contents
  | none => .error (missingZone zone)

def list (s : Store) (zone : String) : Except Error (List SetRef) := do
  let contents ← s.hosted zone
  return contents.keys.map (fun l => ⟨l.name.text, l.type.text⟩)

def get (s : Store) (zone name : String) (type : RecordType) : Except Error NativeSet := do
  let contents ← s.hosted zone
  match contents.get? (.new name type) with
  | some set => return set
  | none => throw (missingSet name type)

def create (s : Store) (zone name : String) (type : RecordType) (set : NativeSet) :
    Except Error Store := do
  let contents ← s.hosted zone
  let l := Label.new name type
  if contents.contains l then
    throw (conflict s!"record set {name} {type.text} already exists")
  match clashing? contents l with
  | some m => throw (conflict s!"{l.text} conflicts with existing {m.text}")
  | none => return s.setContents zone (contents.insert l set)

def update (s : Store) (zone name : String) (type : RecordType) (set : NativeSet) :
    Except Error Store := do
  let contents ← s.hosted zone
  let l := Label.new name type
  if contents.contains l then return s.setContents zone (contents.insert l set)
  else throw (missingSet name type)

def delete (s : Store) (zone name : String) (type : RecordType) : Except Error Store := do
  let contents ← s.hosted zone
  let l := Label.new name type
  if contents.contains l then return s.setContents zone (contents.erase l)
  else throw (missingSet name type)

def reading {α : Type} (s : Store) (outcome : Except Error α) : Except Error α × Store :=
  (outcome, s)

/-- The answer to a call that writes: on a failure the store stays as it was. -/
def writing (s : Store) (outcome : Except Error Store) : Except Error Unit × Store :=
  match outcome with
  | .ok t => (.ok (), t)
  | .error e => (.error e, s)

/-- The answer to a call, where every zone is delegated to `nameservers`. -/
def answer (nameservers : List String) {α : Type} (c : Call α) (s : Store) :
    Except Error α × Store :=
  match c with
  | .zoneExists zone => s.reading (.ok (s.contents? zone).isSome)
  | .createZone zone => s.writing (s.createZone zone)
  | .list zone => s.reading (s.list zone)
  | .get zone name type => s.reading (s.get zone name type)
  | .create zone name type set => s.writing (s.create zone name type set)
  | .update zone name type set => s.writing (s.update zone name type set)
  | .delete zone name type => s.writing (s.delete zone name type)
  | .nameservers _ => s.reading (.ok nameservers)

/-- The provider that keeps its zones in a store. It can host every type. -/
def provider (nameservers : List String) : Provider Store :=
  { name := providerName, capabilities := {}, answer := answer nameservers }

end Store

end DnsReconcile
