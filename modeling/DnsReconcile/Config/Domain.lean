import DnsReconcile.Config.Fault
import DnsReconcile.Record

/-!
The desired content of a zone, as it is written in a configuration.

Owner names and host names may be relative to the zone; `Domain.desiredRecords`
qualifies them. `Domain.validate` accepts a domain whose names are short ASCII
names inside the zone.
-/

namespace DnsReconcile

structure DesiredRecord where
  /-- The owner: `@` for the zone itself, a name relative to the zone, or an
  absolute name with its final dot. -/
  name : String
  ttl : UInt32 := 300
  data : RecordData
  deriving DecidableEq

structure Domain where
  name : String
  records : List DesiredRecord := []
  deriving DecidableEq

namespace DesiredRecord

def owner (r : DesiredRecord) (zone : String) : Name := .qualify r.name zone

def toRecord (r : DesiredRecord) (zone : String) : Record :=
  .new zone (r.owner zone).text r.ttl (r.data.mapHost (fun host => (Name.qualify host zone).text))

end DesiredRecord

/-- The first part of a name that is longer than a label may be. -/
def longLabel? (name : String) : Option (List Char) :=
  (splitDots (Text.dropEndWhile (· == '.') name.toList)).find? (fun part => 63 < part.length)

/-- Accepts names in ASCII that fit into DNS messages. -/
def validateName (name : String) : Except ConfigFault Unit :=
  if 253 < name.utf8ByteSize then .error (.nameTooLong name.utf8ByteSize name)
  else if !name.toList.all (·.toNat < 128) then .error (.nameNotAscii name)
  else match longLabel? name with
    | some part => .error (.labelTooLong part.length (String.ofList part))
    | none => .ok ()

namespace Domain

def zone (d : Domain) : Name := .ofString d.name

/-- The desired records in canonical form. -/
def desiredRecords (d : Domain) : List Record := d.records.map (·.toRecord d.name)

def validateRecord (d : Domain) (r : DesiredRecord) : Except ConfigFault Unit := do
  if r.name ≠ "@" then validateName r.name
  if r.ttl = 0 then throw (.zeroTtl r.name)
  if r.data = .txt [] then throw (.noStrings r.name)
  if !(r.owner d.name).isWithin d.zone then throw (.outsideZone (r.owner d.name).text d.name)

/-- Accepts records that can all stand in the zone, else reports the first that
cannot. -/
def validateRecords (d : Domain) : List DesiredRecord → Except ConfigFault Unit
  | [] => .ok ()
  | r :: rest => do
    d.validateRecord r
    d.validateRecords rest

/-- Accepts a domain with a name of its own and records that can stand in it. -/
def validate (d : Domain) : Except ConfigFault Unit := do
  validateName d.name
  if d.zone = .root then throw .rootDomain
  d.validateRecords d.records

end Domain

end DnsReconcile
