import DnsReconcile.Format.Fields
import DnsReconcile.RecordData

/-!
Record data in JSON: an object with the name of the type under `type` and the
fields of the type, or an array of that name and the fields in their order.
-/

namespace DnsReconcile.RecordData

open Document

/-- The type with exactly this name. -/
def typeOfTag? (d : Document) : Option RecordType :=
  d.text?.bind (fun s => RecordType.all.find? (·.text == s))

def fieldNames : RecordType → List String
  | .a | .aaaa => ["address"]
  | .caa => ["flags", "tag", "value"]
  | .cname | .ns => ["target"]
  | .mx => ["preference", "exchange"]
  | .srv => ["priority", "weight", "port", "target"]
  | .txt => ["strings"]

def ofFields? (type : RecordType) (fs : List (String × Document)) : Option RecordData :=
  match type with
  | .a => do
    let address ← required? "address" fs (·.text?)
    return .a (← IPv4.ofString? address)
  | .aaaa => do
    let address ← required? "address" fs (·.text?)
    return .aaaa (← IPv6.ofString? address)
  | .caa => do
    let flags ← required? "flags" fs uint8?
    let tag ← required? "tag" fs text?
    let value ← required? "value" fs text?
    return .caa flags tag value
  | .cname => do return .cname (← required? "target" fs text?)
  | .mx => do
    let preference ← required? "preference" fs uint16?
    let exchange ← required? "exchange" fs text?
    return .mx preference exchange
  | .ns => do return .ns (← required? "target" fs text?)
  | .srv => do
    let priority ← required? "priority" fs uint16?
    let weight ← required? "weight" fs uint16?
    let port ← required? "port" fs uint16?
    let target ← required? "target" fs text?
    return .srv priority weight port target
  | .txt => do return .txt (← required? "strings" fs (list? text?))

/-- Reads record data inside `level` arrays and objects. All of it is looked
at, so all of it has to be sound. -/
def ofDocument? (level : Nat) (d : Document) : Option RecordData :=
  if !d.isSound level then none
  else match d with
    | .array (tag :: rest) => do
      let type ← typeOfTag? tag
      let names := fieldNames type
      if names.length < rest.length then none else ofFields? type (names.zip rest)
    | .object _ => do
      let fs ← d.members?
      let type ← required? "type" fs typeOfTag?
      ofFields? type fs
    | _ => none

def members (d : RecordData) : List (String × Json) :=
  ("type", .string d.type.text) :: match d with
    | a address => [("address", .string address.text)]
    | aaaa address => [("address", .string address.text)]
    | caa flags tag value =>
      [("flags", .nat flags.toNat), ("tag", .string tag), ("value", .string value)]
    | cname target => [("target", .string target)]
    | mx preference exchange =>
      [("preference", .nat preference.toNat), ("exchange", .string exchange)]
    | ns target => [("target", .string target)]
    | srv priority weight port target =>
      [("priority", .nat priority.toNat), ("weight", .nat weight.toNat),
        ("port", .nat port.toNat), ("target", .string target)]
    | txt strings => [("strings", .array (strings.map .string))]

def toJson (d : RecordData) : Json := .ofMembers d.members

end DnsReconcile.RecordData
