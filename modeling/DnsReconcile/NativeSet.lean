import DnsReconcile.Capabilities
import DnsReconcile.Json.Render
import DnsReconcile.Text.Blank

/-!
Record sets in the form that providers store and send.

The content of a member is a list of JSON values, laid out by type: one text
for an address or a target; preference and exchange; flags, tag and value;
priority, weight, port and target; or any number of texts, at least one.
Numbers may stand as JSON numbers or as numeric text. `NativeSet.toRecords`
reads a set and `NativeSet.ofRecords` writes one.
-/

namespace DnsReconcile

structure NativeRecord where
  content : List Json
  /-- Whether the record is served. -/
  enabled : Bool := true
  deriving Inhabited

structure NativeSet where
  ttl : UInt32
  records : List NativeRecord
  deriving Inhabited

inductive ContentFault where
  | arity (expected found : Nat)
  | noStrings
  | notText (field : String) (value : Json)
  | badAddress (field raw : String)
  | notNumber (field : String) (value : Json)
  | outOfRange (field : String) (value : Nat)

namespace ContentFault

def message : ContentFault → String
  | arity expected found => s!"expected {expected} content field(s), got {found}"
  | noStrings => "TXT record has no strings"
  | notText field value => s!"{field} must be a string, got {value.render}"
  | badAddress field raw => s!"invalid {field} '{raw}'"
  | notNumber field value => s!"invalid {field} {value.render}"
  | outOfRange field value => s!"{field} {value} out of range"

end ContentFault

namespace Content

def text (field : String) : Json → Except ContentFault String
  | .string s => .ok s
  | value => .error (.notText field value)

/-- A field that holds the text of an address, with white space around it. -/
def address {α : Type} (ofString? : String → Option α) (field : String) (value : Json) :
    Except ContentFault α := do
  let raw ← text field value
  match ofString? (Text.trimmed raw) with
  | some a => .ok a
  | none => .error (.badAddress field raw)

/-- The natural number below `2 ^ 64` that a value holds, as a number or as
text with white space around it. -/
def natural? : Json → Option Nat
  | .number (.int i) => if 0 ≤ i then some i.toNat else none
  | .string s => (Text.unsigned? (Text.trim s.toList)).filter (· < Nat.pow 2 64)
  | _ => none

def number (bound : Nat) (field : String) (value : Json) : Except ContentFault Nat :=
  match natural? value with
  | none => .error (.notNumber field value)
  | some n => if n < bound then .ok n else .error (.outOfRange field n)

def octet (field : String) (value : Json) : Except ContentFault UInt8 :=
  (number UInt8.size field value).map UInt8.ofNat

def word (field : String) (value : Json) : Except ContentFault UInt16 :=
  (number UInt16.size field value).map UInt16.ofNat

def texts (field : String) : List Json → Except ContentFault (List String)
  | [] => .ok []
  | v :: rest => do
    let s ← text field v
    let ss ← texts field rest
    return s :: ss

/-- The record data that content lays out, field by field. -/
def read : RecordType → List Json → Except ContentFault RecordData
  | .a, [v] => return .a (← address IPv4.ofString? "address" v)
  | .aaaa, [v] => return .aaaa (← address IPv6.ofString? "address" v)
  | .cname, [v] => return .cname (← text "target" v)
  | .ns, [v] => return .ns (← text "target" v)
  | .mx, [v, w] => do
    let preference ← word "preference" v
    let exchange ← text "exchange" w
    return .mx preference exchange
  | .caa, [v, w, x] => do
    let flags ← octet "flags" v
    let tag ← text "tag" w
    let value ← text "value" x
    return .caa flags tag value
  | .srv, [v, w, x, y] => do
    let priority ← word "priority" v
    let weight ← word "weight" w
    let port ← word "port" x
    let target ← text "target" y
    return .srv priority weight port target
  | .txt, [] => .error .noStrings
  | .txt, vs => return .txt (← texts "text" vs)
  | .mx, vs => .error (.arity 2 vs.length)
  | .caa, vs => .error (.arity 3 vs.length)
  | .srv, vs => .error (.arity 4 vs.length)
  | _, vs => .error (.arity 1 vs.length)

/-- The layout of record data. Host names go without their final dot, but the
null target of an SRV record keeps it. -/
def write : RecordData → List Json
  | .a address => [.string address.text]
  | .aaaa address => [.string address.text]
  | .cname target => [.string (withoutFinalDot target)]
  | .ns target => [.string (withoutFinalDot target)]
  | .mx preference exchange => [.nat preference.toNat, .string (withoutFinalDot exchange)]
  | .srv priority weight port target =>
    [.nat priority.toNat, .nat weight.toNat, .nat port.toNat,
      .string (if target = "." then "." else withoutFinalDot target)]
  | .caa flags tag value => [.nat flags.toNat, .string tag, .string value]
  | .txt strings => strings.map .string

end Content

namespace NativeSet

def readMembers (zone name : String) (type : RecordType) (ttl : UInt32) :
    List NativeRecord → Except Error (List Record)
  | [] => .ok []
  | m :: rest =>
    if !m.enabled then readMembers zone name type ttl rest
    else match Content.read type m.content with
      | .error fault => .error (.parse s!"{(Label.new name type).text}: {fault.message}")
      | .ok data => do
        let records ← readMembers zone name type ttl rest
        return .new zone name ttl data :: records

/-- The records of a set. Disabled members are not served, so they are no
records, whatever their content. -/
def toRecords (set : NativeSet) (zone name : String) (type : RecordType) :
    Except Error (List Record) :=
  readMembers zone name type set.ttl set.records

def writeMembers (capabilities : Capabilities) (label : Label) (ttl : UInt32) :
    List Record → Except Error (List NativeRecord)
  | [] => .ok []
  | r :: rest => do
    if r.label ≠ label then
      throw (.unsupported s!"record set {label.text} cannot contain {r.label.text}")
    if r.ttl ≠ ttl then
      throw (.unsupported (s!"{label.text}: all records in a set must share one TTL " ++
        s!"(found {ttl.toNat} and {r.ttl.toNat})"))
    capabilities.check r
    let members ← writeMembers capabilities label ttl rest
    return { content := Content.write r.data } :: members

/-- The set of some records, which have to share label and time to live and to
be fit for the provider. No records make no set. -/
def ofRecords (capabilities : Capabilities) (records : List Record) :
    Except Error (Option NativeSet) :=
  match records with
  | [] => .ok none
  | first :: _ => do
    let members ← writeMembers capabilities first.label first.ttl records
    return some ⟨first.ttl, members⟩

end NativeSet

end DnsReconcile
