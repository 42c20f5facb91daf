import DnsReconcile.Json.Document

/-!
Reading the fields of a JSON object.

A field that is read may stand once. Fields that nobody reads may hold
anything. Where a format allows it, an array gives the fields by position, in
the order of the format.
-/

namespace DnsReconcile.Document

/-- The members of an object, if all of their names denote text. -/
def members? : Document → Option (List (String × Document))
  | object ms => ms.mapM (fun (n, d) => n.map (·, d))
  | _ => none

/-- The fields of an object, or those that an array gives by position. -/
def fields? (names : List String) : Document → Option (List (String × Document))
  | array xs => if xs.length ≤ names.length then some (names.zip xs) else none
  | d => d.members?

/-- The field with a name, if it stands at most once. -/
def once? (name : String) (fields : List (String × Document)) : Option (Option Document) :=
  match fields.filter (·.1 == name) with
  | [] => some none
  | [(_, d)] => some (some d)
  | _ => none

def required? {α : Type} (name : String) (fields : List (String × Document))
    (read : Document → Option α) : Option α :=
  match once? name fields with
  | some (some d) => read d
  | _ => none

def optional? {α : Type} (name : String) (fields : List (String × Document))
    (read : Document → Option α) (absent : α) : Option α :=
  match once? name fields with
  | some (some d) => read d
  | some none => some absent
  | none => none

def text? : Document → Option String
  | string s => s
  | _ => none

def bool? : Document → Option Bool
  | bool b => some b
  | _ => none

/-- A natural number below a bound. A number with a fraction or an exponent is
none, whatever its value. -/
def natural? (bound : Nat) : Document → Option Nat
  | number (some (.int i)) => if 0 ≤ i ∧ i.toNat < bound then some i.toNat else none
  | _ => none

def uint8? (d : Document) : Option UInt8 := (d.natural? UInt8.size).map UInt8.ofNat

def uint16? (d : Document) : Option UInt16 := (d.natural? UInt16.size).map UInt16.ofNat

def uint32? (d : Document) : Option UInt32 := (d.natural? UInt32.size).map UInt32.ofNat

def uint64? (d : Document) : Option UInt64 := (d.natural? UInt64.size).map UInt64.ofNat

def list? {α : Type} (read : Document → Option α) : Document → Option (List α)
  | array xs => xs.mapM read
  | _ => none

end DnsReconcile.Document
