import DnsReconcile.Number.Binary64
import DnsReconcile.SortedMap

/-!
JSON values.

Numbers are integers where they fit into 64 bits, with or without a sign, and
binary floating point numbers otherwise. The members of an object stand in
ascending order of their names, each name once; `Json.ofMembers` brings members
into that form.
-/

namespace DnsReconcile

inductive Number where
  | int (value : Int)
  | real (value : Binary64)
  deriving DecidableEq

inductive Json where
  | null
  | bool (value : Bool)
  | number (value : Number)
  | string (value : String)
  | array (elements : List Json)
  | object (members : List (String × Json))

namespace Json

instance : Inhabited Json := ⟨null⟩

def nat (n : Nat) : Json := .number (.int n)

/-- The object with these members; of members with one name the last counts. -/
def ofMembers (members : List (String × Json)) : Json :=
  .object (members.foldl (fun ms m => SortedMap.insertEntry m.1 m.2 ms) [])

def member? (name : String) : Json → Option Json
  | object members => (members.find? (fun m => m.1 == name)).map (·.2)
  | _ => none

end Json

end DnsReconcile
