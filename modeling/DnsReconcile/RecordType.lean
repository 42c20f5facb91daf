import DnsReconcile.Error
import DnsReconcile.Text.Ascii

/-!
The record types of this library, in their order, and their names.
-/

namespace DnsReconcile

inductive RecordType where
  | a
  | aaaa
  | caa
  | cname
  | mx
  | ns
  | srv
  | txt
  deriving DecidableEq, Inhabited

namespace RecordType

def all : List RecordType := [a, aaaa, caa, cname, mx, ns, srv, txt]

def text : RecordType → String
  | a => "A"
  | aaaa => "AAAA"
  | caa => "CAA"
  | cname => "CNAME"
  | mx => "MX"
  | ns => "NS"
  | srv => "SRV"
  | txt => "TXT"

def rank : RecordType → Nat
  | a => 0
  | aaaa => 1
  | caa => 2
  | cname => 3
  | mx => 4
  | ns => 5
  | srv => 6
  | txt => 7

/-- The type with this name, in either case and with white space around it. A
name of no known type is an error, since a record set that is left out would
make a zone look in sync when it is not. -/
def ofString (s : String) : Except Error RecordType :=
  match all.find? (fun t => Text.sameIgnoringCase t.text (Text.trimmed s)) with
  | some t => .ok t
  | none => .error (.unsupported s!"record type '{s}' is not supported")

theorem eq_of_rank_eq {s t : RecordType} (h : s.rank = t.rank) : s = t := by
  cases s <;> cases t <;> first | rfl | cases h

/-- Types are ordered by rank. -/
instance : Ord RecordType := ⟨compareOn rank⟩

instance : Std.TransOrd RecordType :=
  inferInstanceAs (Std.TransCmp (compareOn rank))

instance : Std.LawfulEqOrd RecordType where
  eq_of_compare {s t} h :=
    eq_of_rank_eq (Std.LawfulEqCmp.eq_of_compare (show compare s.rank t.rank = .eq from h))

end RecordType

end DnsReconcile
