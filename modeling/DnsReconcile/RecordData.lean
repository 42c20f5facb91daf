import DnsReconcile.Address.IPv6
import DnsReconcile.Name
import DnsReconcile.RecordType
import DnsReconcile.Text.Quoted

/-!
The data of a record, by type.

Host names in record data may be spelled in any way; `RecordData.canonical`
brings them, and the tag of a CAA record, into canonical form.
-/

namespace DnsReconcile

inductive RecordData where
  | a (address : IPv4)
  | aaaa (address : IPv6)
  | caa (flags : UInt8) (tag value : String)
  | cname (target : String)
  | mx (preference : UInt16) (exchange : String)
  | ns (target : String)
  | srv (priority weight port : UInt16) (target : String)
  | txt (strings : List String)
  deriving DecidableEq

namespace RecordData

open Text

def type : RecordData → RecordType
  | a _ => .a
  | aaaa _ => .aaaa
  | caa .. => .caa
  | cname _ => .cname
  | mx .. => .mx
  | ns _ => .ns
  | srv .. => .srv
  | txt _ => .txt

def mapHost (f : String → String) : RecordData → RecordData
  | cname target => cname (f target)
  | mx preference exchange => mx preference (f exchange)
  | ns target => ns (f target)
  | srv priority weight port target => srv priority weight port (f target)
  | other => other

/-- Host names in canonical form and CAA tags in small letters. -/
def canonical : RecordData → RecordData
  | caa flags tag value => caa flags (lower tag) value
  | other => other.mapHost fqdn

theorem canonical_canonical (d : RecordData) : d.canonical.canonical = d.canonical := by
  cases d <;> simp [canonical, mapHost, fqdn_fqdn, lower_lower]

@[simp] theorem type_canonical (d : RecordData) : d.canonical.type = d.type := by
  cases d <;> rfl

def text : RecordData → String
  | a address => address.text
  | aaaa address => address.text
  | caa flags tag value => s!"{flags.toNat} {tag} {quoted value}"
  | cname target => target
  | mx preference exchange => s!"{preference.toNat} {exchange}"
  | ns target => target
  | srv priority weight port target =>
    s!"{priority.toNat} {weight.toNat} {port.toNat} {target}"
  | txt strings => String.intercalate " " (strings.map quoted)

def numbers : RecordData → List Nat
  | a address => address.octets
  | aaaa address => address.groups.map UInt16.toNat
  | caa flags _ _ => [flags.toNat]
  | mx preference _ => [preference.toNat]
  | srv priority weight port _ => [priority.toNat, weight.toNat, port.toNat]
  | _ => []

def texts : RecordData → List String
  | caa _ tag value => [tag, value]
  | cname target => [target]
  | mx _ exchange => [exchange]
  | ns target => [target]
  | srv _ _ _ target => [target]
  | txt strings => strings
  | _ => []

/-- The order of record data: by type, then field by field. In every type the
numbers stand before the texts. -/
def order : RecordData → RecordData → Ordering :=
  compareLex (compareOn type) (compareLex (compareOn numbers) (compareOn texts))

instance : Ord RecordData := ⟨order⟩

instance : Std.TransOrd RecordData :=
  inferInstanceAs (Std.TransCmp
    (compareLex (compareOn type) (compareLex (compareOn numbers) (compareOn texts))))

theorem eq_of_fields {d e : RecordData} (ht : d.type = e.type) (hn : d.numbers = e.numbers)
    (hs : d.texts = e.texts) : d = e := by
  cases d <;> cases e <;> cases ht
  all_goals simp only [numbers, texts, IPv4.octets, List.cons.injEq, UInt8.toNat_inj,
    UInt16.toNat_inj, and_true] at hn hs
  · rename_i x y
    cases x; cases y
    simp_all
  · rename_i x y
    have h : x.groups = y.groups := (List.map_inj_right (fun _ _ => UInt16.toNat_inj.1)).1 hn
    cases x; cases y
    cases h
    rfl
  all_goals simp_all

instance : Std.LawfulEqOrd RecordData where
  eq_of_compare {d e} h := by
    have h : order d e = .eq := h
    simp only [order, compareLex_eq_eq, compareOn] at h
    exact eq_of_fields (Std.LawfulEqCmp.eq_of_compare h.1)
      (Std.LawfulEqCmp.eq_of_compare h.2.1) (Std.LawfulEqCmp.eq_of_compare h.2.2)

end RecordData

end DnsReconcile
