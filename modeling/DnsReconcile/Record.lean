import DnsReconcile.RecordData

/-!
Labels and records.

A label is what the records of one set share: an owner name and a type. A
record is in canonical form by construction, so records that mean the same
thing are equal.
-/

namespace DnsReconcile

/-- The identity of a record set: an owner name and a type. -/
structure Label where
  name : Name
  type : RecordType
  deriving DecidableEq, Inhabited

namespace Label

def new (name : String) (type : RecordType) : Label := ⟨.ofString name, type⟩

def text (l : Label) : String := s!"{l.name.text} {l.type.text}"

/-- Labels are ordered by name, then by type. -/
instance : Ord Label := ⟨compareLex (compareOn name) (compareOn type)⟩

instance : Std.TransOrd Label :=
  inferInstanceAs (Std.TransCmp (compareLex (compareOn name) (compareOn type)))

instance : Std.LawfulEqOrd Label where
  eq_of_compare {l m} h := by
    have h : compareLex (compareOn name) (compareOn type) l m = .eq := h
    simp only [compareLex_eq_eq, compareOn] at h
    have hn := Std.LawfulEqCmp.eq_of_compare h.1
    have ht := Std.LawfulEqCmp.eq_of_compare h.2
    cases l; cases m; cases hn; cases ht
    rfl

end Label

/-- A DNS record in canonical form. -/
structure Record where
  zone : Name
  name : Name
  ttl : UInt32
  data : RecordData
  canonical : data.canonical = data
  deriving DecidableEq

namespace Record

def new (zone name : String) (ttl : UInt32) (data : RecordData) : Record :=
  ⟨.ofString zone, .ofString name, ttl, data.canonical, data.canonical_canonical⟩

def type (r : Record) : RecordType := r.data.type

def label (r : Record) : Label := ⟨r.name, r.type⟩

def text (r : Record) : String :=
  s!"{r.name.text} {r.ttl.toNat} {r.type.text} {r.data.text}"

/-- Records are ordered by zone, name, time to live and data. -/
instance : Ord Record :=
  ⟨compareLex (compareOn zone) (compareLex (compareOn name)
    (compareLex (compareOn (fun r => r.ttl.toNat)) (compareOn data)))⟩

instance : Std.TransOrd Record :=
  inferInstanceAs (Std.TransCmp (compareLex (compareOn zone) (compareLex (compareOn name)
    (compareLex (compareOn (fun r => r.ttl.toNat)) (compareOn data)))))

instance : Std.LawfulEqOrd Record where
  eq_of_compare {r s} h := by
    have h : compareLex (compareOn zone) (compareLex (compareOn name)
      (compareLex (compareOn (fun r => r.ttl.toNat)) (compareOn data))) r s = .eq := h
    simp only [compareLex_eq_eq, compareOn] at h
    have hz := Std.LawfulEqCmp.eq_of_compare h.1
    have hn := Std.LawfulEqCmp.eq_of_compare h.2.1
    have ht := UInt32.toNat_inj.1 (Std.LawfulEqCmp.eq_of_compare h.2.2.1)
    have hd := Std.LawfulEqCmp.eq_of_compare h.2.2.2
    cases r; cases s; cases hz; cases hn; cases ht; cases hd
    rfl

end Record

end DnsReconcile
