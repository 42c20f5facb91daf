import Mathlib.Data.List.Induction
import DnsReconcile.Format.Fields
import DnsReconcile.Proofs.Ascending

/-!
The documents that write a value.

A document writes a value if it has the members of the value in some order, each once. All
such documents are nested as deeply as the value and denote it (`Writes.toJson?`), and what is
read by name from the members is what the value holds there.
-/

namespace DnsReconcile

namespace Json

/-- Whether the members of all objects in a value stand in ascending order of their names, each
name once, which is how values have them. -/
inductive IsOrdered : Json → Prop where
  | null : IsOrdered .null
  | bool (b : Bool) : IsOrdered (.bool b)
  | number (n : Number) : IsOrdered (.number n)
  | string (s : String) : IsOrdered (.string s)
  | array {xs : List Json} (h : ∀ x ∈ xs, IsOrdered x) : IsOrdered (.array xs)
  | object {ms : List (String × Json)} (ascending : ms.Pairwise fun m n => compare m.1 n.1 = .lt)
      (h : ∀ m ∈ ms, IsOrdered m.2) : IsOrdered (.object ms)

/-- Members of different names are brought into order and kept. -/
theorem exists_ofMembers {ms : List (String × Json)} (h : (ms.map (·.1)).Nodup) :
    ∃ es, ofMembers ms = .object es ∧ es.Pairwise (fun m n => compare m.1 n.1 = .lt) ∧
      ∀ e, e ∈ es ↔ e ∈ ms := by
  induction ms using List.reverseRecOn with
  | nil => exact ⟨[], rfl, List.Pairwise.nil, fun e => Iff.rfl⟩
  | append_singleton ms m ih =>
    rw [List.map_append, List.nodup_append] at h
    obtain ⟨es, hes, hascending, hmem⟩ := ih h.1
    have hentries : ms.foldl (fun ms m => SortedMap.insertEntry m.1 m.2 ms) [] = es :=
      Json.object.inj hes
    refine ⟨SortedMap.insertEntry m.1 m.2 es, ?_,
      SortedMap.pairwise_insertEntry m.1 m.2 hascending, fun e => ?_⟩
    · rw [ofMembers, List.foldl_append, hentries]
      rfl
    · rw [SortedMap.mem_insertEntry hascending, hmem, List.mem_append, List.mem_singleton, or_comm]
      have hfresh : e ∈ ms → e.1 ≠ m.1 := fun he =>
        h.2.2 e.1 (List.mem_map_of_mem he) m.1 (by simp)
      exact or_congr_left ⟨fun he => he.2, fun he => ⟨hfresh he, he⟩⟩

/-- Members that stand in order are left as they are. -/
theorem ofMembers_of_ascending {ms : List (String × Json)}
    (h : ms.Pairwise fun m n => compare m.1 n.1 = .lt) : ofMembers ms = .object ms := by
  have hnodup : (ms.map (·.1)).Nodup := (SortedMap.ascending_keys ⟨ms, h⟩).nodup
  obtain ⟨es, hes, hascending, hmem⟩ := exists_ofMembers hnodup
  have hsame : SortedMap.mk es hascending = SortedMap.mk ms h := by
    apply SortedMap.ext_get?
    intro k
    apply Option.ext
    intro v
    rw [SortedMap.get?_eq_some_iff, SortedMap.get?_eq_some_iff]
    exact hmem (k, v)
  have hentries : es = ms := congrArg SortedMap.entries hsame
  rw [hes, hentries]

def depth (v : Json) : Nat := (Document.ofJson v).depth

end Json

namespace Document

/-- Whether a document writes a value: the elements of its arrays in their order, and the members
of its objects in any order, each name once. Parts of the document and of the value are listed
side by side. -/
inductive Writes : Document → Json → Prop where
  | null : Writes .null .null
  | bool (b : Bool) : Writes (.bool b) (.bool b)
  | number (n : Number) : Writes (.number (some n)) (.number n)
  | string (s : String) : Writes (.string (some s)) (.string s)
  | array {es : List (Document × Json)} (h : ∀ e ∈ es, Writes e.1 e.2) :
      Writes (.array (es.map (·.1))) (.array (es.map (·.2)))
  | object {es : List (String × Document × Json)} (nodup : (es.map (·.1)).Nodup)
      (h : ∀ e ∈ es, Writes e.2.1 e.2.2) :
      Writes (.object (es.map fun e => (some e.1, e.2.1)))
        (.ofMembers (es.map fun e => (e.1, e.2.2)))

theorem ofElements_eq_map (xs : List Json) : ofElements xs = xs.map ofJson := by
  induction xs with
  | nil => rfl
  | cons x rest ih => rw [ofElements, ih, List.map_cons]

theorem ofMembers_eq_map (ms : List (String × Json)) :
    ofMembers ms = ms.map fun m => (some m.1, ofJson m.2) := by
  induction ms with
  | nil => rfl
  | cons m rest ih => rw [ofMembers, ih, List.map_cons]

/-- The members of an object may be written as they are listed, in order or not. -/
theorem writes_members {ms : List (String × Json)} (hnodup : (ms.map (·.1)).Nodup)
    (h : ∀ m ∈ ms, Writes (ofJson m.2) m.2) : Writes (ofJson (.object ms)) (.ofMembers ms) := by
  have hwrites : ∀ e ∈ ms.map fun m => (m.1, ofJson m.2, m.2), Writes e.2.1 e.2.2 :=
    List.forall_mem_map.2 h
  have hobject := Writes.object (by simpa [Function.comp_def] using hnodup) hwrites
  simpa [ofJson, ofMembers_eq_map, Function.comp_def] using hobject

/-- The document with the members of a value writes it. -/
theorem writes_ofJson {v : Json} (h : v.IsOrdered) : Writes (ofJson v) v := by
  induction h with
  | null => exact .null
  | bool b => exact .bool b
  | number n => exact .number n
  | string s => exact .string s
  | @array xs h ih =>
    have hwrites : ∀ e ∈ xs.map fun x => (ofJson x, x), Writes e.1 e.2 :=
      List.forall_mem_map.2 ih
    simpa [ofJson, ofElements_eq_map, Function.comp_def] using Writes.array hwrites
  | @object ms hascending h ih =>
    have hnodup : (ms.map (·.1)).Nodup := (SortedMap.ascending_keys ⟨ms, hascending⟩).nodup
    have hobject := writes_members hnodup ih
    rwa [Json.ofMembers_of_ascending hascending] at hobject

theorem elementsToJson?_map {es : List (Document × Json)} (h : ∀ e ∈ es, e.1.toJson? = some e.2) :
    elementsToJson? (es.map (·.1)) = some (es.map (·.2)) := by
  induction es with
  | nil => rfl
  | cons e rest ih =>
    obtain ⟨he, hrest⟩ := List.forall_mem_cons.1 h
    simp only [List.map_cons, elementsToJson?, he, ih hrest]

theorem membersToJson?_map {es : List (String × Document × Json)}
    (h : ∀ e ∈ es, e.2.1.toJson? = some e.2.2) :
    membersToJson? (es.map fun e => (some e.1, e.2.1)) = some (es.map fun e => (e.1, e.2.2)) := by
  induction es with
  | nil => rfl
  | cons e rest ih =>
    obtain ⟨he, hrest⟩ := List.forall_mem_cons.1 h
    simp only [List.map_cons, membersToJson?, he, ih hrest]

theorem elementDepth_le_iff {xs : List Document} {k : Nat} :
    elementDepth xs ≤ k ↔ ∀ x ∈ xs, x.depth ≤ k := by
  induction xs with
  | nil => simp [elementDepth]
  | cons x rest ih => rw [elementDepth, Nat.max_le, ih, List.forall_mem_cons]

theorem memberDepth_le_iff {ms : List (Option String × Document)} {k : Nat} :
    memberDepth ms ≤ k ↔ ∀ m ∈ ms, m.2.depth ≤ k := by
  induction ms with
  | nil => simp [memberDepth]
  | cons m rest ih => rw [memberDepth, Nat.max_le, ih, List.forall_mem_cons]

namespace Writes

variable {d : Document} {v : Json}

/-- A value is the one that is denoted by every document that writes it. -/
theorem toJson? (h : Writes d v) : d.toJson? = some v := by
  induction h with
  | null => rfl
  | bool b => rfl
  | number n => rfl
  | string s => rfl
  | array h ih =>
    rw [Document.toJson?, elementsToJson?_map ih]
    rfl
  | object hnodup h ih =>
    rw [Document.toJson?, membersToJson?_map ih]
    rfl

/-- A document is nested as deeply as the value that it writes. -/
theorem depth_eq (h : Writes d v) : d.depth = v.depth := by
  induction h with
  | null => rfl
  | bool b => rfl
  | number n => rfl
  | string s => rfl
  | @array es h ih =>
    have hdepth : elementDepth (es.map (·.1)) = elementDepth (ofElements (es.map (·.2))) := by
      refine eq_of_forall_ge_iff fun k => ?_
      rw [elementDepth_le_iff, ofElements_eq_map, elementDepth_le_iff]
      simp only [List.forall_mem_map]
      exact forall₂_congr fun e he => by rw [ih e he, Json.depth]
    rw [Document.depth, Json.depth, ofJson, Document.depth, hdepth]
  | @object es hnodup h ih =>
    have hnames : ((es.map fun e => (e.1, e.2.2)).map (·.1)).Nodup := by
      simpa [Function.comp_def] using hnodup
    obtain ⟨ms, hms, -, hmem⟩ := Json.exists_ofMembers hnames
    have hdepth : memberDepth (es.map fun e => (some e.1, e.2.1)) = memberDepth (ofMembers ms) := by
      refine eq_of_forall_ge_iff fun k => ?_
      rw [memberDepth_le_iff, ofMembers_eq_map, memberDepth_le_iff]
      simp only [List.forall_mem_map, hmem]
      exact forall₂_congr fun e he => by rw [ih e he, Json.depth]
    rw [hms, Document.depth, Json.depth, ofJson, Document.depth, hdepth]

end Writes

theorem members?_map (es : List (String × Document × Json)) :
    members? (.object (es.map fun e => (some e.1, e.2.1))) =
      some (es.map fun e => (e.1, e.2.1)) := by
  rw [members?]
  induction es with
  | nil => rfl
  | cons e rest ih => simp [List.mapM_cons, ih]

/-- Whether fields of different names hold at least these members. -/
structure FieldsWrite (fs : List (String × Document)) (ms : List (String × Json)) : Prop where
  nodup : (fs.map (·.1)).Nodup
  writes : ∀ m ∈ ms, ∃ d, (m.1, d) ∈ fs ∧ Writes d m.2

/-- What writes an object has its members for fields. -/
theorem Writes.exists_members {d : Document} {ms : List (String × Json)}
    (h : Writes d (.ofMembers ms)) (hnodup : (ms.map (·.1)).Nodup) :
    ∃ ds fs, d = .object ds ∧ d.members? = some fs ∧ FieldsWrite fs ms := by
  obtain ⟨es, hes, -, hmem⟩ := Json.exists_ofMembers hnodup
  generalize hv : Json.ofMembers ms = v at h
  rw [hes] at hv
  cases h with
  | null => cases hv
  | bool b => cases hv
  | number n => cases hv
  | string s => cases hv
  | array h => cases hv
  | @object written hwritten h =>
    have hnames : ((written.map fun e => (e.1, e.2.2)).map (·.1)).Nodup := by
      simpa [Function.comp_def] using hwritten
    obtain ⟨ns, hns, -, hmem'⟩ := Json.exists_ofMembers hnames
    rw [hns] at hv
    cases hv
    refine ⟨_, written.map fun e => (e.1, e.2.1), rfl, ?_, ?_, ?_⟩
    · exact members?_map written
    · simpa [Function.comp_def] using hwritten
    · intro m hm
      obtain ⟨e, he, rfl⟩ := List.mem_map.1 ((hmem' m).1 ((hmem m).2 hm))
      exact ⟨e.2.1, List.mem_map_of_mem he, h e he⟩

theorem Writes.exists_fields {d : Document} {ms : List (String × Json)}
    (h : Writes d (.ofMembers ms)) (names : List String) (hnodup : (ms.map (·.1)).Nodup) :
    ∃ fs, d.fields? names = some fs ∧ FieldsWrite fs ms := by
  obtain ⟨ds, fs, rfl, hfs, hfields⟩ := h.exists_members hnodup
  exact ⟨fs, hfs, hfields⟩

theorem once?_of_mem {name : String} {d : Document} {fs : List (String × Document)}
    (hnodup : (fs.map (·.1)).Nodup) (h : (name, d) ∈ fs) : once? name fs = some (some d) := by
  have hfilter : fs.filter (·.1 == name) = [(name, d)] := by
    induction fs with
    | nil => cases h
    | cons f rest ih =>
      rw [List.map_cons, List.nodup_cons] at hnodup
      obtain ⟨hfresh, hrest⟩ := hnodup
      rcases List.mem_cons.1 h with rfl | h
      · have hothers : rest.filter (·.1 == name) = [] := List.filter_eq_nil_iff.2
          fun e he heq => hfresh (List.mem_map.2 ⟨e, he, eq_of_beq heq⟩)
        simp [hothers]
      · have hother : f.1 ≠ name := fun heq => hfresh (List.mem_map.2 ⟨_, h, heq.symm⟩)
        simp [hother, ih hrest h]
  rw [once?, hfilter]

/-- What is read from every document that writes a value. -/
def Decodes {α : Type} (read : Document → Option α) (v : Json) (outcome : Option α) : Prop :=
  ∀ d, Writes d v → read d = outcome

namespace FieldsWrite

variable {α : Type} {fs : List (String × Document)} {ms : List (String × Json)} {v : Json}
  {read : Document → Option α} {outcome : Option α}

theorem mono {ns : List (String × Json)} (h : FieldsWrite fs ms) (hmem : ∀ n ∈ ns, n ∈ ms) :
    FieldsWrite fs ns :=
  ⟨h.nodup, fun n hn => h.writes n (hmem n hn)⟩

theorem required? (h : FieldsWrite fs ms) (name : String) (hm : (name, v) ∈ ms)
    (hread : Decodes read v outcome) : required? name fs read = outcome := by
  obtain ⟨d, hd, hwrites⟩ := h.writes _ hm
  rw [Document.required?, once?_of_mem h.nodup hd]
  exact hread d hwrites

theorem optional? (h : FieldsWrite fs ms) (name : String) (hm : (name, v) ∈ ms)
    (hread : Decodes read v outcome) (absent : α) : optional? name fs read absent = outcome := by
  obtain ⟨d, hd, hwrites⟩ := h.writes _ hm
  rw [Document.optional?, once?_of_mem h.nodup hd]
  exact hread d hwrites

end FieldsWrite

theorem decodes_text? (s : String) : Decodes text? (.string s) (some s) := by
  rintro d ⟨⟩
  rfl

theorem decodes_bool? (b : Bool) : Decodes bool? (.bool b) (some b) := by
  rintro d ⟨⟩
  rfl

theorem decodes_natural? {α : Type} {ofNat : Nat → α} {n bound : Nat} {a : α} (h : n < bound)
    (ha : ofNat n = a) : Decodes (fun d => (d.natural? bound).map ofNat) (.nat n) (some a) := by
  rintro d ⟨⟩
  simp [natural?, h, ha]

theorem decodes_uint8? (n : UInt8) : Decodes uint8? (.nat n.toNat) (some n) :=
  decodes_natural? n.toNat_lt UInt8.ofNat_toNat

theorem decodes_uint16? (n : UInt16) : Decodes uint16? (.nat n.toNat) (some n) :=
  decodes_natural? n.toNat_lt UInt16.ofNat_toNat

theorem decodes_uint32? (n : UInt32) : Decodes uint32? (.nat n.toNat) (some n) :=
  decodes_natural? n.toNat_lt UInt32.ofNat_toNat

theorem decodes_uint64? (n : UInt64) : Decodes uint64? (.nat n.toNat) (some n) :=
  decodes_natural? n.toNat_lt UInt64.ofNat_toNat

section lists

variable {α : Type} {read : Document → Option α} {write : α → Json} {as : List α}

private theorem mapM_of_decodes {es : List (Document × Json)} {fits : α → Bool}
    (h : ∀ a ∈ as, Decodes read (write a) (Option.guard fits a))
    (hes : ∀ e ∈ es, Writes e.1 e.2) (hsame : as.map write = es.map (·.2)) :
    (es.map (·.1)).mapM read = Option.guard (·.all fits) as := by
  induction as generalizing es with
  | nil =>
    rw [List.map_eq_nil_iff.1 hsame.symm]
    rfl
  | cons a rest ih =>
    cases es with
    | nil => cases hsame
    | cons e others =>
      obtain ⟨ha, hrest⟩ := List.forall_mem_cons.1 h
      obtain ⟨he, hothers⟩ := List.forall_mem_cons.1 hes
      obtain ⟨hvalue, hsame⟩ := List.cons.inj hsame
      rw [List.map_cons, List.mapM_cons, ha e.1 (hvalue ▸ he), ih hrest hothers hsame]
      cases hfits : fits a <;> cases hall : rest.all fits <;> simp [Option.guard, hfits, hall]

/-- A list is read if each of its elements is. -/
theorem decodes_list?_guard {fits : α → Bool}
    (h : ∀ a ∈ as, Decodes read (write a) (Option.guard fits a)) :
    Decodes (list? read) (.array (as.map write)) (Option.guard (·.all fits) as) := by
  intro d hd
  generalize hv : Json.array (as.map write) = v at hd
  cases hd with
  | null => cases hv
  | bool b => cases hv
  | number n => cases hv
  | string s => cases hv
  | object hnodup h => cases hv
  | array hes => exact mapM_of_decodes h hes (Json.array.inj hv)

theorem decodes_list? (h : ∀ a ∈ as, Decodes read (write a) (some a)) :
    Decodes (list? read) (.array (as.map write)) (some as) := by
  have hguard : ∀ a ∈ as, Decodes read (write a) (Option.guard (fun _ => true) a) := h
  have hlist := decodes_list?_guard hguard
  simpa [Option.guard] using hlist

end lists

theorem decodes_texts (ss : List String) :
    Decodes (list? text?) (.array (ss.map .string)) (some ss) :=
  decodes_list? fun s _ => decodes_text? s

end Document

end DnsReconcile
