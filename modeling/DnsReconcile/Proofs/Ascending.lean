import Mathlib.Data.List.Nodup
import Mathlib.Data.List.Sort
import DnsReconcile.SortedList
import DnsReconcile.SortedMap

/-!
Ascending lists and maps are determined by what they hold.

A list that ascends strictly is fixed by its members
(`Ascending.eq_of_mem_iff`), so `SortedList.ofList` gives the same list for two
lists exactly when they have the same members (`ofList_eq_iff`). A sorted map is
fixed by its look-ups (`SortedMap.ext_get?`), and each of its operations is
described here by what it does to them.
-/

namespace DnsReconcile

/-- The members stand in strictly ascending order. -/
def Ascending {α : Type} [Ord α] (as : List α) : Prop :=
  as.Pairwise (fun a b => compare a b = .lt)

namespace Ascending

variable {α : Type} [Ord α] [Std.TransOrd α] [Std.LawfulEqOrd α]

omit [Std.TransOrd α] in
theorem irrefl (a : α) : compare a a ≠ .lt := by
  rw [Std.ReflOrd.compare_self]
  decide

/-- Two ascending lists with the same members are the same list. -/
theorem eq_of_mem_iff {as bs : List α} (ha : Ascending as) (hb : Ascending bs)
    (h : ∀ a, a ∈ as ↔ a ∈ bs) : as = bs := by
  have hanti : Std.Antisymm (fun a b : α => compare a b = .lt) :=
    ⟨fun a b hab hba => absurd (Std.TransCmp.lt_trans hab hba) (irrefl a)⟩
  have hirrefl : Std.Irrefl (fun a b : α => compare a b = .lt) := ⟨irrefl⟩
  exact List.Pairwise.eq_of_mem_iff ha hb h

omit [Std.LawfulEqOrd α] in
theorem nodup {as : List α} (ha : Ascending as) : as.Nodup :=
  ha.imp (fun hlt heq => by
    rw [heq, Std.ReflOrd.compare_self] at hlt
    cases hlt)

omit [Std.TransOrd α] [Std.LawfulEqOrd α] in
theorem filter {as : List α} (ha : Ascending as) (p : α → Bool) : Ascending (as.filter p) :=
  List.Pairwise.filter p ha

/-- The first hit in a list that ascends by a key is the one with the least key. -/
theorem findSome?_eq_some_iff {β γ : Type} {bs : List β} {key : β → α}
    (h : Ascending (bs.map key)) {f : β → Option γ} {c : γ} :
    bs.findSome? f = some c ↔
      ∃ b ∈ bs, f b = some c ∧ ∀ a ∈ bs, compare (key a) (key b) = .lt → f a = none := by
  rw [List.findSome?_eq_some_iff]
  constructor
  · rintro ⟨before, b, after, rfl, hb, hbefore⟩
    refine ⟨b, by simp, hb, fun a ha hlt => ?_⟩
    rw [List.mem_append, List.mem_cons] at ha
    rcases ha with ha | rfl | ha
    · exact hbefore a ha
    · exact absurd hlt (irrefl _)
    · have hafter := (List.pairwise_append.1 (List.pairwise_map.1 h)).2.1
      have hgt := (List.pairwise_cons.1 hafter).1 a ha
      exact absurd (Std.TransCmp.lt_trans hlt hgt) (irrefl _)
  · rintro ⟨b, hb, hc, hfirst⟩
    obtain ⟨before, after, rfl⟩ := List.append_of_mem hb
    have hsmaller := (List.pairwise_append.1 (List.pairwise_map.1 h)).2.2
    refine ⟨before, b, after, rfl, hc, fun a ha => ?_⟩
    exact hfirst a (List.mem_append_left _ ha) (hsmaller a ha b List.mem_cons_self)

end Ascending

namespace SortedList

variable {α : Type} [Ord α] [Std.TransOrd α] [Std.LawfulEqOrd α]

omit [Std.TransOrd α] in
theorem mem_insert {a b : α} {as : List α} : b ∈ insert a as ↔ b = a ∨ b ∈ as := by
  induction as with
  | nil => simp [insert]
  | cons c rest ih =>
    unfold insert
    split
    · simp
    · rename_i heq
      have hac : a = c := Std.LawfulEqCmp.eq_of_compare heq
      subst hac
      simp
    · simp only [List.mem_cons, ih]
      exact or_left_comm

theorem ascending_insert {a : α} {as : List α} (h : Ascending as) : Ascending (insert a as) := by
  induction as with
  | nil => simp [insert, Ascending]
  | cons c rest ih =>
    obtain ⟨hc, hrest⟩ := List.pairwise_cons.1 h
    unfold insert
    split
    · rename_i hlt
      refine List.pairwise_cons.2 ⟨fun b hb => ?_, h⟩
      rcases List.mem_cons.1 hb with rfl | hb
      · exact hlt
      · exact Std.TransCmp.lt_trans hlt (hc b hb)
    · exact h
    · rename_i hgt
      refine List.pairwise_cons.2 ⟨fun b hb => ?_, ih hrest⟩
      rcases mem_insert.1 hb with rfl | hb
      · exact Std.OrientedCmp.lt_of_gt hgt
      · exact hc b hb

omit [Std.TransOrd α] in
theorem mem_insertAll {b : α} (as bs : List α) : b ∈ insertAll bs as ↔ b ∈ bs ∨ b ∈ as := by
  induction as generalizing bs with
  | nil => simp [insertAll]
  | cons a rest ih =>
    have hstep : insertAll bs (a :: rest) = insertAll (insert a bs) rest := rfl
    rw [hstep, ih, mem_insert, List.mem_cons]
    tauto

theorem ascending_insertAll {bs : List α} (as : List α) (h : Ascending bs) :
    Ascending (insertAll bs as) := by
  induction as generalizing bs with
  | nil => exact h
  | cons a rest ih => exact ih (ascending_insert h)

omit [Std.TransOrd α] in
theorem mem_ofList {a : α} {as : List α} : a ∈ ofList as ↔ a ∈ as := by
  simp [ofList, mem_insertAll]

theorem ascending_ofList (as : List α) : Ascending (ofList as) :=
  ascending_insertAll as .nil

/-- Lists with the same members, in any order and with any repetitions, have
one sorted form. -/
theorem ofList_eq_iff {as bs : List α} : ofList as = ofList bs ↔ ∀ a, a ∈ as ↔ a ∈ bs := by
  constructor
  · intro h a
    calc a ∈ as ↔ a ∈ ofList as := mem_ofList.symm
      _ ↔ a ∈ ofList bs := by rw [h]
      _ ↔ a ∈ bs := mem_ofList
  · intro h
    apply (ascending_ofList as).eq_of_mem_iff (ascending_ofList bs)
    intro a
    rw [mem_ofList, mem_ofList]
    exact h a

end SortedList

namespace SortedMap

variable {κ β : Type} [Ord κ] [Std.TransOrd κ] [Std.LawfulEqOrd κ]

omit [Std.TransOrd κ] [Std.LawfulEqOrd κ] in
theorem ascending_keys (m : SortedMap κ β) : Ascending m.keys := by
  unfold Ascending keys
  rw [List.pairwise_map]
  exact m.ascending

/-- A look-up finds exactly the entries. -/
theorem get?_eq_some_iff {m : SortedMap κ β} {k : κ} {v : β} :
    m.get? k = some v ↔ (k, v) ∈ m.entries := by
  unfold get?
  constructor
  · intro h
    obtain ⟨⟨l, w⟩, hfind, rfl⟩ := Option.map_eq_some_iff.1 h
    have hfound := List.find?_some hfind
    have hkey : l = k := Std.LawfulEqCmp.compare_beq_iff_eq.1 hfound
    subst hkey
    exact List.mem_of_find?_eq_some hfind
  · intro h
    cases hfind : m.entries.find? (fun e => compare e.1 k == .eq) with
    | none =>
      have hk := List.find?_eq_none.1 hfind (k, v) h
      simp [Std.ReflOrd.compare_self] at hk
    | some e =>
      have hfound := List.find?_some hfind
      have hkey : e.1 = k := Std.LawfulEqCmp.compare_beq_iff_eq.1 hfound
      have hmem := List.mem_of_find?_eq_some hfind
      have hsame : e = (k, v) :=
        List.inj_on_of_nodup_map (ascending_keys m).nodup hmem h hkey
      simp [hsame]

theorem mem_keys_iff {m : SortedMap κ β} {k : κ} : k ∈ m.keys ↔ ∃ v, m.get? k = some v := by
  simp only [keys, List.mem_map, get?_eq_some_iff]
  constructor
  · rintro ⟨⟨l, v⟩, he, rfl⟩
    exact ⟨v, he⟩
  · rintro ⟨v, hv⟩
    exact ⟨(k, v), hv, rfl⟩

theorem contains_iff {m : SortedMap κ β} {k : κ} : m.contains k = true ↔ k ∈ m.keys := by
  rw [mem_keys_iff, contains, Option.isSome_iff_exists]

theorem get?_eq_none_iff {m : SortedMap κ β} {k : κ} : m.get? k = none ↔ k ∉ m.keys := by
  rw [mem_keys_iff, Option.eq_none_iff_forall_ne_some, not_exists]

theorem mem_values_iff {m : SortedMap κ β} {v : β} :
    v ∈ m.values ↔ ∃ k, m.get? k = some v := by
  simp only [values, List.mem_map, get?_eq_some_iff]
  constructor
  · rintro ⟨⟨k, w⟩, he, rfl⟩
    exact ⟨k, he⟩
  · rintro ⟨k, hk⟩
    exact ⟨(k, v), hk, rfl⟩

/-- Maps with the same look-ups are the same map. -/
theorem ext_get? {m n : SortedMap κ β} (h : ∀ k, m.get? k = n.get? k) : m = n := by
  apply ext_entries
  have hanti : Std.Antisymm (fun a b : κ × β => compare a.1 b.1 = .lt) :=
    ⟨fun a b hab hba => absurd (Std.TransCmp.lt_trans hab hba) (Ascending.irrefl a.1)⟩
  have hirrefl : Std.Irrefl (fun a b : κ × β => compare a.1 b.1 = .lt) :=
    ⟨fun a => Ascending.irrefl a.1⟩
  apply List.Pairwise.eq_of_mem_iff m.ascending n.ascending
  rintro ⟨k, v⟩
  rw [← get?_eq_some_iff, h k, get?_eq_some_iff]

omit [Std.TransOrd κ] [Std.LawfulEqOrd κ] in
@[simp] theorem get?_empty (k : κ) : (empty : SortedMap κ β).get? k = none := rfl

theorem mem_insertEntry {k : κ} {v : β} {e : κ × β} {es : List (κ × β)}
    (h : es.Pairwise (fun a b => compare a.1 b.1 = .lt)) :
    e ∈ insertEntry k v es ↔ e = (k, v) ∨ e.1 ≠ k ∧ e ∈ es := by
  induction es with
  | nil => simp [insertEntry]
  | cons hd rest ih =>
    obtain ⟨l, w⟩ := hd
    obtain ⟨hl, hrest⟩ := List.pairwise_cons.1 h
    unfold insertEntry
    split
    · rename_i hlt
      have hfresh : ∀ f ∈ (l, w) :: rest, f.1 ≠ k := by
        intro f hf heq
        rcases List.mem_cons.1 hf with rfl | hf
        · exact absurd (heq ▸ hlt) (Ascending.irrefl _)
        · have htrans := Std.TransCmp.lt_trans hlt (hl f hf)
          exact absurd (heq ▸ htrans) (Ascending.irrefl _)
      rw [List.mem_cons]
      exact or_congr_right ⟨fun he => ⟨hfresh e he, he⟩, fun he => he.2⟩
    · rename_i heq
      have hkl : k = l := Std.LawfulEqCmp.eq_of_compare heq
      subst hkl
      have hfresh : ∀ f ∈ rest, f.1 ≠ k := fun f hf hfk =>
        absurd (hfk ▸ hl f hf) (Ascending.irrefl _)
      rw [List.mem_cons, List.mem_cons]
      refine or_congr_right ⟨fun he => ⟨hfresh e he, .inr he⟩, fun he => ?_⟩
      exact he.2.resolve_left (fun hew => he.1 (by rw [hew]))
    · rename_i hgt
      have hne : l ≠ k := fun hlk => by
        rw [hlk, Std.ReflOrd.compare_self] at hgt
        cases hgt
      rw [List.mem_cons, List.mem_cons, ih hrest]
      constructor
      · rintro (rfl | rfl | he)
        · exact .inr ⟨hne, .inl rfl⟩
        · exact .inl rfl
        · exact .inr ⟨he.1, .inr he.2⟩
      · rintro (rfl | ⟨hek, rfl | he⟩)
        · exact .inr (.inl rfl)
        · exact .inl rfl
        · exact .inr (.inr ⟨hek, he⟩)

section Updates

variable [DecidableEq κ]

theorem get?_insert (m : SortedMap κ β) (k l : κ) (v : β) :
    (m.insert k v).get? l = if l = k then some v else m.get? l := by
  apply Option.ext
  intro w
  rw [get?_eq_some_iff]
  change (l, w) ∈ insertEntry k v m.entries ↔ _
  rw [mem_insertEntry m.ascending]
  by_cases hlk : l = k
  · simp [hlk, eq_comm]
  · simp [hlk, get?_eq_some_iff]

@[simp] theorem get?_insert_self (m : SortedMap κ β) (k : κ) (v : β) :
    (m.insert k v).get? k = some v := by
  rw [get?_insert, if_pos rfl]

theorem get?_insert_of_ne {k l : κ} (m : SortedMap κ β) (v : β) (h : l ≠ k) :
    (m.insert k v).get? l = m.get? l := by
  rw [get?_insert, if_neg h]

theorem get?_erase (m : SortedMap κ β) (k l : κ) :
    (m.erase k).get? l = if l = k then none else m.get? l := by
  apply Option.ext
  intro w
  rw [get?_eq_some_iff]
  change (l, w) ∈ m.entries.filter _ ↔ _
  rw [List.mem_filter, ← get?_eq_some_iff]
  by_cases hlk : l = k
  · simp [hlk, Std.ReflOrd.compare_self]
  · have hcmp : compare l k ≠ .eq := fun h => hlk (Std.LawfulEqCmp.eq_of_compare h)
    simp [hlk, hcmp]

theorem keys_insert_perm {m : SortedMap κ β} {k : κ} (v : β) (h : k ∉ m.keys) :
    (m.insert k v).keys.Perm (k :: m.keys) := by
  apply (List.perm_ext_iff_of_nodup (m.insert k v).ascending_keys.nodup
    (List.nodup_cons.2 ⟨h, m.ascending_keys.nodup⟩)).2
  intro l
  rw [List.mem_cons, mem_keys_iff, mem_keys_iff]
  by_cases hlk : l = k
  · simp [hlk]
  · simp [hlk, get?_insert_of_ne]

theorem mem_values_insert {m : SortedMap κ β} {k : κ} {v w : β} (h : k ∉ m.keys) :
    w ∈ (m.insert k v).values ↔ w = v ∨ w ∈ m.values := by
  rw [mem_values_iff, mem_values_iff]
  constructor
  · rintro ⟨l, hl⟩
    rw [get?_insert] at hl
    split at hl
    · exact .inl (Option.some.inj hl).symm
    · exact .inr ⟨l, hl⟩
  · rintro (rfl | ⟨l, hl⟩)
    · exact ⟨k, get?_insert_self m k w⟩
    · have hne : l ≠ k := by
        rintro rfl
        exact h (mem_keys_iff.2 ⟨w, hl⟩)
      exact ⟨l, by rw [get?_insert_of_ne m v hne, hl]⟩

end Updates

end SortedMap

end DnsReconcile
