import Mathlib.Data.List.Dedup
import DnsReconcile.Proofs.Planning

/-!
Snapshots as the one form of a set of records.

The snapshot of some records has ascending labels, and under each of them the records of
the label, in order and each once (`isFormOf_group`). It is the only snapshot of that form
(`IsFormOf.eq_group`), so two lists have the same snapshot exactly if they hold the same
records, and the plan for two lists does not depend on how either is listed
(`group_canonical`).
-/

namespace DnsReconcile

/-- The labels of a snapshot ascend, each has a group of records that carry it and ascend,
and all groups together list each of the records `rs` once. -/
structure Snapshot.IsFormOf (s : Snapshot) (rs : List Record) : Prop where
  labels : Ascending s.labels
  nonempty : ∀ l g, s.groups.get? l = some g → g ≠ []
  own : ∀ l g, s.groups.get? l = some g → ∀ r ∈ g, r.label = l
  ascending : ∀ l g, s.groups.get? l = some g → Ascending g
  records : s.records.Perm rs.dedup

namespace Snapshot

variable {s t : Snapshot} {rs xs ys : List Record} {r : Record} {l : Label}

theorem ext_groups (h : ∀ l, s.groups.get? l = t.groups.get? l) : s = t := by
  cases s
  cases t
  exact congrArg Snapshot.mk (SortedMap.ext_get? h)

theorem mem_records : r ∈ s.records ↔ ∃ l g, s.groups.get? l = some g ∧ r ∈ g := by
  simp only [records, List.mem_flatten, SortedMap.mem_values_iff]
  constructor
  · rintro ⟨g, ⟨l, hg⟩, hr⟩
    exact ⟨l, g, hg, hr⟩
  · rintro ⟨l, g, hg, hr⟩
    exact ⟨g, ⟨l, hg⟩, hr⟩

theorem get?_group_eq_some_iff {g : List Record} :
    (group rs).groups.get? l = some g ↔ g = recordsAt l rs ∧ g ≠ [] := by
  rw [get?_group]
  split
  · rename_i hnil
    constructor
    · intro h
      cases h
    · rintro ⟨rfl, hne⟩
      exact absurd hnil hne
  · rename_i hne
    rw [Option.some.injEq]
    constructor
    · rintro rfl
      exact ⟨rfl, hne⟩
    · rintro ⟨rfl, -⟩
      rfl

theorem mem_records_group : r ∈ (group rs).records ↔ r ∈ rs := by
  simp only [mem_records, get?_group_eq_some_iff]
  constructor
  · rintro ⟨l, _, ⟨rfl, -⟩, hr⟩
    exact (mem_recordsAt.1 hr).1
  · intro hr
    have hown : r ∈ recordsAt r.label rs := mem_recordsAt.2 ⟨hr, rfl⟩
    exact ⟨r.label, _, ⟨rfl, List.ne_nil_of_mem hown⟩, hown⟩

/-- No record stands twice in a snapshot whose groups have neither repetitions nor records
of other labels. -/
theorem nodup_records (hgroups : ∀ l g, s.groups.get? l = some g → g.Nodup)
    (hown : ∀ l g, s.groups.get? l = some g → ∀ r ∈ g, r.label = l) : s.records.Nodup := by
  have hentry : ∀ {e : Label × List Record}, e ∈ s.groups.entries →
      s.groups.get? e.1 = some e.2 := fun he => SortedMap.get?_eq_some_iff.2 he
  rw [records, List.nodup_flatten]
  constructor
  · intro g hg
    obtain ⟨l, hl⟩ := SortedMap.mem_values_iff.1 hg
    exact hgroups l g hl
  · unfold SortedMap.values
    rw [List.pairwise_map]
    refine s.groups.ascending.imp_of_mem (fun {a b} ha hb hlt => ?_)
    -- a record in both groups would carry both labels
    intro r hra hrb
    have hsame : a.1 = b.1 :=
      (hown a.1 a.2 (hentry ha) r hra).symm.trans (hown b.1 b.2 (hentry hb) r hrb)
    rw [hsame] at hlt
    exact Ascending.irrefl b.1 hlt

theorem isFormOf_group (rs : List Record) : (group rs).IsFormOf rs := by
  have hown : ∀ l g, (group rs).groups.get? l = some g → ∀ r ∈ g, r.label = l := by
    intro l g hg r hr
    obtain ⟨rfl, -⟩ := get?_group_eq_some_iff.1 hg
    exact (mem_recordsAt.1 hr).2
  have hascending : ∀ l g, (group rs).groups.get? l = some g → Ascending g := by
    intro l g hg
    obtain ⟨rfl, -⟩ := get?_group_eq_some_iff.1 hg
    exact SortedList.ascending_ofList _
  refine ⟨SortedMap.ascending_keys _, fun l g hg => (get?_group_eq_some_iff.1 hg).2, hown,
    hascending, ?_⟩
  have hnodup := nodup_records (fun l g hg => (hascending l g hg).nodup) hown
  refine (List.perm_ext_iff_of_nodup hnodup (List.nodup_dedup rs)).2 (fun r => ?_)
  rw [mem_records_group, List.mem_dedup]

/-- A snapshot of that form is the one that grouping gives. -/
theorem IsFormOf.eq_group (h : s.IsFormOf rs) : s = group rs := by
  have hmem : ∀ r, r ∈ s.records ↔ r ∈ rs := fun r => by
    rw [h.records.mem_iff, List.mem_dedup]
  have hgroup : ∀ l g, s.groups.get? l = some g → ∀ r, r ∈ g ↔ r ∈ recordsAt l rs := by
    intro l g hg r
    rw [mem_recordsAt, ← hmem, mem_records]
    constructor
    · intro hr
      exact ⟨⟨l, g, hg, hr⟩, h.own l g hg r hr⟩
    · rintro ⟨⟨k, g', hg', hr⟩, rfl⟩
      rw [h.own k g' hg' r hr, hg', Option.some.injEq] at hg
      exact hg ▸ hr
  apply ext_groups
  intro l
  cases hg : s.groups.get? l with
  | some g =>
    have hsame : g = recordsAt l rs :=
      (h.ascending l g hg).eq_of_mem_iff (SortedList.ascending_ofList _) (hgroup l g hg)
    exact (get?_group_eq_some_iff.2 ⟨hsame, h.nonempty l g hg⟩).symm
  | none =>
    cases hg' : (group rs).groups.get? l with
    | none => rfl
    | some g' =>
      obtain ⟨rfl, hne⟩ := get?_group_eq_some_iff.1 hg'
      obtain ⟨r, hr⟩ := List.exists_mem_of_ne_nil _ hne
      obtain ⟨hrs, rfl⟩ := mem_recordsAt.1 hr
      obtain ⟨k, g, hk, hrg⟩ := mem_records.1 ((hmem r).2 hrs)
      rw [h.own k g hk r hrg, hk] at hg
      cases hg

theorem group_eq_iff : group xs = group ys ↔ ∀ r, r ∈ xs ↔ r ∈ ys := by
  constructor
  · intro h r
    rw [← mem_records_group, h, mem_records_group]
  · intro h
    apply ext_groups
    intro l
    have hsame : recordsAt l xs = recordsAt l ys := recordsAt_eq_iff.2 (fun r _ => h r)
    rw [get?_group, get?_group, hsame]

end Snapshot

/-- The result of planning, an error as well, depends on nothing but which records the two
lists hold. -/
theorem Correction.compute_congr (zone : String) (capabilities : Capabilities)
    {desired desired' observed observed' : List Record}
    (hdesired : ∀ r, r ∈ desired ↔ r ∈ desired')
    (hobserved : ∀ r, r ∈ observed ↔ r ∈ observed') :
    compute zone desired observed capabilities = compute zone desired' observed' capabilities := by
  rw [compute, compute, Snapshot.group_eq_iff.2 hdesired, Snapshot.group_eq_iff.2 hobserved]

/-- Grouping is a canonical form. Two lists have one snapshot exactly if they hold the same
records; the snapshot of a list is the only one whose labels ascend and whose groups are
the ascending, nonempty groups of the records of each label; and a plan is the same for any
other listing of the records on either side, down to its messages and its error. -/
theorem Snapshot.group_canonical :
    (∀ xs ys : List Record, group xs = group ys ↔ ∀ r, r ∈ xs ↔ r ∈ ys) ∧
    (∀ (s : Snapshot) (rs : List Record), s.IsFormOf rs ↔ s = group rs) ∧
    ∀ (zone : String) (capabilities : Capabilities)
      (desired desired' observed observed' : List Record),
      (∀ r, r ∈ desired ↔ r ∈ desired') → (∀ r, r ∈ observed ↔ r ∈ observed') →
      Correction.compute zone desired observed capabilities =
        Correction.compute zone desired' observed' capabilities := by
  refine ⟨fun xs ys => group_eq_iff, fun s rs => ⟨IsFormOf.eq_group, ?_⟩, ?_⟩
  · rintro rfl
    exact isFormOf_group rs
  · intro zone capabilities desired desired' observed observed' hdesired hobserved
    exact Correction.compute_congr zone capabilities hdesired hobserved

private def listed : List Record :=
  [.new "example.com" "www.example.com" 300 (.a ⟨5, 6, 7, 8⟩),
    .new "example.com" "example.com" 300 (.mx 10 "mail.example.com"),
    .new "example.com" "www.example.com" 300 (.a ⟨1, 2, 3, 4⟩),
    .new "example.com" "WWW.example.com." 300 (.a ⟨5, 6, 7, 8⟩)]

private def relisted : List Record :=
  [.new "example.com" "www.example.com" 300 (.a ⟨1, 2, 3, 4⟩),
    .new "example.com" "www.example.com" 300 (.a ⟨5, 6, 7, 8⟩),
    .new "example.com" "example.com" 300 (.mx 10 "MAIL.example.com")]

/-- A name with two addresses and a mail exchange, listed in two ways. -/
theorem Snapshot.group_canonical_relisted :
    (∀ r, r ∈ listed ↔ r ∈ relisted) ∧ group listed = group relisted ∧
      Correction.compute "example.com" listed [] {} =
        Correction.compute "example.com" relisted [] {} ∧
      (Correction.compute "example.com" relisted [] {}).toOption.map List.length = some 2 := by
  have hsame : ∀ r, r ∈ listed ↔ r ∈ relisted := by
    have hleft : ∀ r ∈ listed, r ∈ relisted := by decide +kernel
    have hright : ∀ r ∈ relisted, r ∈ listed := by decide +kernel
    exact fun r => ⟨hleft r, hright r⟩
  exact ⟨hsame, (group_canonical.1 _ _).2 hsame,
    group_canonical.2.2 "example.com" {} _ _ _ _ hsame (fun _ => Iff.rfl), by decide +kernel⟩

end DnsReconcile
