import Mathlib.Data.List.Induction
import Mathlib.Tactic.Tauto
import DnsReconcile.Changeset
import DnsReconcile.Proofs.Ascending

/-!
What grouping and comparing come to, label by label.

A snapshot has a group exactly at the labels that occur in the records, and the
group holds the records of that label in order, each once (`get?_group`). The
changes between two snapshots ascend by label and say at each label how its two
groups differ (`mem_diff`). Both statements speak of one label at a time, so
everything behind them can be proved label by label.
-/

namespace DnsReconcile

/-- The records of one label in ascending order, each once. -/
def recordsAt (l : Label) (rs : List Record) : List Record :=
  SortedList.ofList (rs.filter (fun r => r.label = l))

theorem mem_recordsAt {l : Label} {r : Record} {rs : List Record} :
    r ∈ recordsAt l rs ↔ r ∈ rs ∧ r.label = l := by
  rw [recordsAt, SortedList.mem_ofList, List.mem_filter, decide_eq_true_iff]

theorem recordsAt_ne_nil {l : Label} {rs : List Record} :
    recordsAt l rs ≠ [] ↔ ∃ r ∈ rs, r.label = l := by
  constructor
  · intro h
    obtain ⟨r, hr⟩ := List.exists_mem_of_ne_nil _ h
    exact ⟨r, mem_recordsAt.1 hr⟩
  · rintro ⟨r, hr⟩
    exact List.ne_nil_of_mem (mem_recordsAt.2 hr)

theorem recordsAt_eq_iff {l : Label} {rs ss : List Record} :
    recordsAt l rs = recordsAt l ss ↔ ∀ r, r.label = l → (r ∈ rs ↔ r ∈ ss) := by
  rw [recordsAt, recordsAt, SortedList.ofList_eq_iff]
  simp only [List.mem_filter, decide_eq_true_iff]
  exact forall_congr' (fun r => by tauto)

namespace Snapshot

theorem group_concat (rs : List Record) (r : Record) :
    group (rs ++ [r]) = (group rs).insert r := by
  simp [group, List.foldl_append]

private theorem recordsAt_concat (l : Label) (rs : List Record) (r : Record) :
    recordsAt l (rs ++ [r]) =
      if r.label = l then SortedList.insert r (recordsAt l rs) else recordsAt l rs := by
  unfold recordsAt
  rw [List.filter_append]
  split
  · rename_i h
    simp [h, SortedList.ofList, SortedList.insertAll, List.foldl_append]
  · rename_i h
    simp [h]

/-- The group at a label holds the records of that label, in order and each
once, and there is one exactly if such records exist. -/
theorem get?_group (rs : List Record) (l : Label) :
    (group rs).groups.get? l = if recordsAt l rs = [] then none else some (recordsAt l rs) := by
  induction rs using List.reverseRecOn with
  | nil => rfl
  | append_singleton rs r ih =>
    rw [group_concat, insert, SortedMap.get?_insert, recordsAt_concat]
    by_cases hl : l = r.label
    · subst hl
      have hmembers : (group rs).members r.label = recordsAt r.label rs := by
        rw [members, ih]
        split <;> simp_all
      have hne : SortedList.insert r (recordsAt r.label rs) ≠ [] :=
        List.ne_nil_of_mem (SortedList.mem_insert.2 (.inl rfl))
      rw [if_pos rfl, if_pos rfl, if_neg hne, hmembers]
    · have hlabel : ¬ r.label = l := fun h => hl h.symm
      rw [if_neg hl, ih]
      simp only [if_neg hlabel]

theorem members_group (rs : List Record) (l : Label) : (group rs).members l = recordsAt l rs := by
  rw [members, get?_group]
  split <;> simp_all

end Snapshot

namespace Changeset

/-- The changes name each label that has one, with what happened there. -/
theorem mem_diff {desired observed : Snapshot} {l : Label} {c : Change} :
    (l, c) ∈ (diff desired observed).changes ↔
      Change.between (desired.groups.get? l) (observed.groups.get? l) = some c := by
  unfold diff
  simp only [List.mem_filterMap, Option.map_eq_some_iff, Prod.mk.injEq]
  constructor
  · rintro ⟨m, _, d, hd, rfl, rfl⟩
    exact hd
  · intro h
    refine ⟨l, ?_, c, h, rfl, rfl⟩
    rw [unionLabels, SortedList.mem_insertAll, Snapshot.labels, Snapshot.labels]
    by_contra habsent
    have hd := SortedMap.get?_eq_none_iff.2 (fun hl => habsent (.inl hl))
    have ho := SortedMap.get?_eq_none_iff.2 (fun hl => habsent (.inr hl))
    rw [hd, ho] at h
    cases h

theorem ascending_diff (desired observed : Snapshot) :
    Ascending ((diff desired observed).changes.map (·.1)) := by
  have hunion : Ascending (unionLabels desired observed) :=
    SortedList.ascending_insertAll _ desired.groups.ascending_keys
  unfold diff Ascending
  rw [List.pairwise_map, List.pairwise_filterMap]
  refine hunion.imp (fun {l m} hlm => ?_)
  rintro ⟨l', c⟩ hl ⟨m', d⟩ hm
  obtain ⟨_, _, hl⟩ := Option.map_eq_some_iff.1 hl
  obtain ⟨_, _, hm⟩ := Option.map_eq_some_iff.1 hm
  cases hl
  cases hm
  exact hlm

/-- Changes are determined by what they say at each label. -/
theorem diff_changes_eq {desired observed : Snapshot} {es : List (Label × Change)}
    (hes : Ascending (es.map (·.1)))
    (h : ∀ l c, (l, c) ∈ es ↔
      Change.between (desired.groups.get? l) (observed.groups.get? l) = some c) :
    (diff desired observed).changes = es := by
  have hpair : ∀ fs : List (Label × Change), Ascending (fs.map (·.1)) →
      fs.Pairwise (fun a b => compare a.1 b.1 = .lt) := fun fs hfs => List.pairwise_map.1 hfs
  have hanti : Std.Antisymm (fun a b : Label × Change => compare a.1 b.1 = .lt) :=
    ⟨fun a b hab hba => absurd (Std.TransCmp.lt_trans hab hba) (Ascending.irrefl a.1)⟩
  have hirrefl : Std.Irrefl (fun a b : Label × Change => compare a.1 b.1 = .lt) :=
    ⟨fun a => Ascending.irrefl a.1⟩
  apply List.Pairwise.eq_of_mem_iff (hpair _ (ascending_diff desired observed)) (hpair _ hes)
  rintro ⟨l, c⟩
  rw [mem_diff, h]

end Changeset

/-- When a label with some desired and some observed records changes in a way. -/
def ChangeKind.Applies : ChangeKind → List Record → List Record → Prop
  | .added, desired, observed => desired ≠ [] ∧ observed = []
  | .removed, desired, observed => desired = [] ∧ observed ≠ []
  | .modified, desired, observed => desired ≠ [] ∧ observed ≠ [] ∧ desired ≠ observed

namespace Change

/-- A label changes in exactly the way that its records on the two sides tell. -/
theorem between_group_kind {desired observed : List Record} {l : Label} {k : ChangeKind} :
    (∃ c, between ((Snapshot.group desired).groups.get? l)
        ((Snapshot.group observed).groups.get? l) = some c ∧ c.kind = k) ↔
      k.Applies (recordsAt l desired) (recordsAt l observed) := by
  rw [Snapshot.get?_group, Snapshot.get?_group]
  by_cases hd : recordsAt l desired = [] <;> by_cases ho : recordsAt l observed = []
  · cases k <;> simp [hd, ho, between, ChangeKind.Applies]
  · cases k <;> simp [hd, ho, between, ChangeKind.Applies]
  · cases k <;> simp [hd, ho, between, ChangeKind.Applies]
  · by_cases heq : recordsAt l desired = recordsAt l observed
    · cases k <;> simp [ho, heq, between, ChangeKind.Applies]
    · cases k <;> simp [hd, ho, heq, between, ChangeKind.Applies]

/-- A label on which both sides agree does not change, and any other does. -/
theorem between_group_eq_none {desired observed : List Record} {l : Label} :
    between ((Snapshot.group desired).groups.get? l)
      ((Snapshot.group observed).groups.get? l) = none ↔
      recordsAt l desired = recordsAt l observed := by
  rw [Snapshot.get?_group, Snapshot.get?_group]
  by_cases hd : recordsAt l desired = [] <;> by_cases ho : recordsAt l observed = []
  · simp [hd, ho, between]
  · simp [hd, ho, between, eq_comm]
  · simp [hd, ho, between]
  · simp [hd, ho, between]

end Change

end DnsReconcile
