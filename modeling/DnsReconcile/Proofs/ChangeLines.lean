import Mathlib.Algebra.BigOperators.Group.Finset.Basic
import Mathlib.Data.List.Perm.Basic
import DnsReconcile.Proofs.Grouping

/-!
What becomes of the records of a modified label.

The records that only one side holds are first paired by their data. Such a pairing leaves
no data on both sides (`Paired`), which fixes how many pairs there are whatever their order
(`Paired.length_eq`). What is left over is paired in order, so that only the longer side has
records without a counterpart. Together this settles the difference of the two groups
(`exists_account`), and so does what every change of a label tells
(`Changeset.records_of_mem_diff`).
-/

namespace DnsReconcile

open scoped BigOperators

/-- The records of one list that are not in the other. -/
def onlyIn (rs others : List Record) : List Record := rs.filter (· ∉ others)

/-- How many records of two lists can be paired by their data: of each data as many as the
list has that has fewer of them. -/
def sharedData (removed added : List Record) : Nat :=
  ∑ d ∈ ((removed ++ added).map Record.data).toFinset,
    min ((removed.map Record.data).count d) ((added.map Record.data).count d)

/-- What becomes of the records of a label. The pairs are of a record that is no more and the
one that replaces it, which has the same data (`kept`) or other data (`changed`). -/
structure Account where
  kept : List (Record × Record)
  changed : List (Record × Record)
  deleted : List Record
  created : List Record

namespace Account

def replaced (a : Account) : List (Record × Record) := a.kept ++ a.changed

def removed (a : Account) : List Record := a.replaced.map Prod.fst ++ a.deleted

def added (a : Account) : List Record := a.replaced.map Prod.snd ++ a.created

def changes (a : Account) : List RecordChange :=
  a.replaced.map (fun p => .modify p.1 p.2) ++ a.deleted.map .delete ++ a.created.map .create

/-- The account settles the step from the group `old` of a label to the group `new`: it
removes what only `old` has, adds what only `new` has, and keeps as much data as it can. -/
structure Settles (a : Account) (old new : List Record) : Prop where
  removed : a.removed.Perm (onlyIn old new)
  added : a.added.Perm (onlyIn new old)
  oneSided : a.deleted = [] ∨ a.created = []
  kept : ∀ p ∈ a.kept, p.1.data = p.2.data
  changed : ∀ p ∈ a.changed, p.1.data ≠ p.2.data
  shared : a.kept.length = sharedData (onlyIn old new) (onlyIn new old)

theorem Settles.length_changes {a : Account} {old new : List Record} (h : a.Settles old new) :
    a.changes.length = max (onlyIn old new).length (onlyIn new old).length := by
  have hremoved := h.removed.length_eq
  have hadded := h.added.length_eq
  have hone : a.deleted.length = 0 ∨ a.created.length = 0 :=
    h.oneSided.imp (congrArg List.length) (congrArg List.length)
  simp only [Account.removed, Account.added, List.length_append, List.length_map]
    at hremoved hadded
  simp only [changes, List.length_append, List.length_map]
  omega

end Account

theorem takeWithData_eq_some {d : RecordData} {rs rest : List Record} {s : Record}
    (h : takeWithData d rs = some (s, rest)) : s.data = d ∧ (s :: rest).Perm rs := by
  induction rs generalizing rest with
  | nil => cases h
  | cons r rs ih =>
    rw [takeWithData] at h
    split at h
    · cases h
      exact ⟨‹_›, .refl _⟩
    · obtain ⟨⟨t, others⟩, ht, heq⟩ := Option.map_eq_some_iff.1 h
      cases heq
      obtain ⟨hdata, hperm⟩ := ih ht
      exact ⟨hdata, (List.Perm.swap r s others).trans (hperm.cons r)⟩

theorem takeWithData_eq_none {d : RecordData} {rs : List Record}
    (h : takeWithData d rs = none) : ∀ s ∈ rs, s.data ≠ d := by
  induction rs with
  | nil => simp
  | cons r rs ih =>
    rw [takeWithData] at h
    split at h
    · cases h
    · exact List.forall_mem_cons.2 ⟨‹_›, ih (Option.map_eq_none_iff.1 h)⟩

/-- Removed and added records in pairs that keep their data, with the records left over on
the two sides, which have no data in common. -/
structure Paired (removed added : List Record) (pairs : List (Record × Record))
    (removed' added' : List Record) : Prop where
  before : (pairs.map Prod.fst ++ removed').Perm removed
  after : (pairs.map Prod.snd ++ added').Perm added
  kept : ∀ p ∈ pairs, p.1.data = p.2.data
  apart : ∀ r ∈ removed', ∀ s ∈ added', r.data ≠ s.data

namespace Paired

variable {removed added removed' added' : List Record} {pairs : List (Record × Record)}

/-- One more removed record, which goes with an added one that has its data. -/
theorem pair {r s : Record} {others : List Record} (h : Paired removed others pairs removed' added')
    (hdata : s.data = r.data) (hadded : (s :: others).Perm added) :
    Paired (r :: removed) added ((r, s) :: pairs) removed' added' where
  before := h.before.cons r
  after := (h.after.cons s).trans hadded
  kept := List.forall_mem_cons.2 ⟨hdata.symm, h.kept⟩
  apart := h.apart

/-- One more removed record, whose data no added one has. -/
theorem leave {r : Record} (h : Paired removed added pairs removed' added')
    (hnone : ∀ s ∈ added, s.data ≠ r.data) :
    Paired (r :: removed) added pairs (r :: removed') added' where
  before := List.perm_middle.trans (h.before.cons r)
  after := h.after
  kept := h.kept
  apart := by
    refine List.forall_mem_cons.2 ⟨fun s hs => (hnone s ?_).symm, h.apart⟩
    exact h.after.subset (List.mem_append.2 (.inr hs))

/-- Of each data the side with fewer records has none left over. -/
private theorem min_count (h : Paired removed added pairs removed' added') (d : RecordData) :
    min ((removed.map Record.data).count d) ((added.map Record.data).count d) =
      ((pairs.map Prod.fst).map Record.data).count d := by
  have hbefore := (h.before.map Record.data).count_eq d
  have hafter := (h.after.map Record.data).count_eq d
  have hdata : (pairs.map Prod.snd).map Record.data = (pairs.map Prod.fst).map Record.data := by
    rw [List.map_map, List.map_map]
    exact List.map_congr_left (fun p hp => (h.kept p hp).symm)
  rw [List.map_append, List.count_append] at hbefore hafter
  rw [hdata] at hafter
  have hnone : (removed'.map Record.data).count d = 0 ∨ (added'.map Record.data).count d = 0 := by
    by_contra hboth
    rw [not_or, ← ne_eq, ← ne_eq, ← Nat.pos_iff_ne_zero, ← Nat.pos_iff_ne_zero, List.count_pos_iff,
      List.count_pos_iff] at hboth
    obtain ⟨r, hr, hrd⟩ := List.mem_map.1 hboth.1
    obtain ⟨s, hs, hsd⟩ := List.mem_map.1 hboth.2
    exact h.apart r hr s hs (hrd.trans hsd.symm)
  omega

/-- However the pairs were found, there are as many as there can be. -/
theorem length_eq (h : Paired removed added pairs removed' added') :
    pairs.length = sharedData removed added := by
  have hmem : ∀ d ∈ ((pairs.map Prod.fst).map Record.data : Multiset RecordData),
      d ∈ ((removed ++ added).map Record.data).toFinset := by
    intro d hd
    rw [List.mem_toFinset, List.map_append]
    have hpaired := (h.before.map Record.data).subset
    rw [List.map_append] at hpaired
    exact List.mem_append.2 (.inl (hpaired (List.mem_append.2 (.inl (Multiset.mem_coe.1 hd)))))
  have hsum := Multiset.sum_count_eq_card hmem
  simp only [Multiset.coe_count, Multiset.coe_card, List.length_map] at hsum
  rw [sharedData, Finset.sum_congr rfl (fun d _ => h.min_count d), hsum]

end Paired

theorem exists_paired (removed added : List Record) :
    ∃ pairs, (pairByData removed added).1 = pairs.map (fun p => .modify p.1 p.2) ∧
      Paired removed added pairs (pairByData removed added).2.1 (pairByData removed added).2.2 := by
  induction removed generalizing added with
  | nil => exact ⟨[], rfl, .refl _, .refl _, by simp, by simp [pairByData]⟩
  | cons r rest ih =>
    rw [pairByData]
    split
    · rename_i s others htaken
      obtain ⟨hdata, hadded⟩ := takeWithData_eq_some htaken
      obtain ⟨pairs, hpairs, hpaired⟩ := ih others
      exact ⟨(r, s) :: pairs, congrArg (List.cons _) hpairs, hpaired.pair hdata hadded⟩
    · rename_i hnone
      obtain ⟨pairs, hpairs, hpaired⟩ := ih added
      exact ⟨pairs, hpairs, hpaired.leave (takeWithData_eq_none hnone)⟩

theorem pairInOrder_eq (removed added : List Record) :
    pairInOrder removed added = (removed.zip added).map (fun p => .modify p.1 p.2) ++
      (removed.drop added.length).map .delete ++ (added.drop removed.length).map .create := by
  fun_induction pairInOrder removed added with
  | case1 r removed s added ih =>
    rw [ih]
    rfl
  | case2 removed => simp
  | case3 added => simp

/-- The pairs of two lists and what the longer one has left over are the two lists. -/
private theorem zip_sides (rs ss : List Record) :
    (rs.zip ss).map Prod.fst ++ rs.drop ss.length = rs ∧
      (rs.zip ss).map Prod.snd ++ ss.drop rs.length = ss := by
  induction rs generalizing ss with
  | nil => exact ⟨by simp, by simp⟩
  | cons r rs ih =>
    cases ss with
    | nil => exact ⟨by simp, by simp⟩
    | cons s ss =>
      obtain ⟨hleft, hright⟩ := ih ss
      exact ⟨congrArg (List.cons r) hleft, congrArg (List.cons s) hright⟩

/-- Pairing what a pairing by data leaves over settles the difference of two groups. -/
private theorem Paired.settles {old new removed added : List Record}
    {pairs : List (Record × Record)}
    (h : Paired (onlyIn old new) (onlyIn new old) pairs removed added) :
    Account.Settles ⟨pairs, removed.zip added, removed.drop added.length,
      added.drop removed.length⟩ old new := by
  obtain ⟨hleft, hright⟩ := zip_sides removed added
  constructor
  case removed =>
    rw [Account.removed, Account.replaced, List.map_append, List.append_assoc, hleft]
    exact h.before
  case added =>
    rw [Account.added, Account.replaced, List.map_append, List.append_assoc, hright]
    exact h.after
  case oneSided =>
    rw [List.drop_eq_nil_iff, List.drop_eq_nil_iff]
    exact Nat.le_total _ _
  case kept => exact h.kept
  case changed =>
    intro p hp
    obtain ⟨hr, hs⟩ := List.of_mem_zip hp
    exact h.apart _ hr _ hs
  case shared => exact h.length_eq

/-- What becomes of the records of a label settles the difference of its two groups. -/
theorem exists_account (old new : List Record) :
    ∃ a : Account, a.Settles old new ∧ describeModification old new = a.changes := by
  have honly : ∀ rs others : List Record, rs.filter (!others.contains ·) = onlyIn rs others := by
    intro rs others
    exact List.filter_congr (fun r _ => by simp)
  have hlines : describeModification old new =
      (pairByData (onlyIn old new) (onlyIn new old)).1 ++
        pairInOrder (pairByData (onlyIn old new) (onlyIn new old)).2.1
          (pairByData (onlyIn old new) (onlyIn new old)).2.2 := by
    rw [← honly, ← honly]
    rfl
  obtain ⟨pairs, hpairs, hpaired⟩ := exists_paired (onlyIn old new) (onlyIn new old)
  refine ⟨_, hpaired.settles, ?_⟩
  rw [hlines, hpairs, pairInOrder_eq, Account.changes, Account.replaced, List.map_append]
  simp only [List.append_assoc]

/-- Only a record that the other group has not is replaced, and only by one that its own
group had not. -/
theorem mem_onlyIn_of_modify {olds news : List Record} {old new : Record}
    (h : .modify old new ∈ describeModification olds news) :
    old ∈ onlyIn olds news ∧ new ∈ onlyIn news olds := by
  obtain ⟨a, hsettles, hchanges⟩ := exists_account olds news
  have hpair : (old, new) ∈ a.replaced := by
    rw [hchanges, Account.changes] at h
    simpa using h
  constructor
  · refine hsettles.removed.subset (List.mem_append_left _ ?_)
    exact List.mem_map_of_mem hpair
  · refine hsettles.added.subset (List.mem_append_left _ ?_)
    exact List.mem_map_of_mem hpair

theorem pairByData_nil (removed : List Record) : pairByData removed [] = ([], removed, []) := by
  induction removed with
  | nil => rfl
  | cons r rest ih =>
    rw [pairByData, takeWithData, ih]

/-- A label that only one side has is described from or to no records at all. -/
theorem Change.records_of_between {desired observed : Option (List Record)} {c : Change}
    (h : between desired observed = some c) :
    c.records = describeModification (observed.getD []) (desired.getD []) := by
  cases desired with
  | none =>
    cases observed with
    | none => cases h
    | some old =>
      cases h
      simp [describeModification, pairByData_nil, pairInOrder_eq]
  | some new =>
    cases observed with
    | none =>
      cases h
      simp [describeModification, pairByData, pairInOrder_eq]
    | some old =>
      rw [between] at h
      split at h
      · cases h
        rfl
      · cases h

/-- Every change tells the step between what the two sides have at its label. -/
theorem Changeset.records_of_mem_diff {desired observed : List Record} {l : Label} {c : Change}
    (h : (l, c) ∈ (diff (.group desired) (.group observed)).changes) :
    c.records = describeModification (recordsAt l observed) (recordsAt l desired) := by
  rw [← Snapshot.members_group, ← Snapshot.members_group]
  exact Change.records_of_between (mem_diff.1 h)

private theorem onlyIn_eq_nil_iff {rs others : List Record} :
    onlyIn rs others = [] ↔ ∀ r ∈ rs, r ∈ others := by
  simp [onlyIn]

/-- Groups are equal exactly if neither has a record that the other has not. -/
theorem eq_iff_onlyIn {old new : List Record} (hold : Ascending old)
    (hnew : Ascending new) : old = new ↔ onlyIn old new = [] ∧ onlyIn new old = [] := by
  rw [onlyIn_eq_nil_iff, onlyIn_eq_nil_iff]
  constructor
  · rintro rfl
    exact ⟨fun r hr => hr, fun r hr => hr⟩
  · rintro ⟨hleft, hright⟩
    exact hold.eq_of_mem_iff hnew (fun r => ⟨hleft r, hright r⟩)

end DnsReconcile
