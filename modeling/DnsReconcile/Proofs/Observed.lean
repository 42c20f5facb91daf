import DnsReconcile.Proofs.Observation
import DnsReconcile.Proofs.Planning

/-!
The records that are observed.

Which records are observed under a label depends on nothing but the record set
there (`mem_observed`), and a zone can be observed exactly if each of its sets can
be read (`observed_ok_iff`). The same is said of the two sides of a comparison
once the name servers are merged in: the observed side is told label by label
(`recordsAt_sides_observed`), and the desired one depends on what is observed
only through the time to live of the apex name servers (`sides_desired`).
-/

namespace DnsReconcile

theorem Content.type_of_read {type : RecordType} {content : List Json} {d : RecordData}
    (h : read type content = .ok d) : d.type = type := by
  unfold read at h
  split at h
  all_goals
    repeat obtain ⟨_, _, h⟩ := Except.bind_eq_ok_iff.1 h
    cases h
  all_goals rfl

namespace NativeSet

theorem label_of_mem_readMembers {zone name : String} {type : RecordType} {ttl : UInt32}
    {members : List NativeRecord} {rs : List Record}
    (h : readMembers zone name type ttl members = .ok rs) :
    ∀ r ∈ rs, r.label = .new name type ∧ r.ttl = ttl := by
  induction members generalizing rs with
  | nil =>
    cases h
    simp
  | cons m rest ih =>
    rw [readMembers] at h
    split at h
    · exact ih h
    · split at h
      · cases h
      · rename_i d hd
        obtain ⟨others, hothers, h⟩ := Except.bind_eq_ok_iff.1 h
        cases h
        have htype : (Record.new zone name ttl d).type = type :=
          d.type_canonical.trans (Content.type_of_read hd)
        refine List.forall_mem_cons.2 ⟨⟨?_, rfl⟩, ih hothers⟩
        rw [Record.label, htype]
        rfl

theorem readMembers_ne_nil {zone name : String} {type : RecordType} {ttl : UInt32}
    {members : List NativeRecord} {rs : List Record}
    (h : readMembers zone name type ttl members = .ok rs)
    (hserved : ∃ m ∈ members, m.enabled = true) : rs ≠ [] := by
  induction members generalizing rs with
  | nil => simp at hserved
  | cons m rest ih =>
    rw [readMembers] at h
    split at h
    · rename_i hdisabled
      apply ih h
      obtain ⟨n, hn, henabled⟩ := hserved
      rcases List.mem_cons.1 hn with rfl | hn
      · simp [henabled] at hdisabled
      · exact ⟨n, hn, henabled⟩
    · split at h
      · cases h
      · obtain ⟨others, -, h⟩ := Except.bind_eq_ok_iff.1 h
        cases h
        simp

/-- What is read from the set at a label carries that label and the time to live
of the set. -/
theorem label_of_mem_toRecords {zone : String} {l : Label} {set : NativeSet} {rs : List Record}
    (h : set.toRecords zone l.name.text l.type = .ok rs) :
    ∀ r ∈ rs, r.label = l ∧ r.ttl = set.ttl := by
  have hread := label_of_mem_readMembers h
  rw [Label.new, Name.ofString_text] at hread
  exact hread

end NativeSet

namespace Contents

/-- Every record set of the zone has a member that is served. -/
def Served (m : Contents) : Prop :=
  ∀ l set, m.get? l = some set → ∃ member ∈ set.records, member.enabled = true

theorem records_ok_iff {zone : String} {entries : List (Label × NativeSet)} :
    (∃ rs, records zone entries = .ok rs) ↔
      ∀ e ∈ entries, ∃ rs, e.2.toRecords zone e.1.name.text e.1.type = .ok rs := by
  induction entries with
  | nil => simp [records]
  | cons e rest ih =>
    obtain ⟨l, set⟩ := e
    rw [List.forall_mem_cons, ← ih]
    constructor
    · rintro ⟨rs, h⟩
      obtain ⟨own, hown, h⟩ := Except.bind_eq_ok_iff.1 h
      obtain ⟨others, hothers, -⟩ := Except.bind_eq_ok_iff.1 h
      exact ⟨⟨own, hown⟩, others, hothers⟩
    · rintro ⟨⟨own, hown⟩, others, hothers⟩
      refine ⟨own ++ others, ?_⟩
      rw [records, hown, hothers]
      rfl

theorem mem_records {zone : String} {entries : List (Label × NativeSet)} {rs : List Record}
    (h : records zone entries = .ok rs) {r : Record} :
    r ∈ rs ↔ ∃ e ∈ entries, ∃ own, e.2.toRecords zone e.1.name.text e.1.type = .ok own ∧
      r ∈ own := by
  induction entries generalizing rs with
  | nil =>
    cases h
    simp
  | cons e rest ih =>
    obtain ⟨l, set⟩ := e
    obtain ⟨own, hown, h⟩ := Except.bind_eq_ok_iff.1 h
    obtain ⟨others, hothers, h⟩ := Except.bind_eq_ok_iff.1 h
    cases h
    simp only [List.mem_append, List.mem_cons, ih hothers]
    constructor
    · rintro (hr | ⟨e, he, hr⟩)
      · exact ⟨(l, set), .inl rfl, own, hown, hr⟩
      · exact ⟨e, .inr he, hr⟩
    · rintro ⟨e, rfl | he, own', hown', hr⟩
      · rw [hown, Except.ok.injEq] at hown'
        exact .inl (hown' ▸ hr)
      · exact .inr ⟨e, he, own', hown', hr⟩

end Contents

namespace Store

variable {s : Store} {zone : String}

/-- A zone can be observed exactly if each of its sets can be read. -/
theorem observed_ok_iff :
    (∃ rs, s.observed zone = .ok rs) ↔
      ∀ l set, s.lookup zone l = some set →
        ∃ rs, set.toRecords zone l.name.text l.type = .ok rs := by
  unfold observed lookup
  cases s.contents? zone with
  | none => simp
  | some m =>
    simp only [Contents.records_ok_iff, Option.bind_some, SortedMap.get?_eq_some_iff]
    exact ⟨fun h l set he => h (l, set) he, fun h e he => h e.1 e.2 he⟩

/-- A record is observed exactly if it is read from the set at its label. -/
theorem mem_observed {rs : List Record} (h : s.observed zone = .ok rs) {r : Record} :
    r ∈ rs ↔ ∃ set own, s.lookup zone r.label = some set ∧
      set.toRecords zone r.name.text r.type = .ok own ∧ r ∈ own := by
  unfold observed at h
  unfold lookup
  cases hm : s.contents? zone with
  | none =>
    rw [hm] at h
    cases h
    simp
  | some m =>
    rw [hm] at h
    simp only [Option.bind_some, SortedMap.get?_eq_some_iff]
    rw [Contents.mem_records h]
    constructor
    · rintro ⟨⟨l, set⟩, he, own, hown, hr⟩
      obtain rfl : r.label = l := (NativeSet.label_of_mem_toRecords hown r hr).1
      exact ⟨set, own, he, hown, hr⟩
    · rintro ⟨set, own, he, hown, hr⟩
      exact ⟨(r.label, set), he, own, hown, hr⟩

/-- In a zone of sets that are served, the observed labels are the stored ones. -/
theorem mem_observed_labels {stored : Contents}
    (hstored : s.contents? zone = some stored) (hserved : stored.Served) {observed : List Record}
    (hobserved : s.observed zone = .ok observed) {l : Label} :
    (∃ r ∈ observed, r.label = l) ↔ l ∈ stored.keys := by
  have hlookup := lookup_of_contents hstored
  constructor
  · rintro ⟨r, hr, rfl⟩
    obtain ⟨set, -, hset, -⟩ := (mem_observed hobserved).1 hr
    exact SortedMap.mem_keys_iff.2 ⟨set, by rw [← hlookup, hset]⟩
  · intro hl
    obtain ⟨set, hset⟩ := SortedMap.mem_keys_iff.1 hl
    obtain ⟨own, hown⟩ := observed_ok_iff.1 ⟨observed, hobserved⟩ l set (by rw [hlookup, hset])
    obtain ⟨r, hr⟩ :=
      List.exists_mem_of_ne_nil own (NativeSet.readMembers_ne_nil hown (hserved l set hset))
    obtain rfl := (NativeSet.label_of_mem_toRecords hown r hr).1
    exact ⟨r, (mem_observed hobserved).2 ⟨set, own, by rw [hlookup, hset], hown, hr⟩, rfl⟩

/-- The records observed under one label have one time to live. -/
theorem ttl_of_mem_observed {rs : List Record} (h : s.observed zone = .ok rs) {r : Record}
    (hr : r ∈ rs) {set : NativeSet} (hset : s.lookup zone r.label = some set) :
    r.ttl = set.ttl := by
  obtain ⟨set', own, hset', hown, hmem⟩ := (mem_observed h).1 hr
  rw [hset, Option.some.injEq] at hset'
  subst hset'
  exact (NativeSet.label_of_mem_toRecords (l := r.label) hown r hmem).2

end Store

namespace Reconciler

variable {zone : String} {capabilities : Capabilities} {nameservers : List String}
  {desired observed later : List Record}

/-- The provider has name servers to add to a zone that declares none. -/
def AddsNameservers (capabilities : Capabilities) (nameservers : List String) : Prop :=
  nameservers ≠ [] ∧ capabilities.supports .ns = true

/-- The apex name servers are left as they are: neither the zone declares any nor
does the provider add them. -/
def LeavesApex (zone : String) (capabilities : Capabilities) (nameservers : List String)
    (desired : List Record) : Prop :=
  (∀ r ∈ desired, r.label ≠ apexLabel zone) ∧ ¬ AddsNameservers capabilities nameservers

/-- The time to live that is observed for the apex name servers. -/
def observedTtl (zone : String) (observed : List Record) : UInt32 :=
  ((observed.find? (fun r => r.label = apexLabel zone)).map (·.ttl)).getD apexTtl

theorem sides_of_declared (h : ∃ r ∈ desired, r.label = apexLabel zone) :
    sides zone capabilities nameservers desired observed = (desired, observed) := by
  have hany : desired.any (fun r => r.label = apexLabel zone) = true := by simpa using h
  rw [sides, if_pos hany]

theorem sides_of_adds (h : ∀ r ∈ desired, r.label ≠ apexLabel zone)
    (hadds : AddsNameservers capabilities nameservers) :
    sides zone capabilities nameservers desired observed =
      (desired ++ apexRecords zone (observedTtl zone observed) nameservers, observed) := by
  have hany : ¬ desired.any (fun r => r.label = apexLabel zone) = true := by simpa using h
  have hmerge : ¬ (nameservers.isEmpty || !capabilities.supports .ns) = true := by
    simpa [AddsNameservers] using hadds
  rw [sides, if_neg hany, mergeNameservers, if_neg hmerge]
  rfl

theorem sides_of_leaves (h : LeavesApex zone capabilities nameservers desired) :
    sides zone capabilities nameservers desired observed =
      (desired, observed.filter (fun r => !decide (r.label = apexLabel zone))) := by
  have hany : ¬ desired.any (fun r => r.label = apexLabel zone) = true := by simpa using h.1
  have hmerge : (nameservers.isEmpty || !capabilities.supports .ns) = true := by
    have hnone := h.2
    by_contra hmerge
    exact hnone (by simpa [AddsNameservers] using hmerge)
  rw [sides, if_neg hany, mergeNameservers, if_pos hmerge]

/-- A zone declares its apex name servers, or has those of its provider, or its
apex is left as it is. -/
theorem sides_cases (zone : String) (capabilities : Capabilities) (nameservers : List String)
    (desired : List Record) :
    (∃ r ∈ desired, r.label = apexLabel zone) ∨
      ((∀ r ∈ desired, r.label ≠ apexLabel zone) ∧ AddsNameservers capabilities nameservers) ∨
      LeavesApex zone capabilities nameservers desired := by
  by_cases hdeclared : ∃ r ∈ desired, r.label = apexLabel zone
  · exact .inl hdeclared
  · have hnone : ∀ r ∈ desired, r.label ≠ apexLabel zone :=
      fun r hr hapex => hdeclared ⟨r, hr, hapex⟩
    by_cases hadds : AddsNameservers capabilities nameservers
    · exact .inr (.inl ⟨hnone, hadds⟩)
    · exact .inr (.inr ⟨hnone, hadds⟩)

/-- The desired side depends on what is observed only through one number. -/
theorem sides_desired (h : (∀ r ∈ desired, r.label ≠ apexLabel zone) →
      AddsNameservers capabilities nameservers →
      observedTtl zone later = observedTtl zone observed) :
    (sides zone capabilities nameservers desired later).1 =
      (sides zone capabilities nameservers desired observed).1 := by
  rcases sides_cases zone capabilities nameservers desired with hdecl | ⟨hnone, hadds⟩ | hleaves
  · rw [sides_of_declared hdecl, sides_of_declared hdecl]
  · rw [sides_of_adds hnone hadds, sides_of_adds hnone hadds, h hnone hadds]
  · rw [sides_of_leaves hleaves, sides_of_leaves hleaves]

theorem mem_sides_desired {r : Record} :
    r ∈ (sides zone capabilities nameservers desired observed).1 ↔
      r ∈ desired ∨ (∀ r ∈ desired, r.label ≠ apexLabel zone) ∧
        AddsNameservers capabilities nameservers ∧
        ∃ ns ∈ nameservers, r = .new zone zone (observedTtl zone observed) (.ns ns) := by
  rcases sides_cases zone capabilities nameservers desired with hdecl | ⟨hnone, hadds⟩ | hleaves
  · have hno : ¬ ∀ r ∈ desired, r.label ≠ apexLabel zone := by
      obtain ⟨s, hs, hapex⟩ := hdecl
      exact fun hnone => hnone s hs hapex
    rw [sides_of_declared hdecl]
    exact ⟨.inl, fun h => h.resolve_right (fun h => hno h.1)⟩
  · rw [sides_of_adds hnone hadds]
    simp only [apexRecords, List.mem_append, List.mem_map]
    constructor
    · rintro (hr | ⟨ns, hns, rfl⟩)
      · exact .inl hr
      · exact .inr ⟨hnone, hadds, ns, hns, rfl⟩
    · rintro (hr | ⟨-, -, ns, hns, rfl⟩)
      · exact .inl hr
      · exact .inr ⟨ns, hns, rfl⟩
  · rw [sides_of_leaves hleaves]
    exact ⟨.inl, fun h => h.resolve_right (fun h => hleaves.2 h.2.1)⟩

theorem mem_sides_observed {r : Record} :
    r ∈ (sides zone capabilities nameservers desired observed).2 ↔
      r ∈ observed ∧
        ¬ (LeavesApex zone capabilities nameservers desired ∧ r.label = apexLabel zone) := by
  rcases sides_cases zone capabilities nameservers desired with hdecl | ⟨hnone, hadds⟩ | hleaves
  · obtain ⟨s, hs, hapex⟩ := hdecl
    rw [sides_of_declared ⟨s, hs, hapex⟩]
    exact ⟨fun hr => ⟨hr, fun h => h.1.1 s hs hapex⟩, fun h => h.1⟩
  · rw [sides_of_adds hnone hadds]
    exact ⟨fun hr => ⟨hr, fun h => h.1.2 hadds⟩, fun h => h.1⟩
  · rw [sides_of_leaves hleaves]
    simp [hleaves]

theorem mem_labels_desired {l : Label} :
    l ∈ (sides zone capabilities nameservers desired observed).1.map Record.label ↔
      (∃ r ∈ desired, r.label = l) ∨
        l = apexLabel zone ∧ AddsNameservers capabilities nameservers := by
  rw [List.mem_map]
  constructor
  · rintro ⟨r, hr, hlabel⟩
    rcases mem_sides_desired.1 hr with hr | ⟨-, hadds, ns, -, rfl⟩
    · exact .inl ⟨r, hr, hlabel⟩
    · exact .inr ⟨hlabel.symm, hadds⟩
  · rintro (⟨r, hr, hlabel⟩ | ⟨rfl, hadds⟩)
    · exact ⟨r, mem_sides_desired.2 (.inl hr), hlabel⟩
    · by_cases hdeclared : ∃ r ∈ desired, r.label = apexLabel zone
      · obtain ⟨r, hr, hlabel⟩ := hdeclared
        exact ⟨r, mem_sides_desired.2 (.inl hr), hlabel⟩
      · obtain ⟨ns, hns⟩ := List.exists_mem_of_ne_nil nameservers hadds.1
        have hnone : ∀ r ∈ desired, r.label ≠ apexLabel zone :=
          fun r hr hlabel => hdeclared ⟨r, hr, hlabel⟩
        exact ⟨_, mem_sides_desired.2 (.inr ⟨hnone, hadds, ns, hns, rfl⟩), rfl⟩

theorem mem_labels_observed {l : Label} :
    l ∈ (sides zone capabilities nameservers desired observed).2.map Record.label ↔
      (∃ r ∈ observed, r.label = l) ∧
        ¬ (LeavesApex zone capabilities nameservers desired ∧ l = apexLabel zone) := by
  simp only [List.mem_map, mem_sides_observed]
  constructor
  · rintro ⟨r, ⟨hr, hleft⟩, rfl⟩
    exact ⟨⟨r, hr, rfl⟩, hleft⟩
  · rintro ⟨⟨r, hr, rfl⟩, hleft⟩
    exact ⟨r, ⟨hr, hleft⟩, rfl⟩

/-- Labels that are observed alike are alike on the observed side. -/
theorem recordsAt_sides_observed {l : Label} (h : recordsAt l later = recordsAt l observed) :
    recordsAt l (sides zone capabilities nameservers desired later).2 =
      recordsAt l (sides zone capabilities nameservers desired observed).2 := by
  rw [recordsAt_eq_iff] at h ⊢
  intro r hr
  rw [mem_sides_observed, mem_sides_observed, h r hr]

theorem observedTtl_eq {ttl : UInt32} (hsome : ∃ r ∈ observed, r.label = apexLabel zone)
    (hall : ∀ r ∈ observed, r.label = apexLabel zone → r.ttl = ttl) :
    observedTtl zone observed = ttl := by
  unfold observedTtl
  cases hfind : observed.find? (fun r => r.label = apexLabel zone) with
  | none =>
    obtain ⟨r, hr, hapex⟩ := hsome
    exact absurd hapex (by simpa using List.find?_eq_none.1 hfind r hr)
  | some r =>
    exact hall r (List.mem_of_find?_eq_some hfind) (by simpa using List.find?_some hfind)

theorem observedTtl_eq_default (hnone : ∀ r ∈ observed, r.label ≠ apexLabel zone) :
    observedTtl zone observed = apexTtl := by
  have hfind : observed.find? (fun r => r.label = apexLabel zone) = none := by
    simpa [List.find?_eq_none] using hnone
  rw [observedTtl, hfind]
  rfl

/-- A label that a plan targets is not left as it is. -/
theorem not_leavesApex_of_target {cs : List Correction}
    (h : Correction.ExactPlan zone (sides zone capabilities nameservers desired observed).1
      (sides zone capabilities nameservers desired observed).2 capabilities cs)
    {c : Correction} (hc : c ∈ cs) :
    ¬ (LeavesApex zone capabilities nameservers desired ∧ c.label = apexLabel zone) := by
  rintro ⟨hleaves, hapex⟩
  have hkept : c.kind = .added := by
    by_contra hkind
    exact (mem_labels_observed.1 ((h.mem_observed_iff hc).2 hkind)).2 ⟨hleaves, hapex⟩
  have hdesired := (h.mem_desired_iff hc).2 (by simp [hkept])
  rcases mem_labels_desired.1 hdesired with ⟨r, hr, hlabel⟩ | ⟨-, hadds⟩
  · exact hleaves.1 r hr (hlabel.trans hapex)
  · exact hleaves.2 hadds

end Reconciler

end DnsReconcile
