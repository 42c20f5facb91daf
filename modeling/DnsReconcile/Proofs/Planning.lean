import Mathlib.Data.List.Forall2
import DnsReconcile.Correction
import DnsReconcile.Proofs.Grouping

/-!
What a plan holds.

A plan is a correction for each change, in two passes: first the changes that
remove a label, then all others, each pass in the order of the changes
(`plan_eq_ok_iff`). Together with the label by label account of the changes this
says exactly what a plan for two lists of records does (`compute_exact`), and
when there is nothing to do (`compute_eq_nil_iff`).
-/

namespace DnsReconcile

def Action.kind : Action → ChangeKind
  | .create _ => .added
  | .update _ => .modified
  | .delete => .removed

section Forall₂

variable {α β : Type} {R : α → β → Prop} {as : List α} {bs : List β}

private theorem exists_mem_left (h : List.Forall₂ R as bs) {b : β} (hb : b ∈ bs) :
    ∃ a ∈ as, R a b := by
  induction h with
  | nil => cases hb
  | cons hab _ ih =>
    rcases List.mem_cons.1 hb with rfl | hb
    · exact ⟨_, List.mem_cons_self, hab⟩
    · obtain ⟨a, ha, hr⟩ := ih hb
      exact ⟨a, List.mem_cons_of_mem _ ha, hr⟩

private theorem exists_mem_right (h : List.Forall₂ R as bs) {a : α} (ha : a ∈ as) :
    ∃ b ∈ bs, R a b :=
  exists_mem_left h.flip ha

end Forall₂

namespace Correction

def label (c : Correction) : Label := c.operation.label

def kind (c : Correction) : ChangeKind := c.operation.action.kind

/-- The labels that corrections change in one way. -/
def targets (k : ChangeKind) (cs : List Correction) : List Label :=
  (cs.filter (fun c => c.kind = k)).map label

/-- The correction `c` carries out the change `e` of a label: it is addressed to
the label, of the kind of the change, and writes the desired records. -/
structure Corrects (zone : Name) (desired : Snapshot) (capabilities : Capabilities)
    (e : Label × Change) (c : Correction) : Prop where
  message : c.message = e.2.message
  zone : c.operation.zone = zone.text
  name : c.operation.name = e.1.name.text
  type : c.operation.type = e.1.type
  kind : c.kind = e.2.kind
  payload : ∀ set, c.operation.action.set? = some set →
    NativeSet.ofRecords capabilities (desired.members e.1) = .ok (some set)

section Corrects

variable {zone : Name} {desired : Snapshot} {capabilities : Capabilities}
  {e : Label × Change} {c : Correction}

theorem Corrects.label (h : Corrects zone desired capabilities e c) : c.label = e.1 := by
  unfold Correction.label Operation.label Label.new
  rw [h.name, h.type, Name.ofString_text]

/-- A removal is carried out by the deletion of its label and by nothing else. -/
theorem corrects_removed_iff (hk : e.2.kind = .removed) :
    Corrects zone desired capabilities e c ↔ c = deletion zone e.1 e.2 := by
  constructor
  · rintro ⟨hm, hz, hn, ht, hkind, -⟩
    obtain ⟨m, ⟨z, n, t, action⟩⟩ := c
    cases action with
    | delete => simp_all [deletion]
    | create set => simp [hk, Correction.kind, Action.kind] at hkind
    | update set => simp [hk, Correction.kind, Action.kind] at hkind
  · rintro rfl
    exact ⟨rfl, rfl, rfl, rfl, hk.symm, fun _ h => by cases h⟩

/-- Any other change is carried out by the one action of its kind, with the
desired records of its label. -/
theorem corrects_written_iff {action : NativeSet → Action}
    (hk : writing? e.2.kind = some action) :
    Corrects zone desired capabilities e c ↔
      ∃ set, NativeSet.ofRecords capabilities (desired.members e.1) = .ok (some set) ∧
        c = ⟨e.2.message, ⟨zone.text, e.1.name.text, e.1.type, action set⟩⟩ := by
  constructor
  · rintro ⟨hm, hz, hn, ht, hkind, hset⟩
    obtain ⟨m, ⟨z, n, t, a⟩⟩ := c
    cases hek : e.2.kind with
    | removed => simp [hek, writing?] at hk
    | added =>
      obtain rfl : Action.create = action := by simpa [hek, writing?] using hk
      cases a with
      | create set => exact ⟨set, hset set rfl, by simp_all⟩
      | update set => simp [hek, Correction.kind, Action.kind] at hkind
      | delete => simp [hek, Correction.kind, Action.kind] at hkind
    | modified =>
      obtain rfl : Action.update = action := by simpa [hek, writing?] using hk
      cases a with
      | create set => simp [hek, Correction.kind, Action.kind] at hkind
      | update set => exact ⟨set, hset set rfl, by simp_all⟩
      | delete => simp [hek, Correction.kind, Action.kind] at hkind
  · rintro ⟨set, hset, rfl⟩
    have hfields : (action set).kind = e.2.kind ∧ (action set).set? = some set := by
      cases hek : e.2.kind with
      | removed => simp [hek, writing?] at hk
      | added =>
        obtain rfl : Action.create = action := by simpa [hek, writing?] using hk
        exact ⟨rfl, rfl⟩
      | modified =>
        obtain rfl : Action.update = action := by simpa [hek, writing?] using hk
        exact ⟨rfl, rfl⟩
    refine ⟨rfl, rfl, rfl, rfl, hfields.1, fun other hother => ?_⟩
    have hsame : set = other := Option.some.inj (hfields.2.symm.trans hother)
    rw [← hsame]
    exact hset

end Corrects

def removes (e : Label × Change) : Bool := e.2.kind = .removed

variable {desired : Snapshot} {capabilities : Capabilities}

/-- The written part of a plan has one correction for each change that writes,
in their order. -/
theorem writes_eq_ok_iff {zone : Name} {es : List (Label × Change)} {cs : List Correction} :
    writes zone desired capabilities es = .ok cs ↔
      List.Forall₂ (Corrects zone desired capabilities) (es.filter (fun e => !removes e)) cs := by
  induction es generalizing cs with
  | nil =>
    simp only [writes, Except.ok.injEq, List.filter_nil, List.forall₂_nil_left_iff]
    exact eq_comm
  | cons e rest ih =>
    obtain ⟨l, c⟩ := e
    cases hw : writing? c.kind with
    | none =>
      have hr : removes (l, c) = true := by
        cases hk : c.kind <;> simp [hk, writing?] at hw
        simp [removes, hk]
      simp only [writes, hw, hr, List.filter_cons, Bool.not_true, Bool.false_eq_true, if_false]
      exact ih
    | some action =>
      have hr : removes (l, c) = false := by
        cases hk : c.kind <;> simp [hk, writing?] at hw <;> simp [removes, hk]
      simp only [writes, hw, hr, List.filter_cons, Bool.not_false, if_true,
        List.forall₂_cons_left_iff, corrects_written_iff (e := (l, c)) hw, ← ih]
      cases hset : NativeSet.ofRecords capabilities (desired.members l) with
      | error err => simp [bind, Except.bind]
      | ok set? =>
        cases set? with
        | none => simp [bind, Except.bind, throw, throwThe, MonadExceptOf.throw]
        | some set =>
          cases hrest : writes zone desired capabilities rest with
          | error err => simp [bind, Except.bind]
          | ok ws => simp [bind, Except.bind, pure, Except.pure, eq_comm]

theorem forall₂_deletions_iff {zone : Name} {es : List (Label × Change)} {ds : List Correction}
    (h : ∀ e ∈ es, removes e = true) :
    List.Forall₂ (Corrects zone desired capabilities) es ds ↔
      ds = es.map (fun e => deletion zone e.1 e.2) := by
  induction es generalizing ds with
  | nil => rw [List.forall₂_nil_left_iff, List.map_nil]
  | cons e rest ih =>
    have he : e.2.kind = .removed := by simpa [removes] using h e List.mem_cons_self
    have hrest : ∀ f ∈ rest, removes f = true := fun f hf => h f (List.mem_cons_of_mem _ hf)
    simp only [List.forall₂_cons_left_iff, List.map_cons, corrects_removed_iff he, ih hrest]
    constructor
    · rintro ⟨_, _, rfl, rfl, rfl⟩
      rfl
    · rintro rfl
      exact ⟨_, _, rfl, rfl, rfl⟩

/-- A plan has one correction for each change: those that remove labels stand
before all others, and otherwise the order is that of the changes. -/
theorem plan_eq_ok_iff {zone : String} {changes : Changeset} {cs : List Correction} :
    plan zone desired changes capabilities = .ok cs ↔
      ∃ ds ws, cs = ds ++ ws ∧
        List.Forall₂ (Corrects (.ofString zone) desired capabilities)
          (changes.changes.filter removes) ds ∧
        List.Forall₂ (Corrects (.ofString zone) desired capabilities)
          (changes.changes.filter (fun e => !removes e)) ws := by
  have hremoved : ∀ e ∈ changes.changes.filter removes, removes e = true :=
    fun e he => (List.mem_filter.1 he).2
  cases hw : writes (.ofString zone) desired capabilities changes.changes with
  | error err =>
    simp only [plan, hw, bind, Except.bind, reduceCtorEq, false_iff]
    rintro ⟨ds, ws, -, -, hws⟩
    rw [← writes_eq_ok_iff, hw] at hws
    cases hws
  | ok ws =>
    simp only [plan, hw, bind, Except.bind, pure, Except.pure, Except.ok.injEq]
    constructor
    · rintro rfl
      exact ⟨_, ws, rfl, (forall₂_deletions_iff hremoved).2 rfl, writes_eq_ok_iff.1 hw⟩
    · rintro ⟨ds, us, rfl, hds, hus⟩
      rw [← writes_eq_ok_iff, hw] at hus
      cases hus
      rw [(forall₂_deletions_iff hremoved).1 hds]
      rfl

/-- Every correction of a plan carries out a change, and every change is carried
out by a correction. -/
theorem mem_plan {zone : String} {changes : Changeset} {cs : List Correction}
    (h : plan zone desired changes capabilities = .ok cs) :
    (∀ c ∈ cs, ∃ e ∈ changes.changes, Corrects (.ofString zone) desired capabilities e c) ∧
      ∀ e ∈ changes.changes, ∃ c ∈ cs, Corrects (.ofString zone) desired capabilities e c := by
  obtain ⟨ds, ws, rfl, hds, hws⟩ := plan_eq_ok_iff.1 h
  constructor
  · intro c hc
    rcases List.mem_append.1 hc with hc | hc
    · obtain ⟨e, he, hec⟩ := exists_mem_left hds hc
      exact ⟨e, List.mem_of_mem_filter he, hec⟩
    · obtain ⟨e, he, hec⟩ := exists_mem_left hws hc
      exact ⟨e, List.mem_of_mem_filter he, hec⟩
  · intro e he
    cases hr : removes e with
    | true =>
      obtain ⟨c, hc, hec⟩ := exists_mem_right hds (List.mem_filter.2 ⟨he, hr⟩)
      exact ⟨c, List.mem_append.2 (.inl hc), hec⟩
    | false =>
      obtain ⟨c, hc, hec⟩ := exists_mem_right hws (List.mem_filter.2 ⟨he, by rw [hr]; rfl⟩)
      exact ⟨c, List.mem_append.2 (.inr hc), hec⟩

theorem labels_of_corrects {zone : Name} {es : List (Label × Change)} {cs : List Correction}
    (h : List.Forall₂ (Corrects zone desired capabilities) es cs) :
    cs.map label = es.map (·.1) := by
  induction h with
  | nil => rfl
  | cons hec _ ih => rw [List.map_cons, List.map_cons, hec.label, ih]

theorem pass_eq_destructive_iff (c : Correction) : c.pass = .destructive ↔ c.kind = .removed := by
  unfold pass kind
  cases c.operation.action <;> simp [Action.pass, Action.kind]

theorem pass_eq_constructive_iff (c : Correction) : c.pass = .constructive ↔ c.kind ≠ .removed := by
  unfold pass kind
  cases c.operation.action <;> simp [Action.pass, Action.kind]

/-- No label stands twice in a plan, deletions stand before everything else, and
labels ascend among the deletions and among all others. -/
theorem plan_order {zone : String} {observed : Snapshot} {cs : List Correction}
    (h : plan zone desired (.diff desired observed) capabilities = .ok cs) :
    (cs.map label).Nodup ∧
      ∃ ds ws, cs = ds ++ ws ∧
        (∀ c ∈ ds, c.pass = .destructive) ∧ (∀ c ∈ ws, c.pass = .constructive) ∧
        Ascending (ds.map label) ∧ Ascending (ws.map label) := by
  obtain ⟨ds, ws, rfl, hds, hws⟩ := plan_eq_ok_iff.1 h
  have hasc := Changeset.ascending_diff desired observed
  have hsub : ∀ p : Label × Change → Bool,
      Ascending (((Changeset.diff desired observed).changes.filter p).map (·.1)) :=
    fun p => hasc.sublist (List.filter_sublist.map _)
  refine ⟨?_, ds, ws, rfl, ?_, ?_, ?_, ?_⟩
  · rw [List.map_append, labels_of_corrects hds, labels_of_corrects hws, ← List.map_append]
    have hperm := List.filter_append_perm removes (Changeset.diff desired observed).changes
    exact (hperm.map (·.1)).nodup_iff.2 hasc.nodup
  · intro c hc
    obtain ⟨e, he, hec⟩ := exists_mem_left hds hc
    have hremoves := (List.mem_filter.1 he).2
    rw [pass_eq_destructive_iff, hec.kind]
    simpa [removes] using hremoves
  · intro c hc
    obtain ⟨e, he, hec⟩ := exists_mem_left hws hc
    have hkeeps := (List.mem_filter.1 he).2
    rw [pass_eq_constructive_iff, hec.kind]
    simpa [removes] using hkeeps
  · rw [labels_of_corrects hds]
    exact hsub _
  · rw [labels_of_corrects hws]
    exact hsub _

/-- Planning the changes between two lists of records is all that there is to
their comparison. -/
theorem compute_eq_plan (zone : String) (desired observed : List Record)
    (capabilities : Capabilities) :
    compute zone desired observed capabilities =
      plan zone (.group desired) (.diff (.group desired) (.group observed)) capabilities := by
  unfold compute
  simp only
  split
  · rename_i hempty
    have hnil : (Changeset.diff (.group desired) (.group observed)).changes = [] := by
      simpa [Changeset.isEmpty] using hempty
    refine (plan_eq_ok_iff.2 ⟨[], [], rfl, ?_, ?_⟩).symm
    · rw [hnil]
      exact .nil
    · rw [hnil]
      exact .nil
  · rfl

theorem mem_targets {k : ChangeKind} {cs : List Correction} {l : Label} :
    l ∈ targets k cs ↔ ∃ c ∈ cs, c.kind = k ∧ c.label = l := by
  simp only [targets, List.mem_map, List.mem_filter, decide_eq_true_iff, and_assoc]

/-- A plan for two lists of records targets a label in the way in which the
label changes. -/
theorem mem_targets_compute {zone : String} {desired observed : List Record}
    {cs : List Correction} (h : compute zone desired observed capabilities = .ok cs)
    (k : ChangeKind) (l : Label) :
    l ∈ targets k cs ↔ k.Applies (recordsAt l desired) (recordsAt l observed) := by
  rw [compute_eq_plan] at h
  obtain ⟨hleft, hright⟩ := mem_plan h
  rw [mem_targets, ← Change.between_group_kind]
  constructor
  · rintro ⟨c, hc, rfl, rfl⟩
    obtain ⟨⟨m, d⟩, he, hec⟩ := hleft c hc
    rw [hec.label, hec.kind]
    exact ⟨d, Changeset.mem_diff.1 he, rfl⟩
  · rintro ⟨d, hd, rfl⟩
    obtain ⟨c, hc, hec⟩ := hright (l, d) (Changeset.mem_diff.2 hd)
    exact ⟨c, hc, hec.kind, hec.label⟩

/-- There is nothing to correct exactly if both sides hold the same records. -/
theorem compute_eq_nil_iff {zone : String} {desired observed : List Record} :
    compute zone desired observed capabilities = .ok [] ↔
      ∀ r, r ∈ desired ↔ r ∈ observed := by
  have hagree : (∀ r, r ∈ desired ↔ r ∈ observed) ↔
      ∀ l, recordsAt l desired = recordsAt l observed := by
    simp only [recordsAt_eq_iff]
    exact ⟨fun h _ r _ => h r, fun h r => h r.label r rfl⟩
  rw [hagree]
  constructor
  · intro h l
    have hnone : ∀ k : ChangeKind, ¬ k.Applies (recordsAt l desired) (recordsAt l observed) :=
      fun k hk => by simpa [targets] using (mem_targets_compute h k l).2 hk
    by_contra hne
    by_cases hd : recordsAt l desired = []
    · exact hnone .removed ⟨hd, fun ho => hne (hd.trans ho.symm)⟩
    · by_cases ho : recordsAt l observed = []
      · exact hnone .added ⟨hd, ho⟩
      · exact hnone .modified ⟨hd, ho, hne⟩
  · intro h
    have hnil : (Changeset.diff (.group desired) (.group observed)).changes = [] := by
      apply List.eq_nil_iff_forall_not_mem.2
      rintro ⟨l, c⟩ hmem
      have hbetween := Changeset.mem_diff.1 hmem
      rw [Change.between_group_eq_none.2 (h l)] at hbetween
      cases hbetween
    simp [compute, Changeset.isEmpty, hnil]

/-- Once some labels are observed as they are desired, and all others as before,
the plan is what it was without the corrections of those labels. -/
theorem compute_filter {zone : String} {desired observed : List Record}
    {cs : List Correction} (h : compute zone desired observed capabilities = .ok cs)
    (later : List Record) (done : Label → Bool)
    (hdone : ∀ l, done l = true → recordsAt l later = recordsAt l desired)
    (hrest : ∀ l, done l = false → recordsAt l later = recordsAt l observed) :
    compute zone desired later capabilities = .ok (cs.filter (fun c => !done c.label)) := by
  have hchanges : (Changeset.diff (.group desired) (.group later)).changes =
      (Changeset.diff (.group desired) (.group observed)).changes.filter (fun e => !done e.1) := by
    have hasc := Changeset.ascending_diff (.group desired) (.group observed)
    apply Changeset.diff_changes_eq (hasc.sublist (List.filter_sublist.map _))
    intro l c
    rw [List.mem_filter, Changeset.mem_diff]
    cases hl : done l with
    | true => simp [Change.between_group_eq_none.2 (hdone l hl).symm]
    | false => simp [Snapshot.get?_group, hrest l hl]
  rw [compute_eq_plan] at h ⊢
  obtain ⟨ds, ws, rfl, hds, hws⟩ := plan_eq_ok_iff.1 h
  have hfilter : ∀ {es : List (Label × Change)} {cs : List Correction},
      List.Forall₂ (Corrects (.ofString zone) (.group desired) capabilities) es cs →
      List.Forall₂ (Corrects (.ofString zone) (.group desired) capabilities)
        (es.filter (fun e => !done e.1)) (cs.filter (fun c => !done c.label)) := by
    intro es cs hcs
    refine List.rel_filter (fun e c hec => ?_) hcs
    simp only [hec.label]
  refine plan_eq_ok_iff.2 ⟨_, _, List.filter_append .., ?_, ?_⟩
  · rw [hchanges, List.filter_filter, List.filter_congr (fun e _ => Bool.and_comm _ _),
      ← List.filter_filter]
    exact hfilter hds
  · rw [hchanges, List.filter_filter, List.filter_congr (fun e _ => Bool.and_comm _ _),
      ← List.filter_filter]
    exact hfilter hws

/-- What corrections do to a zone that is observed with some records and desired
with others: the labels that each kind of correction targets, the order of the
list, where it is addressed and what it writes. -/
structure ExactPlan (zone : String) (desired observed : List Record)
    (capabilities : Capabilities) (cs : List Correction) : Prop where
  /-- Deletions target the labels that are observed and not desired. -/
  deletes : ∀ l, l ∈ targets .removed cs ↔
    l ∈ observed.map Record.label ∧ l ∉ desired.map Record.label
  /-- Creations target the labels that are desired and not observed. -/
  creates : ∀ l, l ∈ targets .added cs ↔
    l ∈ desired.map Record.label ∧ l ∉ observed.map Record.label
  /-- Updates target the labels that both sides have with different records. -/
  updates : ∀ l, l ∈ targets .modified cs ↔
    l ∈ desired.map Record.label ∧ l ∈ observed.map Record.label ∧
      ¬ ∀ r, r.label = l → (r ∈ desired ↔ r ∈ observed)
  nodup : (cs.map label).Nodup
  /-- All deletions stand before all other corrections, and labels ascend
  strictly in either part. -/
  order : ∃ ds ws, cs = ds ++ ws ∧
    (∀ c ∈ ds, c.pass = .destructive) ∧ (∀ c ∈ ws, c.pass = .constructive) ∧
    Ascending (ds.map label) ∧ Ascending (ws.map label)
  zone : ∀ c ∈ cs, c.operation.zone = fqdn zone
  name : ∀ c ∈ cs, fqdn c.operation.name = c.operation.name
  /-- What is written is the native form of the desired records of the label, in
  order and each once. -/
  payload : ∀ c ∈ cs, ∀ set, c.operation.action.set? = some set →
    NativeSet.ofRecords capabilities (recordsAt c.label desired) = .ok (some set)

private theorem recordsAt_ne_nil_iff_mem {l : Label} {rs : List Record} :
    recordsAt l rs ≠ [] ↔ l ∈ rs.map Record.label := by
  rw [recordsAt_ne_nil, List.mem_map]

theorem ExactPlan.of_compute {zone : String} {desired observed : List Record}
    {capabilities : Capabilities} {cs : List Correction}
    (h : compute zone desired observed capabilities = .ok cs) :
    ExactPlan zone desired observed capabilities cs := by
  have hplan := h
  rw [compute_eq_plan] at hplan
  obtain ⟨hnodup, horder⟩ := plan_order hplan
  have hcorrects := (mem_plan hplan).1
  refine ⟨?_, ?_, ?_, hnodup, horder, ?_, ?_, ?_⟩
  · intro l
    rw [mem_targets_compute h, ChangeKind.Applies, ← recordsAt_ne_nil_iff_mem,
      ← recordsAt_ne_nil_iff_mem, not_not, and_comm]
  · intro l
    rw [mem_targets_compute h, ChangeKind.Applies, ← recordsAt_ne_nil_iff_mem,
      ← recordsAt_ne_nil_iff_mem, not_not]
  · intro l
    rw [mem_targets_compute h, ChangeKind.Applies, ← recordsAt_ne_nil_iff_mem,
      ← recordsAt_ne_nil_iff_mem, ← recordsAt_eq_iff]
  · intro c hc
    obtain ⟨e, _, hec⟩ := hcorrects c hc
    exact hec.zone
  · intro c hc
    obtain ⟨e, _, hec⟩ := hcorrects c hc
    rw [hec.name]
    exact e.1.name.canonical
  · intro c hc set hset
    obtain ⟨e, _, hec⟩ := hcorrects c hc
    rw [hec.label, ← Snapshot.members_group]
    exact hec.payload set hset

namespace ExactPlan

variable {zone : String} {desired observed : List Record} {cs : List Correction} {c : Correction}

/-- What a plan writes is desired, and what it deletes is not. -/
theorem mem_desired_iff (h : ExactPlan zone desired observed capabilities cs) (hc : c ∈ cs) :
    c.label ∈ desired.map Record.label ↔ c.kind ≠ .removed := by
  have htarget : c.label ∈ targets c.kind cs := mem_targets.2 ⟨c, hc, rfl, rfl⟩
  cases hkind : c.kind with
  | added =>
    rw [hkind] at htarget
    simpa using ((h.creates _).1 htarget).1
  | removed =>
    rw [hkind] at htarget
    simpa using ((h.deletes _).1 htarget).2
  | modified =>
    rw [hkind] at htarget
    simpa using ((h.updates _).1 htarget).1

/-- What a plan updates or deletes is observed, and what it creates is not. -/
theorem mem_observed_iff (h : ExactPlan zone desired observed capabilities cs) (hc : c ∈ cs) :
    c.label ∈ observed.map Record.label ↔ c.kind ≠ .added := by
  have htarget : c.label ∈ targets c.kind cs := mem_targets.2 ⟨c, hc, rfl, rfl⟩
  cases hkind : c.kind with
  | added =>
    rw [hkind] at htarget
    simpa using ((h.creates _).1 htarget).2
  | removed =>
    rw [hkind] at htarget
    simpa using ((h.deletes _).1 htarget).1
  | modified =>
    rw [hkind] at htarget
    simpa using ((h.updates _).1 htarget).2.1

/-- A label that no correction targets is on both sides or on neither. -/
theorem mem_iff_of_not_target (h : ExactPlan zone desired observed capabilities cs) {l : Label}
    (hl : ∀ c ∈ cs, c.label ≠ l) :
    l ∈ desired.map Record.label ↔ l ∈ observed.map Record.label := by
  have hnone : ∀ k, l ∉ targets k cs := by
    intro k htarget
    obtain ⟨c, hc, -, hlabel⟩ := mem_targets.1 htarget
    exact hl c hc hlabel
  constructor
  · intro hdesired
    by_contra hobserved
    exact hnone _ ((h.creates l).2 ⟨hdesired, hobserved⟩)
  · intro hobserved
    by_contra hdesired
    exact hnone _ ((h.deletes l).2 ⟨hobserved, hdesired⟩)

end ExactPlan

/-- A plan for two lists of records is exact, whatever the order of the lists
and their repetitions, and it is empty exactly if they hold the same records. -/
theorem compute_exact {zone : String} {desired observed : List Record}
    {capabilities : Capabilities} {cs : List Correction}
    (h : compute zone desired observed capabilities = .ok cs) :
    ExactPlan zone desired observed capabilities cs ∧
      (cs = [] ↔ ∀ r, r ∈ desired ↔ r ∈ observed) := by
  refine ⟨.of_compute h, ?_⟩
  have hnil : compute zone desired observed capabilities = .ok [] ↔ _ := compute_eq_nil_iff
  rw [← hnil, h, Except.ok.injEq]

private def wwwDesired : List Record :=
  [.new "example.com" "WWW.example.com" 300 (.a ⟨1, 2, 3, 4⟩),
    .new "example.com" "mail.example.com" 300 (.mx 20 "mx2"),
    .new "example.com" "mail.example.com" 300 (.mx 10 "mx1"),
    .new "example.com" "mail.example.com." 300 (.mx 20 "MX2.")]

private def wwwObserved : List Record :=
  [.new "example.com" "www.example.com" 300 (.cname "old.example.com"),
    .new "example.com" "mail.example.com" 300 (.mx 20 "mx2")]

/-- A name that changes its type next to a set that gains a record. -/
theorem compute_exact_type_change :
    ∃ cs, compute "example.com" wwwDesired wwwObserved {} = .ok cs ∧ cs.length = 3 ∧
      ExactPlan "example.com" wwwDesired wwwObserved {} cs := by
  have hlength : (compute "example.com" wwwDesired wwwObserved {}).toOption.map List.length =
      some 3 := by decide +kernel
  cases h : compute "example.com" wwwDesired wwwObserved {} with
  | error err =>
    rw [h] at hlength
    cases hlength
  | ok cs =>
    rw [h] at hlength
    exact ⟨cs, rfl, Option.some.inj hlength, (compute_exact h).1⟩

end Correction

end DnsReconcile
