import DnsReconcile.Proofs.Observed
import DnsReconcile.Proofs.Progress

/-!
Whether the verbs of a plan fit what the provider holds.

A plan is made from the records that are served, so a set without an enabled member
counts as absent, although it is listed. Updates and deletions always find their set.
A creation is planned for a set that is listed exactly if a desired label has one of
that kind, and then the store refuses it; in all other cases the only refusals that
an application can meet are those for types that cannot share a name
(`plan_verbs_fit_iff`).
-/

namespace DnsReconcile

open Reconciler (indexed sides apexLabel AddsNameservers)

/-- Members that are not served are no records, whatever their content. -/
private theorem NativeSet.readMembers_of_disabled {zone name : String} {type : RecordType}
    {ttl : UInt32} {members : List NativeRecord} (h : ∀ m ∈ members, m.enabled = false) :
    readMembers zone name type ttl members = .ok [] := by
  induction members with
  | nil => rfl
  | cons m rest ih =>
    obtain ⟨hm, hrest⟩ := List.forall_mem_cons.1 h
    rw [readMembers, hm]
    exact ih hrest

/-- Exactly the labels whose set has an enabled member are observed. -/
theorem Store.mem_observed_labels_iff {s : Store} {zone : String} {stored : Contents}
    (hstored : s.contents? zone = some stored) {observed : List Record}
    (hobserved : s.observed zone = .ok observed) {l : Label} :
    (∃ r ∈ observed, r.label = l) ↔
      ∃ set, stored.get? l = some set ∧ ∃ m ∈ set.records, m.enabled = true := by
  have hlookup := lookup_of_contents hstored
  constructor
  · rintro ⟨r, hr, rfl⟩
    obtain ⟨set, own, hset, hown, hmem⟩ := (mem_observed hobserved).1 hr
    refine ⟨set, by rw [← hlookup, hset], ?_⟩
    by_contra hnone
    have hdisabled : ∀ m ∈ set.records, m.enabled = false := by simpa using hnone
    rw [NativeSet.toRecords, NativeSet.readMembers_of_disabled hdisabled] at hown
    obtain rfl := Except.ok.inj hown
    cases hmem
  · rintro ⟨set, hset, hserved⟩
    obtain ⟨own, hown⟩ := observed_ok_iff.1 ⟨observed, hobserved⟩ l set (by rw [hlookup, hset])
    obtain ⟨r, hr⟩ := List.exists_mem_of_ne_nil own (NativeSet.readMembers_ne_nil hown hserved)
    obtain rfl := (NativeSet.label_of_mem_toRecords hown r hr).1
    exact ⟨r, (mem_observed hobserved).2 ⟨set, own, by rw [hlookup, hset], hown, hr⟩, rfl⟩

/-- The labels that are desired in a zone: those of the declared records, and that
of the apex name servers if the provider adds them. -/
def Domain.DesiredLabel (domain : Domain) (capabilities : Capabilities)
    (nameservers : List String) (l : Label) : Prop :=
  (∃ r ∈ domain.desiredRecords, r.label = l) ∨
    l = apexLabel domain.zone.text ∧ AddsNameservers capabilities nameservers

/-- Every set that is stored under a desired label has an enabled member. -/
def Domain.DesiredServed (domain : Domain) (capabilities : Capabilities)
    (nameservers : List String) (stored : Contents) : Prop :=
  ∀ l set, domain.DesiredLabel capabilities nameservers l → stored.get? l = some set →
    ∃ m ∈ set.records, m.enabled = true

section Plan

variable {domain : Domain} {capabilities : Capabilities} {nameservers : List String}
  {observed : List Record} {stored : Contents} {cs : List Correction} {c : Correction}

/-- A label is created exactly if no enabled member is stored under it. -/
private theorem kind_ne_added_iff
    (h : Correction.ExactPlan domain.zone.text
      (sides domain.zone.text capabilities nameservers domain.desiredRecords observed).1
      (sides domain.zone.text capabilities nameservers domain.desiredRecords observed).2
      capabilities cs)
    (hserved : ∀ l, (∃ r ∈ observed, r.label = l) ↔
      ∃ set, stored.get? l = some set ∧ ∃ m ∈ set.records, m.enabled = true)
    (hc : c ∈ cs) :
    c.kind ≠ .added ↔
      ∃ set, stored.get? c.label = some set ∧ ∃ m ∈ set.records, m.enabled = true := by
  rw [← h.mem_observed_iff hc, Reconciler.mem_labels_observed, hserved,
    and_iff_left (Reconciler.not_leavesApex_of_target h hc)]

/-- All creations are for labels that are not stored exactly if the desired labels
that are stored have something to serve. -/
private theorem creations_fit_iff
    (h : Correction.ExactPlan domain.zone.text
      (sides domain.zone.text capabilities nameservers domain.desiredRecords observed).1
      (sides domain.zone.text capabilities nameservers domain.desiredRecords observed).2
      capabilities cs)
    (hserved : ∀ l, (∃ r ∈ observed, r.label = l) ↔
      ∃ set, stored.get? l = some set ∧ ∃ m ∈ set.records, m.enabled = true) :
    (∀ c ∈ cs, c.kind = .added → c.label ∉ stored.keys) ↔
      domain.DesiredServed capabilities nameservers stored := by
  constructor
  · intro hfits l set hdesired hset
    by_contra hnone
    -- nothing is observed under the label, so the plan creates it
    have habsent : l ∉ (sides domain.zone.text capabilities nameservers domain.desiredRecords
        observed).2.map Record.label := by
      rw [Reconciler.mem_labels_observed, hserved]
      rintro ⟨⟨other, hother, hsome⟩, -⟩
      obtain rfl := Option.some.inj (hset.symm.trans hother)
      exact hnone hsome
    obtain ⟨c, hc, hkind, rfl⟩ :=
      Correction.mem_targets.1 ((h.creates l).2
        ⟨Reconciler.mem_labels_desired.2 hdesired, habsent⟩)
    exact hfits c hc hkind (SortedMap.mem_keys_iff.2 ⟨set, hset⟩)
  · intro hall c hc hkind hstored
    obtain ⟨set, hset⟩ := SortedMap.mem_keys_iff.1 hstored
    have hdesired : domain.DesiredLabel capabilities nameservers c.label :=
      Reconciler.mem_labels_desired.1 ((h.mem_desired_iff hc).2 (by simp [hkind]))
    exact (kind_ne_added_iff h hserved hc).2 ⟨set, hset, hall c.label set hdesired hset⟩ hkind

end Plan

/-- Contents that hold the labels that an operation expects refuse it only for
another type under its name. -/
theorem Operation.refusal?_of_fits {o : Operation} {m : Contents}
    (hfits : o.label ∈ m.keys ↔ o.action.kind ≠ .added) {e : Error}
    (h : o.refusal? m = some e) : ∃ k ∈ m.keys, k.name = o.label.name ∧ e = o.clashesWith k := by
  unfold refusal? at h
  cases haction : o.action with
  | create set =>
    rw [haction] at h hfits
    have habsent : o.label ∉ m.keys := by simpa [Action.kind] using hfits
    simp only [if_neg habsent, Option.map_eq_some_iff] at h
    obtain ⟨k, hk, rfl⟩ := h
    have hclash := List.find?_some hk
    simp only [Bool.and_eq_true, beq_iff_eq] at hclash
    exact ⟨k, List.mem_of_find?_eq_some hk, hclash.1, rfl⟩
  | update set =>
    rw [haction] at h hfits
    have hfound : o.label ∈ m.keys := by simpa [Action.kind] using hfits
    simp [hfound] at h
  | delete =>
    rw [haction] at h hfits
    have hfound : o.label ∈ m.keys := by simpa [Action.kind] using hfits
    simp [hfound] at h

section Application

variable {r : Reconciler Store} {nameservers : List String} {capabilities : Capabilities}
  {zone : String} {cs : List Correction} {start : Store} {stored : Contents}

/-- The result is a success, or the refusal of a type beside another one. -/
private def AppliedOrClash (cs : List Correction) (result : Except Error Unit) : Prop :=
  ∀ e, result = .error e → ∃ c ∈ cs, ∃ k : Label, k.name = c.label.name ∧
    e = c.failure (c.operation.clashesWith k)

/-- Before its turn, the label of a correction is stored exactly if it was at the
start, so the attempt fails at most for another type under its name. -/
private theorem keeps_appliedOrClash
    (hprovider : r.provider = { Store.provider nameservers with capabilities })
    (hseparate : Separate zone cs) (hstored : start.contents? zone = some stored)
    (hfits : ∀ c ∈ cs, c.label ∈ stored.keys ↔ c.kind ≠ .added) {e : Nat × Correction}
    (he : e ∈ indexed 0 cs) :
    Keeps r.provider (fun A now => now.Hosts zone ∧ Progress zone cs start A now)
      (AppliedOrClash cs) e.1 e.2 := by
  have hfronts : r.provider.Fronts nameservers id (Store.Hosts · zone) := by
    rw [hprovider]
    exact Store.fronts nameservers capabilities (fun c s h => h.answer nameservers c)
  have hkeeps := keeps_progress hfronts hseparate start he
  have hmem := mem_of_mem_indexed he
  refine ⟨fun hi hinv hcrash => ?_, fun hi hinv happly => ?_, fun hi hinv happly => ?_⟩
  · rw [hfronts.alive _ _ hinv.1] at hcrash
    cases hcrash
  · refine ⟨?_, (hkeeps.success hi hinv happly).2⟩
    rintro err ⟨⟩
  · rename_i A now t err
    refine ⟨?_, (hkeeps.failure hi hinv happly).2⟩
    rintro _ ⟨⟩
    obtain ⟨⟨m, hm⟩, hprogress⟩ := hinv
    have hzone := hseparate.zone e.2 hmem
    rw [hprovider, Correction.apply_of_contents nameservers capabilities
      ((now.contents?_congr hzone).trans hm)] at happly
    have hnow : e.2.operation.label ∈ m.keys ↔ e.2.operation.action.kind ≠ .added := by
      rw [hprogress.mem_keys_of_not_applied hstored hm]
      · exact hfits e.2 hmem
      · intro f hf hfA hlabel
        obtain rfl := hseparate.eq_of_label_eq hf he hlabel
        exact hi hfA
    cases hrefusal : e.2.operation.refusal? m with
    | none =>
      rw [hrefusal] at happly
      cases happly
    | some cause =>
      obtain ⟨k, -, hname, rfl⟩ := Operation.refusal?_of_fits hnow hrefusal
      rw [hrefusal] at happly
      cases happly
      exact ⟨e.2, hmem, k, hname, rfl⟩

private theorem failures_clash
    (hprovider : r.provider = { Store.provider nameservers with capabilities })
    (hseparate : Separate zone cs) {s : Session Store}
    (hstored : s.provider.contents? zone = some stored)
    (hfits : ∀ c ∈ cs, c.label ∈ stored.keys ↔ c.kind ≠ .added) (name : String) :
    ∀ f ∈ (r.apply name cs s).1.failures, ∃ c ∈ cs, ∃ k : Label, k.name = c.label.name ∧
      f.error = (c.failure (c.operation.clashesWith k)).message := by
  obtain ⟨stopped, journal, told, hran, -, hresults, -⟩ := r.apply_keeps
    (fun _ he => keeps_appliedOrClash hprovider hseparate hstored hfits he) name
    ⟨⟨stored, hstored⟩, .start _ _ _⟩
  intro f hf
  rw [hran.failures] at hf
  obtain ⟨t, ht, hfailure⟩ := List.mem_filterMap.1 hf
  unfold Tried.failure? at hfailure
  split at hfailure
  · cases hfailure
  · rename_i e hresult
    obtain ⟨c, hc, k, hname, rfl⟩ := hresults t ht e hresult
    cases hfailure
    exact ⟨c, hc, k, hname, rfl⟩

end Application

/-- When planned verbs fit. Updates and deletions of a plan are always for sets that
the zone lists. Creations are all for sets that it does not list exactly if every
set that is stored under a desired label has an enabled member; a creation for a set
that is listed is refused. If all fit, then an application, under any settings and in
any interleaving, fails at most for types that cannot share a name. -/
theorem plan_verbs_fit_iff {r : Reconciler Store} {nameservers : List String}
    {capabilities : Capabilities}
    (hprovider : r.provider = { Store.provider nameservers with capabilities })
    {domain : Domain} {s planned applied : Session Store} {stored : Contents}
    (hstored : s.provider.contents? domain.zone.text = some stored)
    {cs : List Correction} (hplan : r.plan domain s = (.ok cs, planned)) (zone : String)
    {report : Report} (happly : r.apply zone cs planned = (report, applied)) :
    (∀ c ∈ cs, c.kind ≠ .added → c.label ∈ stored.keys) ∧
    ((∀ c ∈ cs, c.kind = .added → c.label ∉ stored.keys) ↔
      domain.DesiredServed capabilities nameservers stored) ∧
    (∀ c ∈ cs, c.kind = .added → c.label ∈ stored.keys →
      (c.apply r.provider planned.provider).1 = .error (c.failure c.operation.alreadyExists)) ∧
    (domain.DesiredServed capabilities nameservers stored → ∀ f ∈ report.failures,
      ∃ c ∈ cs, ∃ k : Label, k.name = c.label.name ∧
        f.error = (c.failure (c.operation.clashesWith k)).message) := by
  have hfronts : r.provider.Fronts nameservers id (fun _ => True) := by
    rw [hprovider]
    exact Store.fronts nameservers capabilities (fun _ _ _ => trivial)
  have hcapabilities : r.provider.capabilities = capabilities := by rw [hprovider]
  obtain ⟨hcs, -, hview⟩ := hfronts.shows.reads_plan s.provider domain s trivial rfl
  rw [hplan, hcapabilities] at hcs
  rw [hplan] at hview
  change planned.provider = s.provider at hview
  obtain ⟨-, observed, hobserved, hcompute⟩ := Store.planned_eq_ok_iff.1 hcs.symm
  have hexact := Correction.ExactPlan.of_compute hcompute
  have hserved := fun l => Store.mem_observed_labels_iff (l := l) hstored hobserved
  have hfound : ∀ c ∈ cs, c.kind ≠ .added → c.label ∈ stored.keys := by
    intro c hc hkind
    obtain ⟨set, hset, -⟩ := (kind_ne_added_iff hexact hserved hc).1 hkind
    exact SortedMap.mem_keys_iff.2 ⟨set, hset⟩
  have hcreations := creations_fit_iff hexact hserved
  rw [← hview] at hstored
  refine ⟨hfound, hcreations, fun c hc hkind hlisted => ?_, fun hdesired => ?_⟩
  · have hzone := planned.provider.contents?_congr (hexact.separate.zone c hc)
    rw [hprovider, Correction.apply_of_contents nameservers capabilities (hzone.trans hstored)]
    have hrefusal : c.operation.refusal? stored = some c.operation.alreadyExists := by
      unfold Operation.refusal?
      cases haction : c.operation.action with
      | create set => exact if_pos hlisted
      | update set => simp [Correction.kind, haction, Action.kind] at hkind
      | delete => simp [Correction.kind, haction, Action.kind] at hkind
    rw [hrefusal]
  · have hfits : ∀ c ∈ cs, c.label ∈ stored.keys ↔ c.kind ≠ .added :=
      fun c hc => ⟨fun hin hkind => hcreations.2 hdesired c hc hkind hin, hfound c hc⟩
    have hfailures := failures_clash hprovider hexact.separate hstored hfits zone
    rw [happly] at hfailures
    exact hfailures

private def addressSet (members : List (String × Bool)) : NativeSet :=
  ⟨300, members.map (fun m => { content := [.string m.1], enabled := m.2 })⟩

private def storeOf (stored : Contents) : Session Store :=
  .start (Store.empty.setContents "example.com" stored)

private def storeReconciler : Reconciler Store where
  provider := Store.provider []
  config := { failurePolicy := .keepGoing, maxParallel := 2 }
  scheduler := .virtualTime

private def partlyServed : Contents :=
  (SortedMap.empty.insert (.new "www.example.com" .a)
    (addressSet [("9.9.9.9", true), ("1.2.3.4", false)])).insert (.new "old.example.com" .a)
    (addressSet [("9.9.9.9", false)])

private def wwwWithAlias : Domain :=
  { name := "example.com"
    records := [⟨"www", 300, .a ⟨1, 2, 3, 4⟩⟩, ⟨"old", 300, .cname "www"⟩] }

private theorem desiredServed_partlyServed : wwwWithAlias.DesiredServed {} [] partlyServed := by
  have hall : ∀ r ∈ wwwWithAlias.desiredRecords, ∀ e ∈ partlyServed.entries, e.1 = r.label →
      ∃ m ∈ e.2.records, m.enabled = true := by
    decide +kernel
  rintro l set (⟨r, hr, rfl⟩ | ⟨-, hadds, -⟩) hset
  · exact hall r hr (r.label, set) (SortedMap.get?_eq_some_iff.1 hset) rfl
  · exact absurd rfl hadds

/-- A set that is served in part is updated, and the alias that is created fails for
the address next to it, of which nothing is served. -/
theorem plan_verbs_fit_iff_partly_served :
    ∃ cs planned report applied f,
      storeReconciler.plan wwwWithAlias (storeOf partlyServed) = (.ok cs, planned) ∧
      storeReconciler.apply "example.com." cs planned = (report, applied) ∧
      cs.map Correction.kind = [.added, .modified] ∧ report.applied = 1 ∧
      report.failures = [f] ∧ ∃ c ∈ cs, ∃ k : Label, k.name = c.label.name ∧
        f.error = (c.failure (c.operation.clashesWith k)).message := by
  have hstored : (storeOf partlyServed).provider.contents? wwwWithAlias.zone.text =
      some partlyServed := by
    rw [storeOf, Session.start, Store.contents?_setContents, if_pos (by decide +kernel)]
  have hkinds : (storeReconciler.plan wwwWithAlias (storeOf partlyServed)).1.toOption.map
      (List.map Correction.kind) = some [.added, .modified] := by
    decide +kernel
  have hreport : (storeReconciler.apply "example.com."
      ((storeReconciler.plan wwwWithAlias (storeOf partlyServed)).1.toOption.getD [])
      (storeReconciler.plan wwwWithAlias (storeOf partlyServed)).2).1.applied = 1 ∧
    (storeReconciler.apply "example.com."
      ((storeReconciler.plan wwwWithAlias (storeOf partlyServed)).1.toOption.getD [])
      (storeReconciler.plan wwwWithAlias (storeOf partlyServed)).2).1.failures.length = 1 := by
    decide +kernel
  generalize hplan : storeReconciler.plan wwwWithAlias (storeOf partlyServed) = first
    at hkinds hreport
  obtain ⟨result, planned⟩ := first
  cases result with
  | error e => cases hkinds
  | ok cs =>
    change (storeReconciler.apply "example.com." cs planned).1.applied = 1 ∧
      (storeReconciler.apply "example.com." cs planned).1.failures.length = 1 at hreport
    generalize happly : storeReconciler.apply "example.com." cs planned = second at hreport
    obtain ⟨report, applied⟩ := second
    obtain ⟨f, hf⟩ := List.length_eq_one_iff.1 hreport.2
    obtain ⟨-, -, -, hclash⟩ := plan_verbs_fit_iff rfl hstored hplan "example.com." happly
    exact ⟨cs, planned, report, applied, f, rfl, happly, Option.some.inj hkinds, hreport.1, hf,
      hclash desiredServed_partlyServed f (by rw [hf]; exact List.mem_singleton.2 rfl)⟩

private def switchedOff : Contents :=
  SortedMap.empty.insert (.new "www.example.com" .a) (addressSet [("1.2.3.4", false)])

private def wwwOnly : Domain :=
  { name := "example.com", records := [⟨"www", 300, .a ⟨1, 2, 3, 4⟩⟩] }

/-- A set whose members are all disabled is created anew, although it is listed, and
the store refuses that. -/
theorem plan_creates_listed_set :
    ∃ c planned, storeReconciler.plan wwwOnly (storeOf switchedOff) = (.ok [c], planned) ∧
      c.kind = .added ∧ c.label ∈ switchedOff.keys ∧
      (storeReconciler.apply "example.com." [c] planned).1.failures.map CorrectionFailure.error =
        ["Correction failed: CREATE www.example.com. 300 A 1.2.3.4: Provider error (memory): " ++
          "record set www.example.com. A already exists"] := by
  have hone : (storeReconciler.plan wwwOnly (storeOf switchedOff)).1.toOption.map
      (List.map (fun c => (c.kind, decide (c.label ∈ switchedOff.keys)))) =
        some [(.added, true)] := by
    decide +kernel
  have hrefused : (storeReconciler.apply "example.com."
      ((storeReconciler.plan wwwOnly (storeOf switchedOff)).1.toOption.getD [])
      (storeReconciler.plan wwwOnly (storeOf switchedOff)).2).1.failures.map
        CorrectionFailure.error =
      ["Correction failed: CREATE www.example.com. 300 A 1.2.3.4: Provider error (memory): " ++
        "record set www.example.com. A already exists"] := by
    decide +kernel
  generalize storeReconciler.plan wwwOnly (storeOf switchedOff) = first at hone hrefused ⊢
  obtain ⟨result, planned⟩ := first
  cases result with
  | error e => cases hone
  | ok cs =>
    obtain ⟨c, rfl, hc⟩ := List.map_eq_singleton_iff.1 (Option.some.inj hone)
    obtain ⟨hkind, hlisted⟩ := Prod.mk.inj hc
    exact ⟨c, planned, rfl, hkind, of_decide_eq_true hlisted, hrefused⟩

end DnsReconcile
