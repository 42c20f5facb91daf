import DnsReconcile.Proofs.Observed
import DnsReconcile.Proofs.Progress

/-!
Plans that are applied without a failure.

Deletions come first, so what a creation finds in the zone are labels that stay.
The store refuses none of the corrections unless two of these clash, and if two
clash then the zone can never hold them all (`apply_plan_clean_iff`).
-/

namespace DnsReconcile

open Reconciler (indexed sides apexLabel LeavesApex AddsNameservers)

/-- The labels that a zone with some contents should have: those of the declared
records, that of the apex name servers if the provider adds them, and the stored
one if they are left as they are. -/
def Domain.FinalLabel (domain : Domain) (capabilities : Capabilities) (nameservers : List String)
    (stored : Contents) (l : Label) : Prop :=
  (∃ r ∈ domain.desiredRecords, r.label = l) ∨
    l = apexLabel domain.zone.text ∧ (AddsNameservers capabilities nameservers ∨
      LeavesApex domain.zone.text capabilities nameservers domain.desiredRecords ∧
        l ∈ stored.keys)

/-- Corrections that lead from the labels of a zone to the labels `L`. -/
structure LeadsTo (cs : List Correction) (stored : Contents) (L : Label → Prop) : Prop where
  found : ∀ c ∈ cs, c.label ∈ stored.keys ↔ c.kind ≠ .added
  wanted : ∀ c ∈ cs, L c.label ↔ c.kind ≠ .removed
  others : ∀ l, (∀ c ∈ cs, c.label ≠ l) → (L l ↔ l ∈ stored.keys)

section Plan

variable {domain : Domain} {capabilities : Capabilities} {nameservers : List String}
  {observed : List Record} {stored : Contents} {l : Label}

/-- Apart from labels that are left as they are, the final labels are those on
the desired side. -/
private theorem finalLabel_iff
    (h : ¬ (LeavesApex domain.zone.text capabilities nameservers domain.desiredRecords ∧
      l = apexLabel domain.zone.text)) :
    domain.FinalLabel capabilities nameservers stored l ↔ l ∈ (sides domain.zone.text
      capabilities nameservers domain.desiredRecords observed).1.map Record.label := by
  rw [Reconciler.mem_labels_desired]
  constructor
  · rintro (hdeclared | ⟨rfl, hadds | hleaves⟩)
    · exact .inl hdeclared
    · exact .inr ⟨rfl, hadds⟩
    · exact absurd ⟨hleaves.1, rfl⟩ h
  · exact Or.imp_right (And.imp_right .inl)

private theorem finalLabel_apex_iff
    (h : LeavesApex domain.zone.text capabilities nameservers domain.desiredRecords) :
    domain.FinalLabel capabilities nameservers stored (apexLabel domain.zone.text) ↔
      apexLabel domain.zone.text ∈ stored.keys := by
  constructor
  · rintro (⟨r, hr, hlabel⟩ | ⟨-, hadds | ⟨-, hmem⟩⟩)
    · exact absurd hlabel (h.1 r hr)
    · exact absurd hadds h.2
    · exact hmem
  · exact fun hmem => .inr ⟨rfl, .inr ⟨h, hmem⟩⟩

/-- A plan leads from the stored labels to the final ones of its domain. -/
theorem Correction.ExactPlan.leadsTo {cs : List Correction}
    (h : ExactPlan domain.zone.text
      (sides domain.zone.text capabilities nameservers domain.desiredRecords observed).1
      (sides domain.zone.text capabilities nameservers domain.desiredRecords observed).2
      capabilities cs)
    (hstored : ∀ l, (∃ r ∈ observed, r.label = l) ↔ l ∈ stored.keys) :
    LeadsTo cs stored (domain.FinalLabel capabilities nameservers stored) where
  found := by
    intro c hc
    rw [← h.mem_observed_iff hc, Reconciler.mem_labels_observed, hstored,
      and_iff_left (Reconciler.not_leavesApex_of_target h hc)]
  wanted := by
    intro c hc
    rw [← h.mem_desired_iff hc, finalLabel_iff (Reconciler.not_leavesApex_of_target h hc)]
  others := by
    intro l hl
    by_cases hleft : LeavesApex domain.zone.text capabilities nameservers domain.desiredRecords ∧
        l = apexLabel domain.zone.text
    · obtain ⟨hleaves, rfl⟩ := hleft
      exact finalLabel_apex_iff hleaves
    · rw [finalLabel_iff hleft, h.mem_iff_of_not_target hl, Reconciler.mem_labels_observed,
        hstored, and_iff_left hleft]

end Plan

section Labels

variable {zone : String} {cs : List Correction} {L : Label → Prop} {before now : Store}
  {stored contents : Contents} {A : Set Nat}

/-- Once all corrections are applied, the zone has the labels they lead to. -/
private theorem mem_keys_iff_of_all_applied (hleads : LeadsTo cs stored L)
    (hprogress : Progress zone cs before A now) (hstored : before.contents? zone = some stored)
    (hcontents : now.contents? zone = some contents) (hall : ∀ e ∈ indexed 0 cs, e.1 ∈ A)
    (l : Label) : l ∈ contents.keys ↔ L l := by
  by_cases htarget : ∃ e ∈ indexed 0 cs, e.2.label = l
  · obtain ⟨e, he, rfl⟩ := htarget
    rw [hprogress.mem_keys_of_applied hcontents he (hall e he),
      hleads.wanted e.2 (mem_of_mem_indexed he)]
  · have hfree : ∀ e ∈ indexed 0 cs, e.2.label ≠ l := fun e he heq => htarget ⟨e, he, heq⟩
    rw [hprogress.mem_keys_of_not_applied hstored hcontents (fun e he _ => hfree e he)]
    refine (hleads.others l (fun c hc => ?_)).symm
    obtain ⟨i, hi⟩ := exists_place hc
    exact hfree (i, c) hi

/-- Once all deletions are applied, the zone has no other labels than those the
corrections lead to. -/
private theorem final_of_mem_keys (hleads : LeadsTo cs stored L)
    (hprogress : Progress zone cs before A now) (hstored : before.contents? zone = some stored)
    (hcontents : now.contents? zone = some contents)
    (hdeleted : ∀ d ∈ indexed 0 cs, d.2.pass = .destructive → d.1 ∈ A) {l : Label}
    (hl : l ∈ contents.keys) : L l := by
  by_cases htarget : ∃ c ∈ cs, c.label = l
  · obtain ⟨c, hc, rfl⟩ := htarget
    rw [hleads.wanted c hc]
    intro hremoved
    obtain ⟨i, hi⟩ := exists_place hc
    have hA : i ∈ A := hdeleted (i, c) hi ((Correction.pass_eq_destructive_iff c).2 hremoved)
    exact (hprogress.mem_keys_of_applied hcontents hi hA).1 hl hremoved
  · have hfree : ∀ c ∈ cs, c.label ≠ l := fun c hc heq => htarget ⟨c, hc, heq⟩
    rw [hleads.others l hfree, ← hprogress.mem_keys_of_not_applied hstored hcontents
      (fun e he _ => hfree e.2 (mem_of_mem_indexed he))]
    exact hl

/-- If the final labels can share their names, a correction whose turn has come
is permitted. -/
private theorem permitted_of_progress (hseparate : Separate zone cs)
    (hleads : LeadsTo cs stored L) (hL : ¬ CnameShared L)
    (hprogress : Progress zone cs before A now) (hstored : before.contents? zone = some stored)
    (hcontents : now.contents? zone = some contents) {e : Nat × Correction}
    (he : e ∈ indexed 0 cs) (hA : e.1 ∉ A)
    (hdeleted : e.2.pass = .constructive →
      ∀ d ∈ indexed 0 cs, d.2.pass = .destructive → d.1 ∈ A) :
    e.2.operation.Permitted contents := by
  have hmem := mem_of_mem_indexed he
  have hfound : e.2.operation.label ∈ contents.keys ↔ e.2.kind ≠ .added := by
    rw [hprogress.mem_keys_of_not_applied hstored hcontents, ← hleads.found e.2 hmem]
    · rfl
    · intro f hf hfA hlabel
      obtain rfl := hseparate.eq_of_label_eq hf he hlabel
      exact hA hfA
  have hkind : e.2.kind = e.2.operation.action.kind := rfl
  unfold Operation.Permitted
  cases haction : e.2.operation.action with
  | update set => exact hfound.2 (by simp [hkind, haction, Action.kind])
  | delete => exact hfound.2 (by simp [hkind, haction, Action.kind])
  | create set =>
    have hadded : e.2.kind = .added := by rw [hkind, haction]; rfl
    refine ⟨fun hin => hfound.1 hin hadded, fun k hk hname => ?_⟩
    have hwrites : e.2.pass = .constructive :=
      (Correction.pass_eq_constructive_iff e.2).2 (by simp [hadded])
    have hown : L e.2.label := (hleads.wanted e.2 hmem).2 (by simp [hadded])
    have hother : L k := final_of_mem_keys hleads hprogress hstored hcontents (hdeleted hwrites) hk
    exact not_cnameShared_iff.1 hL _ _ hown hother hname.symm

end Labels

/-- When the turn of a correction that writes has come, all deletions of the plan
are in the passes before. -/
theorem Correction.ExactPlan.mem_passes_before {zone : String} {desired observed : List Record}
    {capabilities : Capabilities} {cs : List Correction}
    (h : ExactPlan zone desired observed capabilities cs)
    {before after : List (List (Nat × Correction))} {pass : List (Nat × Correction)}
    (hpasses : Reconciler.passes cs = before ++ pass :: after) {e d : Nat × Correction}
    (he : e ∈ pass) (hwrites : e.2.pass = .constructive) (hd : d ∈ indexed 0 cs)
    (hdeletes : d.2.pass = .destructive) : d ∈ before.flatten := by
  obtain ⟨ds, ws, rfl, hds, hws, -, -⟩ := h.order
  have hpairs : (indexed 0 (ds ++ ws)).Pairwise
      (fun a b => b.2.pass = .destructive → a.2.pass = .destructive) := by
    have hplan : (ds ++ ws).Pairwise
        (fun a b => b.pass = .destructive → a.pass = .destructive) := by
      refine List.pairwise_append.2 ⟨?_, ?_, fun a ha _ _ _ => hds a ha⟩
      · exact List.pairwise_of_forall_mem_list (fun a ha _ _ _ => hds a ha)
      · refine List.pairwise_of_forall_mem_list (fun _ _ b hb hdestructive => ?_)
        rw [hws b hb] at hdestructive
        cases hdestructive
    rw [← Reconciler.map_snd_indexed 0 (ds ++ ws)] at hplan
    exact List.pairwise_map.1 hplan
  rw [← Reconciler.flatten_passes, hpasses, List.flatten_append, List.flatten_cons] at hpairs hd
  have hnot : e.2.pass ≠ .destructive := by simp [hwrites]
  rcases List.mem_append.1 hd with hd | hd
  · exact hd
  · rcases List.mem_append.1 hd with hd | hd
    · have hpass : pass ∈ Reconciler.passes (ds ++ ws) := by simp [hpasses]
      have hsame := Reconciler.pass_eq_of_mem_passes hpass he hd
      exact absurd (hsame.trans hdeletes) hnot
    · have hlater := (List.pairwise_append.1 (List.pairwise_append.1 hpairs).2.1).2.2
      exact absurd (hlater e he d hd hdeletes) hnot

/-- A correction that the store permits is applied. -/
private theorem apply_of_permitted {nameservers : List String} {capabilities : Capabilities}
    {s : Store} {c : Correction} {m : Contents} (hm : s.contents? c.operation.zone = some m)
    (hpermitted : c.operation.Permitted m) :
    (c.apply { Store.provider nameservers with capabilities } s).1 = .ok () := by
  have hperform : s.perform c.operation =
      .ok (s.setContents c.operation.zone (c.operation.effect m)) :=
    Store.perform_eq_ok_iff.2 ⟨m, hm, hpermitted, rfl⟩
  have hresult : (c.apply { Store.provider nameservers with capabilities } s).1 =
      (Store.answer nameservers c.operation.call s).1.mapError c.failure := rfl
  rw [hresult, Store.answer_call, hperform]
  rfl

section Application

variable {r : Reconciler Store} {nameservers : List String} {capabilities : Capabilities}
  {zone : String} {desired observed : List Record} {cs : List Correction} {start : Store}
  {stored : Contents} {L : Label → Prop}

/-- If the final labels can share their names, the corrections of a plan succeed
one pass after the other. -/
private theorem succeeds_of_clean
    (hprovider : r.provider = { Store.provider nameservers with capabilities })
    (hexact : Correction.ExactPlan zone desired observed capabilities cs)
    (hstored : start.contents? zone = some stored) (hleads : LeadsTo cs stored L)
    (hclean : ¬ CnameShared L)
    (hkeeps : ∀ e ∈ indexed 0 cs, Keeps r.provider
      (fun A now => now.Coexists zone ∧ Progress zone cs start A now) (fun _ => True) e.1 e.2)
    {before after : List (List (Nat × Correction))} {pass : List (Nat × Correction)}
    (hpasses : Reconciler.passes cs = before ++ pass :: after) :
    ∀ e ∈ pass, Keeps r.provider (fun A now => (∀ d ∈ before.flatten, d.1 ∈ A) ∧
      now.Coexists zone ∧ Progress zone cs start A now) (· = .ok ()) e.1 e.2 := by
  intro e he
  have hmem : e ∈ indexed 0 cs := by
    rw [← Reconciler.flatten_passes, hpasses]
    simp [he]
  refine (hkeeps e hmem).succeeds (fun s => by rw [hprovider]; rfl) ?_
  rintro A now hA hbefore ⟨⟨m, hm, -⟩, hprogress⟩
  have hzone := hexact.separate.zone e.2 (mem_of_mem_indexed hmem)
  have hpermitted : e.2.operation.Permitted m :=
    permitted_of_progress hexact.separate hleads hclean hprogress hstored hm hmem hA
      (fun hwrites d hd hdeletes =>
        hbefore d (hexact.mem_passes_before hpasses he hwrites hd hdeletes))
  rw [hprovider]
  exact apply_of_permitted ((now.contents?_congr hzone).trans hm) hpermitted

/-- What comes of a plan that leads to the labels `L`: if it succeeds, these are
the labels of the zone, and no CNAME among them shares its name; and it succeeds
if none of them does. -/
theorem apply_of_leadsTo
    (hprovider : r.provider = { Store.provider nameservers with capabilities })
    (hexact : Correction.ExactPlan zone desired observed capabilities cs)
    (hleads : LeadsTo cs stored L) {s : Session Store}
    (hstored : s.provider.contents? zone = some stored)
    (hcoexist : ¬ CnameShared (· ∈ stored.keys)) (name : String) :
    ((r.apply name cs s).1.isSuccess = true →
      ¬ CnameShared L ∧ ∃ m, (r.apply name cs s).2.provider.contents? zone = some m ∧
        ∀ l, l ∈ m.keys ↔ L l) ∧
    (¬ CnameShared L → (r.apply name cs s).1.isSuccess = true) := by
  have hfronts : r.provider.Fronts nameservers id (Store.Coexists · zone) := by
    rw [hprovider]
    exact Store.fronts nameservers capabilities (fun c s h => h.answer nameservers c)
  have hkeeps : ∀ e ∈ indexed 0 cs, Keeps r.provider
      (fun A now => now.Coexists zone ∧ Progress zone cs s.provider A now) (fun _ => True)
      e.1 e.2 :=
    fun e he => keeps_progress hfronts hexact.separate s.provider he
  have hstart : s.provider.Coexists zone ∧ Progress zone cs s.provider ∅ s.provider :=
    ⟨⟨stored, hstored, Contents.coexist_iff.2 hcoexist⟩, .start _ _ _⟩
  constructor
  · intro hsuccess
    -- every correction is applied, and at no time do stored labels clash
    obtain ⟨stopped, journal, told, hran, -, -, ⟨m, hm, hclean⟩, hprogress⟩ :=
      r.apply_keeps hkeeps name hstart
    have hkeys := mem_keys_iff_of_all_applied hleads hprogress hstored hm
      (hran.applied_of_isSuccess hsuccess)
    have hsame : (· ∈ m.keys) = L := funext (fun l => propext (hkeys l))
    rw [Contents.coexist_iff, hsame] at hclean
    exact ⟨hclean, m, hm, hkeys⟩
  · intro hclean
    have hrun := r.apply_succeeds (fun _ _ _ hpasses =>
      succeeds_of_clean hprovider hexact hstored hleads hclean hkeeps hpasses) name hstart
    exact hrun.1

end Application

/-- Clean application. A plan for a zone that exists, in which no CNAME shares its
name and every set is served, succeeds and leaves the final labels in the zone
exactly if no CNAME among these shares its name, under any settings and in any
interleaving; and whenever it succeeds, these are the labels it leaves. -/
theorem apply_plan_clean_iff {r : Reconciler Store} {nameservers : List String}
    {capabilities : Capabilities}
    (hprovider : r.provider = { Store.provider nameservers with capabilities })
    {domain : Domain} {s planned applied : Session Store} {stored : Contents}
    (hstored : s.provider.contents? domain.zone.text = some stored)
    (hcoexist : ¬ CnameShared (· ∈ stored.keys)) (hserved : stored.Served)
    {cs : List Correction} (hplan : r.plan domain s = (.ok cs, planned)) (zone : String)
    {report : Report} (happly : r.apply zone cs planned = (report, applied)) :
    ((report.isSuccess = true ∧ ∃ m, applied.provider.contents? domain.zone.text = some m ∧
        ∀ l, l ∈ m.keys ↔ domain.FinalLabel capabilities nameservers stored l) ↔
      ¬ CnameShared (domain.FinalLabel capabilities nameservers stored)) ∧
    (report.isSuccess = true → ∃ m, applied.provider.contents? domain.zone.text = some m ∧
      ∀ l, l ∈ m.keys ↔ domain.FinalLabel capabilities nameservers stored l) := by
  have hfronts : r.provider.Fronts nameservers id (fun _ => True) := by
    rw [hprovider]
    exact Store.fronts nameservers capabilities (fun _ _ _ => trivial)
  have hcapabilities : r.provider.capabilities = capabilities := by rw [hprovider]
  obtain ⟨hcs, -, hview⟩ := hfronts.shows.reads_plan s.provider domain s trivial rfl
  rw [hplan, hcapabilities] at hcs
  rw [hplan] at hview
  change planned.provider = s.provider at hview
  obtain ⟨-, observed, hobserved, hcompute⟩ := Store.planned_eq_ok_iff.1 hcs.symm
  have hexact := Correction.ExactPlan.of_compute hcompute
  have hleads := hexact.leadsTo (fun l => Store.mem_observed_labels hstored hserved hobserved)
  rw [← hview] at hstored
  obtain ⟨hsuccess, hclean⟩ := apply_of_leadsTo hprovider hexact hleads hstored hcoexist zone
  rw [happly] at hsuccess hclean
  refine ⟨⟨fun h => (hsuccess h.1).1, fun h => ?_⟩, fun h => (hsuccess h).2⟩
  exact ⟨hclean h, (hsuccess (hclean h)).2⟩

private def aliasSets : Contents :=
  (SortedMap.empty.insert (.new "example.com" .ns)
    ⟨3600, [{ content := [.string "ns1.example.net"] }]⟩).insert (.new "www.example.com" .cname)
    ⟨300, [{ content := [.string "old.example.com"] }]⟩

private def aliasStore : Store := Store.empty.setContents "example.com" aliasSets

private def aliasReplaced : Domain :=
  { name := "example.com", records := [⟨"www", 300, .a ⟨1, 2, 3, 4⟩⟩] }

private def plainReconciler : Reconciler Store where
  provider := Store.provider []
  config := { maxParallel := 4 }
  scheduler := .virtualTime

private theorem served_aliasSets : aliasSets.Served := by
  have hall : ∀ e ∈ aliasSets.entries, ∃ member ∈ e.2.records, member.enabled = true := by
    decide +kernel
  exact fun l set hset => hall (l, set) (SortedMap.get?_eq_some_iff.1 hset)

private theorem clean_aliasReplaced :
    ¬ CnameShared (aliasReplaced.FinalLabel {} [] aliasSets) := by
  have hdeclared : ∀ r ∈ aliasReplaced.desiredRecords, r.label.type ≠ .cname := by decide +kernel
  rintro ⟨k, -, hk, -, -, hcname, -⟩
  rcases hk with ⟨r, hr, rfl⟩ | ⟨rfl, -⟩
  · exact hdeclared r hr hcname
  · cases hcname

/-- An alias gives way to an address, next to name servers that are left. -/
theorem apply_plan_clean_iff_alias_replaced :
    ∃ cs planned report applied m,
      plainReconciler.plan aliasReplaced (.start aliasStore) = (.ok cs, planned) ∧
      plainReconciler.apply "example.com." cs planned = (report, applied) ∧
      cs.length = 2 ∧ report.isSuccess = true ∧
      applied.provider.contents? aliasReplaced.zone.text = some m ∧
      ∀ l, l ∈ m.keys ↔ aliasReplaced.FinalLabel {} [] aliasSets l := by
  have hstored : aliasStore.contents? aliasReplaced.zone.text = some aliasSets := by
    rw [aliasStore, Store.contents?_setContents, if_pos (by decide +kernel)]
  have hcoexist : aliasSets.Coexist := by
    unfold Contents.Coexist
    decide +kernel
  have hlength : (plainReconciler.plan aliasReplaced (.start aliasStore)).1.toOption.map
      List.length = some 2 := by
    decide +kernel
  generalize hplan : plainReconciler.plan aliasReplaced (.start aliasStore) = first at hlength
  obtain ⟨result, planned⟩ := first
  cases result with
  | error e => cases hlength
  | ok cs =>
    generalize happly : plainReconciler.apply "example.com." cs planned = second
    obtain ⟨report, applied⟩ := second
    obtain ⟨hsuccess, m, hm, hkeys⟩ := (apply_plan_clean_iff rfl hstored
      (Contents.coexist_iff.1 hcoexist) served_aliasSets hplan "example.com." happly).1.2
      clean_aliasReplaced
    exact ⟨cs, planned, report, applied, m, rfl, happly, Option.some.inj hlength, hsuccess, hm,
      hkeys⟩

end DnsReconcile
