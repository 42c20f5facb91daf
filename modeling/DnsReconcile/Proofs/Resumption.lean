import DnsReconcile.Proofs.Observed
import DnsReconcile.Proofs.Progress
import DnsReconcile.Proofs.RoundTrip

/-!
Planning again after an application.

Corrections that were applied are observed as they were desired, and all other
labels as before; even the time to live of the apex name servers, which is read
back from what is observed, stays what it was. So a second plan is the first one
without the corrections that were applied (`planned_of_progress`), whichever they
are and in whatever order they reached the store (`plan_apply_plan`).
-/

namespace DnsReconcile

open Reconciler (indexed sides apexLabel observedTtl)

variable {σ : Type}

/-- The corrections of a list that are not at one of the given places, in their
order. -/
def leftOver (places : List Nat) (cs : List Correction) : List Correction :=
  ((indexed 0 cs).filter (fun e => e.1 ∉ places)).map (·.2)

private theorem leftOver_eq_filter {zone : String} {cs : List Correction} (h : Separate zone cs)
    (places : List Nat) :
    leftOver places cs = cs.filter (fun c =>
      !decide (∃ e ∈ indexed 0 cs, e.1 ∈ places ∧ e.2.label = c.label)) := by
  have hsplit := List.filter_map (l := indexed 0 cs) (f := (·.2)) (p := fun c =>
    !decide (∃ e ∈ indexed 0 cs, e.1 ∈ places ∧ e.2.label = c.label))
  rw [Reconciler.map_snd_indexed] at hsplit
  rw [hsplit, leftOver]
  congr 1
  apply List.filter_congr
  intro e he
  rw [Function.comp_apply, ← decide_not, decide_eq_decide, not_iff_not]
  constructor
  · exact fun hplace => ⟨e, he, hplace, rfl⟩
  · rintro ⟨f, hf, hplace, hlabel⟩
    rwa [h.eq_of_label_eq hf he hlabel] at hplace

theorem zone_of_mem_desiredRecords {domain : Domain} {r : Record}
    (hr : r ∈ domain.desiredRecords) : r.zone = .ofString domain.zone.text := by
  obtain ⟨d, _, rfl⟩ := List.mem_map.1 hr
  exact (Name.ofString_text domain.zone).symm

/-- All desired records can be read back, those for the name servers included. -/
private theorem readable_of_mem_sides {nameservers : List String} (capabilities : Capabilities)
    {domain : Domain} (hhosts : ∀ r ∈ domain.desiredRecords, r.data.NoBlankBeforeDot)
    (hservers : ∀ ns ∈ nameservers, blankBeforeDot (fqdn ns) = false) (observed : List Record) :
    ∀ r ∈ (sides domain.zone.text capabilities nameservers domain.desiredRecords observed).1,
      r.zone = .ofString domain.zone.text ∧ r.data.NoBlankBeforeDot := by
  intro r hr
  rcases Reconciler.mem_sides_desired.1 hr with hr | ⟨-, -, ns, hns, rfl⟩
  · exact ⟨zone_of_mem_desiredRecords hr, hhosts r hr⟩
  · refine ⟨rfl, fun host hhost => ?_⟩
    obtain rfl : fqdn ns = host := Option.some.inj hhost
    exact hservers ns hns

section Labels

variable {zone : String} {capabilities : Capabilities} {desired compared : List Record}
  {cs : List Correction} {before now : Store} {A : Set Nat} {observed later : List Record}
  {e : Nat × Correction}

/-- What an applied correction left under its label is read as the desired
records of the label. -/
private theorem lookup_of_applied
    (hexact : Correction.ExactPlan zone desired compared capabilities cs)
    (hreadable : ∀ r ∈ desired, r.zone = .ofString zone ∧ r.data.NoBlankBeforeDot)
    (hprogress : Progress zone cs before A now) (he : e ∈ indexed 0 cs) (hA : e.1 ∈ A) :
    match now.lookup zone e.2.label with
    | none => recordsAt e.2.label desired = []
    | some set => set.toRecords zone e.2.label.name.text e.2.label.type =
        .ok (recordsAt e.2.label desired) := by
  have hmem := mem_of_mem_indexed he
  rw [hprogress.done e he hA]
  cases hset : e.2.operation.action.set? with
  | none =>
    have hkind : e.2.kind = .removed := by
      unfold Correction.kind
      cases haction : e.2.operation.action <;> simp [haction, Action.set?, Action.kind] at hset ⊢
    have htarget := (hexact.deletes e.2.label).1 (Correction.mem_targets.2 ⟨e.2, hmem, hkind, rfl⟩)
    by_contra hne
    obtain ⟨r, hr, hlabel⟩ := recordsAt_ne_nil.1 hne
    exact htarget.2 (List.mem_map.2 ⟨r, hr, hlabel⟩)
  | some set =>
    refine (NativeSet.toRecords_of_ofRecords (hexact.payload e.2 hmem set hset) ?_ ?_ ?_).1
    · exact fun r hr => (hreadable r (mem_recordsAt.1 hr).1).1
    · exact fun r hr => (mem_recordsAt.1 hr).2
    · exact fun r hr => (hreadable r (mem_recordsAt.1 hr).1).2

/-- A zone that could be observed can be observed again. -/
private theorem exists_later
    (hexact : Correction.ExactPlan zone desired compared capabilities cs)
    (hreadable : ∀ r ∈ desired, r.zone = .ofString zone ∧ r.data.NoBlankBeforeDot)
    (hprogress : Progress zone cs before A now)
    (hobserved : before.observed zone = .ok observed) :
    ∃ later, now.observed zone = .ok later := by
  rw [Store.observed_ok_iff]
  intro l set hset
  by_cases htarget : ∃ e ∈ indexed 0 cs, e.1 ∈ A ∧ e.2.label = l
  · obtain ⟨e, he, hA, rfl⟩ := htarget
    have hread := lookup_of_applied hexact hreadable hprogress he hA
    rw [hset] at hread
    exact ⟨_, hread⟩
  · have hkept : now.lookup zone l = before.lookup zone l :=
      hprogress.kept l (fun e he hA heq => htarget ⟨e, he, hA, heq⟩)
    exact Store.observed_ok_iff.1 ⟨observed, hobserved⟩ l set (hkept ▸ hset)

private theorem recordsAt_of_applied
    (hexact : Correction.ExactPlan zone desired compared capabilities cs)
    (hreadable : ∀ r ∈ desired, r.zone = .ofString zone ∧ r.data.NoBlankBeforeDot)
    (hprogress : Progress zone cs before A now) (he : e ∈ indexed 0 cs) (hA : e.1 ∈ A)
    (hlater : now.observed zone = .ok later) :
    recordsAt e.2.label later = recordsAt e.2.label desired := by
  have hread := lookup_of_applied hexact hreadable hprogress he hA
  rw [recordsAt_eq_iff]
  intro r hr
  have hdesired : r ∈ desired ↔ r ∈ recordsAt e.2.label desired := by
    rw [mem_recordsAt, and_iff_left hr]
  rw [Store.mem_observed hlater, hdesired]
  rw [← hr] at hread ⊢
  cases hset : now.lookup zone r.label with
  | none =>
    rw [hset] at hread
    simp [hread]
  | some set =>
    rw [hset] at hread
    constructor
    · rintro ⟨_, own, ⟨⟩, hown, hmem⟩
      obtain rfl := Except.ok.inj (hread.symm.trans hown)
      exact hmem
    · exact fun hmem => ⟨set, _, rfl, hread, hmem⟩

private theorem recordsAt_of_not_applied (hprogress : Progress zone cs before A now) {l : Label}
    (hl : ∀ e ∈ indexed 0 cs, e.1 ∈ A → e.2.label ≠ l)
    (hobserved : before.observed zone = .ok observed) (hlater : now.observed zone = .ok later) :
    recordsAt l later = recordsAt l observed := by
  rw [recordsAt_eq_iff]
  intro r hr
  rw [Store.mem_observed hlater, Store.mem_observed hobserved, hr, hprogress.kept l hl]

/-- The time to live at the apex survives: the corrections write the name servers
with the one that was observed. -/
private theorem observedTtl_later {nameservers : List String} {declared : List Record}
    (hexact : Correction.ExactPlan zone
      (sides zone capabilities nameservers declared observed).1 compared capabilities cs)
    (hreadable : ∀ r ∈ (sides zone capabilities nameservers declared observed).1,
      r.zone = .ofString zone ∧ r.data.NoBlankBeforeDot)
    (hprogress : Progress zone cs before A now)
    (hobserved : before.observed zone = .ok observed) (hlater : now.observed zone = .ok later)
    (hnone : ∀ r ∈ declared, r.label ≠ apexLabel zone)
    (hadds : Reconciler.AddsNameservers capabilities nameservers) :
    observedTtl zone later = observedTtl zone observed := by
  by_cases htarget : ∃ e ∈ indexed 0 cs, e.1 ∈ A ∧ e.2.label = apexLabel zone
  · obtain ⟨e, he, hA, hapex⟩ := htarget
    have hsame := recordsAt_of_applied hexact hreadable hprogress he hA hlater
    rw [hapex, recordsAt_eq_iff] at hsame
    apply Reconciler.observedTtl_eq
    · obtain ⟨ns, hns⟩ := List.exists_mem_of_ne_nil nameservers hadds.1
      let added : Record := .new zone zone (observedTtl zone observed) (.ns ns)
      have hmem : added ∈ (sides zone capabilities nameservers declared observed).1 :=
        Reconciler.mem_sides_desired.2 (.inr ⟨hnone, hadds, ns, hns, rfl⟩)
      exact ⟨added, (hsame added rfl).2 hmem, rfl⟩
    · intro r hr hlabel
      rcases Reconciler.mem_sides_desired.1 ((hsame r hlabel).1 hr) with hr | ⟨-, -, ns, -, rfl⟩
      · exact absurd hlabel (hnone r hr)
      · rfl
  · have hsame := recordsAt_of_not_applied hprogress
      (fun e he hA hlabel => htarget ⟨e, he, hA, hlabel⟩) hobserved hlater
    rw [recordsAt_eq_iff] at hsame
    by_cases hsome : ∃ r ∈ observed, r.label = apexLabel zone
    · obtain ⟨r, hr, hlabel⟩ := hsome
      obtain ⟨set, _, hset, -, -⟩ := (Store.mem_observed hobserved).1 hr
      have hone : ∀ r' ∈ observed, r'.label = apexLabel zone → r'.ttl = set.ttl := by
        intro r' hr' hlabel'
        apply Store.ttl_of_mem_observed hobserved hr'
        rw [hlabel', ← hlabel, hset]
      rw [Reconciler.observedTtl_eq ⟨r, hr, hlabel⟩ hone]
      apply Reconciler.observedTtl_eq ⟨r, (hsame r hlabel).2 hr, hlabel⟩
      exact fun r' hr' hlabel' => hone r' ((hsame r' hlabel').1 hr') hlabel'
    · have hfree : ∀ r ∈ observed, r.label ≠ apexLabel zone :=
        fun r hr hlabel => hsome ⟨r, hr, hlabel⟩
      rw [Reconciler.observedTtl_eq_default hfree]
      apply Reconciler.observedTtl_eq_default
      exact fun r hr hlabel => hfree r ((hsame r hlabel).1 hr) hlabel

end Labels

/-- After some corrections of a plan were applied, the next plan holds all others
as they were. -/
theorem planned_of_progress {nameservers : List String} {capabilities : Capabilities}
    {domain : Domain} {before now : Store} {cs : List Correction} {places : List Nat}
    (hplanned : before.planned nameservers capabilities domain = .ok cs)
    (hhosts : ∀ r ∈ domain.desiredRecords, r.data.NoBlankBeforeDot)
    (hservers : ∀ ns ∈ nameservers, blankBeforeDot (fqdn ns) = false)
    (hprogress : Progress domain.zone.text cs before {i | i ∈ places} now) :
    now.planned nameservers capabilities domain = .ok (leftOver places cs) := by
  obtain ⟨haudit, observed, hobserved, hcompute⟩ := Store.planned_eq_ok_iff.1 hplanned
  have hexact := Correction.ExactPlan.of_compute hcompute
  have hreadable := readable_of_mem_sides capabilities hhosts hservers observed
  obtain ⟨later, hlater⟩ := exists_later hexact hreadable hprogress hobserved
  have hdesired := Reconciler.sides_desired
    (observedTtl_later hexact hreadable hprogress hobserved hlater)
  let done (l : Label) : Bool := decide (∃ e ∈ indexed 0 cs, e.1 ∈ places ∧ e.2.label = l)
  have hfilter := Correction.compute_filter hcompute
    (sides domain.zone.text capabilities nameservers domain.desiredRecords later).2 done ?_ ?_
  · refine Store.planned_eq_ok_iff.2 ⟨haudit, later, hlater, ?_⟩
    rw [hdesired, hfilter, leftOver_eq_filter hexact.separate]
  · intro l hl
    obtain ⟨e, he, hplace, rfl⟩ := of_decide_eq_true hl
    rw [← recordsAt_of_applied hexact hreadable hprogress he hplace hlater, recordsAt_eq_iff]
    intro r hr
    rw [Reconciler.mem_sides_observed, hr,
      and_iff_left (Reconciler.not_leavesApex_of_target hexact (mem_of_mem_indexed he))]
  · intro l hl
    have hnone := of_decide_eq_false hl
    apply Reconciler.recordsAt_sides_observed
    exact recordsAt_of_not_applied hprogress
      (fun e he hplace hlabel => hnone ⟨e, he, hplace, hlabel⟩) hobserved hlater

def Event.appliedPlace? : Event → Option Nat
  | .correctionApplied _ index _ _ => some index
  | _ => none

def appliedPlaces (told : List Event) : List Nat := told.filterMap Event.appliedPlace?

theorem appliedPlaces_of_ran {r : Reconciler σ} {zone : String} {cs : List Correction}
    {stopped : Bool} {journal : List Tried} {report : Report} {told : List Event}
    (h : r.Ran zone cs stopped journal report told) :
    appliedPlaces told = (journal.filter Tried.isApplied).map Tried.index := by
  have hplaces : ∀ journal : List Tried,
      (journal.map (Tried.event zone)).filterMap Event.appliedPlace? =
        (journal.filter Tried.isApplied).map Tried.index := by
    intro journal
    induction journal with
    | nil => rfl
    | cons t rest ih =>
      obtain ⟨i, c, attempts, result⟩ := t
      rw [List.map_cons, List.filterMap_cons, List.filter_cons, ih]
      cases result <;> rfl
  rw [appliedPlaces, h.told, List.filterMap_append, hplaces]
  exact List.append_nil _

theorem mem_appliedPlaces {r : Reconciler σ} {zone : String} {cs : List Correction}
    {stopped : Bool} {journal : List Tried} {report : Report} {told : List Event}
    (h : r.Ran zone cs stopped journal report told) :
    appliedIn journal = {i | i ∈ appliedPlaces told} := by
  rw [appliedPlaces_of_ran h]
  ext i
  simp only [appliedIn, Set.mem_ofPred_eq, List.mem_map, List.mem_filter, Tried.isApplied_iff]
  constructor
  · rintro ⟨t, ht, rfl, hok⟩
    exact ⟨t, ⟨ht, hok⟩, rfl⟩
  · rintro ⟨t, ⟨ht, hok⟩, rfl⟩
    exact ⟨t, ht, rfl, hok⟩

theorem leftOver_eq_nil {places : List Nat} {cs : List Correction}
    (h : ∀ e ∈ indexed 0 cs, e.1 ∈ places) : leftOver places cs = [] := by
  have hfilter : (indexed 0 cs).filter (fun e => e.1 ∉ places) = [] := by
    rw [List.filter_eq_nil_iff]
    intro e he
    simpa using h e he
  rw [leftOver, hfilter, List.map_nil]

/-- Resumability. A provider in front of a store may fail any writes. When a plan
is applied, under any settings and in any interleaving, and the same domain is
planned again, the second plan holds exactly the corrections that were not
applied, unchanged and in their order; after a success it is empty. White space
before the final dot of a desired host name or of a reported name server is ruled
out, as such a name is not read back. -/
theorem plan_apply_plan {r : Reconciler σ} {nameservers : List String} {view : σ → Store}
    {Good : σ → Prop} (hfronts : r.provider.Fronts nameservers view Good) {domain : Domain}
    (hhosts : ∀ rec ∈ domain.desiredRecords, rec.data.NoBlankBeforeDot)
    (hservers : ∀ ns ∈ nameservers, blankBeforeDot (fqdn ns) = false)
    {s planned applied : Session σ} (hgood : Good s.provider) {cs : List Correction}
    (hplan : r.plan domain s = (.ok cs, planned)) (zone : String) {report : Report}
    (happly : r.apply zone cs planned = (report, applied)) :
    ∃ told, applied.events = planned.events ++ told ∧
      (r.plan domain applied).1 = .ok (leftOver (appliedPlaces told) cs) ∧
      report.applied = (appliedPlaces told).length ∧
      (report.isSuccess = true → leftOver (appliedPlaces told) cs = []) := by
  obtain ⟨hcs, hgood', hview⟩ := hfronts.shows.reads_plan (view s.provider) domain s hgood rfl
  rw [hplan] at hcs hgood' hview
  obtain ⟨_, observed, _, hcompute⟩ := Store.planned_eq_ok_iff.1 hcs.symm
  have hseparate := (Correction.ExactPlan.of_compute hcompute).separate
  have hstart : Progress domain.zone.text cs (view s.provider) ∅ (view planned.provider) := by
    rw [hview]
    exact .start _ _ _
  obtain ⟨stopped, journal, told, hran, hevents, -, hgood'', hprogress⟩ := r.apply_keeps
    (fun _ he => keeps_progress hfronts hseparate (view s.provider) he) zone ⟨hgood', hstart⟩
  rw [happly] at hran hevents hgood'' hprogress
  have hplaces := mem_appliedPlaces hran
  refine ⟨told, hevents, ?_, ?_, fun hsuccess => leftOver_eq_nil (fun e he => ?_)⟩
  · rw [hplaces] at hprogress
    have hagain := planned_of_progress hcs.symm hhosts hservers hprogress
    rw [← hagain]
    exact (hfronts.shows.reads_plan (view applied.provider) domain applied hgood'' rfl).1
  · rw [hran.applied, appliedPlaces_of_ran hran, List.length_map]
  · have happlied := hran.applied_of_isSuccess hsuccess e he
    rwa [hplaces] at happlied

private def site : Domain :=
  { name := "example.com"
    records := [⟨"www", 300, .a ⟨1, 2, 3, 4⟩⟩, ⟨"@", 300, .mx 10 "mail"⟩] }

private def hosted : Store :=
  .seed .empty "example.com" "www.example.com" .a ⟨300, [{ content := [.string "9.9.9.9"] }]⟩

private def refusedCall : Call Unit := .update "example.com." "www.example.com." .a default

private def failing : Injected Store :=
  (Injected.start hosted).plan refusedCall.text 1 (.error (.provider "memory" "down"))

private def impaired : Reconciler (Injected Store) where
  provider := Injected.provider "memory" {} (Store.provider ["ns1.example.net"])
  config := { failurePolicy := .keepGoing, maxParallel := 2 }
  scheduler := .virtualTime

private theorem failsWrites_failing : failing.FailsWrites where
  refs := rfl
  faults := by
    intro f hf
    obtain rfl := List.mem_singleton.1 hf
    exact ⟨refusedCall, _, rfl, rfl, rfl⟩

/-- A run whose one update fails leaves that update to the next plan. -/
theorem plan_apply_plan_failing_update :
    ∃ cs planned report applied told,
      impaired.plan site (.start failing) = (.ok cs, planned) ∧
      impaired.apply "example.com." cs planned = (report, applied) ∧
      cs.length = 3 ∧ report.applied = 2 ∧ report.isSuccess = false ∧
      (impaired.plan site applied).1 = .ok (leftOver (appliedPlaces told) cs) := by
  have hlength : (impaired.plan site (.start failing)).1.toOption.map List.length = some 3 := by
    decide +kernel
  have hreport : (impaired.apply "example.com."
      ((impaired.plan site (.start failing)).1.toOption.getD [])
      (impaired.plan site (.start failing)).2).1.applied = 2 ∧
    (impaired.apply "example.com." ((impaired.plan site (.start failing)).1.toOption.getD [])
      (impaired.plan site (.start failing)).2).1.isSuccess = false := by
    decide +kernel
  generalize hplan : impaired.plan site (.start failing) = first at hlength hreport
  obtain ⟨result, planned⟩ := first
  cases result with
  | error e => cases hlength
  | ok cs =>
    change (impaired.apply "example.com." cs planned).1.applied = 2 ∧
      (impaired.apply "example.com." cs planned).1.isSuccess = false at hreport
    generalize happly : impaired.apply "example.com." cs planned = second at hreport
    obtain ⟨report, applied⟩ := second
    have hstore : (Store.provider ["ns1.example.net"]).Fronts ["ns1.example.net"] id
        (fun _ => True) := Store.fronts ["ns1.example.net"] {} (fun _ _ _ => trivial)
    obtain ⟨told, -, hagain, -⟩ := plan_apply_plan (Injected.fronts hstore "memory" {})
      (by decide +kernel) (by decide +kernel) ⟨failsWrites_failing, trivial⟩ hplan
      "example.com." happly
    exact ⟨cs, planned, report, applied, told, rfl, happly, Option.some.inj hlength, hreport.1,
      hreport.2, hagain⟩

end DnsReconcile
