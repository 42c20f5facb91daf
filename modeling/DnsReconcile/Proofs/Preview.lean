import DnsReconcile.Proofs.Commutation
import DnsReconcile.Proofs.Hosting

/-!
A preview agrees with the run.

A plan can be looked at before a domain is reconciled. If no failure is planned for the
calls that read or that create zones, and missing zones may be created, the reconciliation
then ends in the error of the plan, or applies exactly the corrections of the plan to the
store that hosts the zone (`reconcile_as_planned`), with any failures of writes and in any
interleaving that does not depend on the record of calls.

The two runs make different calls before the first correction is applied, but all that is
left of these calls is their record, which makes no difference (`quiet_projectsTo`).
-/

namespace DnsReconcile

variable {σ : Type}

/-- The line of a call tells whether it writes a record set. -/
theorem Call.isWrite_of_text_eq {α β : Type} {c : Call α} {d : Call β}
    (hd : d.request.isWrite = true) (h : c.text = d.text) : c.request.isWrite = true := by
  have hreads : d.isRead = false := by
    cases d <;> first | rfl | cases hd
  have hverb : c.text.toList[6]? = d.text.toList[6]? := by rw [h]
  have hinitial : c.text.toList.head? = d.text.toList.head? := by rw [h]
  rw [c.head?_text, d.head?_text] at hinitial
  cases hread : c.isRead with
  | true => exact absurd h (Call.text_ne_of_isRead hread hreads)
  | false =>
    cases c with
    | create zone name type set => rfl
    | update zone name type set => rfl
    | delete zone name type => rfl
    | createZone zone =>
      -- the creation of a record set begins with the same letters
      cases d with
      | create zone name type set => simp [text, toString] at hverb
      | update zone name type set => simp [initial] at hinitial
      | delete zone name type => simp [initial] at hinitial
      | _ => cases hd
    | _ => cases hread

namespace Injected

/-- What is left of planned failures is for calls that write record sets, and no reference
is added to a listing. -/
structure FailsSets (s : Injected σ) : Prop where
  refs : s.extraRefs = []
  faults : ∀ f ∈ s.faults, 0 < f.times →
    ∀ {α : Type} (c : Call α), c.text = f.line → c.request.isWrite = true

section FailsSets

variable {s : Injected σ} {α : Type} {c : Call α}

theorem FailsSets.used_up (h : s.FailsSets) (hc : c.request.isWrite = false) {f : PlannedFault}
    (hf : f ∈ s.faults) (hline : f.line = c.text) : f.times = 0 := by
  by_contra hleft
  have hwrites := h.faults f hf (Nat.pos_of_ne_zero hleft) c hline.symm
  rw [hc] at hwrites
  cases hwrites

/-- A call that writes no record set meets no fault. -/
theorem FailsSets.faultFor?_eq_none (h : s.FailsSets) (hc : c.request.isWrite = false) :
    s.faultFor? c.text = none := by
  rw [faultFor?, Option.map_eq_none_iff, List.find?_eq_none]
  intro f hf
  simp only [Bool.and_eq_true, decide_eq_true_eq, not_and, Nat.not_lt, Nat.le_zero]
  exact h.used_up hc hf

/-- A call that writes no record set uses no fault up. -/
theorem FailsSets.faults_record (h : s.FailsSets) (hc : c.request.isWrite = false) :
    (s.record c.text).faults = s.faults := by
  change s.faults.map _ = s.faults
  conv => rhs; rw [← List.map_id s.faults]
  apply List.map_congr_left
  intro f hf
  split
  · rename_i hline
    have hzero := h.used_up hc hf hline
    obtain ⟨line, times, fault⟩ := f
    cases hzero
    rfl
  · rfl

/-- A call that writes no record set is answered by the provider behind. -/
theorem FailsSets.answer (h : s.FailsSets) (p : Provider σ) (hc : c.request.isWrite = false) :
    Injected.answer p c s = ((p.answer c s.inner).1,
      { s with inner := (p.answer c s.inner).2, newestFirst := c.text :: s.newestFirst }) := by
  rw [answer_of_faultFor?_eq_none h.refs p (h.faultFor?_eq_none hc)]
  change (_, { s with
    inner := (p.answer c s.inner).2
    newestFirst := c.text :: s.newestFirst
    faults := (s.record c.text).faults }) = _
  rw [h.faults_record hc]

theorem FailsSets.congr (h : s.FailsSets) {t : Injected σ} (hrefs : t.extraRefs = s.extraRefs)
    (hfaults : t.faults = s.faults) : t.FailsSets :=
  ⟨hrefs.trans h.refs, hfaults ▸ h.faults⟩

end FailsSets

/-- Planned failures of such writes in front of a provider that serves a store. -/
theorem serves {p : Provider σ} {nameservers : List String} {view : σ → Store}
    {Good : σ → Prop} (h : p.Serves nameservers view Good) (name : String)
    (capabilities : Capabilities) :
    (provider name capabilities p).Serves nameservers (fun s => view s.inner)
      (fun s => s.FailsSets ∧ Good s.inner) where
  answer := by
    rintro α c s ⟨hfails, hgood⟩ hc
    change ((Injected.answer p c s).1, view (Injected.answer p c s).2.inner) = _
    rw [hfails.answer p hc]
    exact h.answer c s.inner hgood hc
  good := by
    rintro α c s ⟨hfails, hgood⟩ hc
    change (Injected.answer p c s).2.FailsSets ∧ Good (Injected.answer p c s).2.inner
    rw [hfails.answer p hc]
    exact ⟨hfails.congr rfl rfl, h.good c s.inner hgood hc⟩

theorem answer_quiet (p : Provider σ) {α : Type} (c : Call α) (s : Injected σ) :
    (Injected.answer p c s.quiet).1 = (Injected.answer p c s).1 ∧
      (Injected.answer p c s.quiet).2.quiet = (Injected.answer p c s).2.quiet := by
  have hfault : s.quiet.faultFor? c.text = s.faultFor? c.text := rfl
  unfold Injected.answer
  rw [hfault]
  cases s.faultFor? c.text with
  | none => exact ⟨rfl, rfl⟩
  | some f => cases f <;> exact ⟨rfl, rfl⟩

theorem crash_quiet {α : Type} (c : Call α) (s : Injected σ) :
    (crash c s.quiet).map quiet = (crash c s).map quiet := by
  have hfault : s.quiet.faultFor? c.text = s.faultFor? c.text := rfl
  unfold crash
  rw [hfault]
  cases s.faultFor? c.text with
  | none => rfl
  | some f => cases f <;> rfl

/-- The provider, with every record of calls dropped. -/
def unrecorded (p : Provider (Injected σ)) : Provider (Injected σ) :=
  { p with
    answer := fun c s => ((p.answer c s).1, (p.answer c s).2.quiet)
    crash := fun c s => (p.crash c s).map quiet }

/-- What is shown without the record of calls is a run without it. -/
theorem quiet_projectsTo {r : Reconciler (Injected σ)} {name : String}
    {capabilities : Capabilities} {p : Provider σ}
    (hprovider : r.provider = provider name capabilities p)
    (hblind : ∀ pool : Pool (Injected σ), r.scheduler (pool.project quiet) = r.scheduler pool) :
    r.ProjectsTo { r with provider := unrecorded r.provider } quiet where
  provider := by
    rw [hprovider]
    exact
      { capabilities := rfl
        isRemote := rfl
        answer := fun c s => Prod.ext (answer_quiet p c s).1 (answer_quiet p c s).2
        crash := fun c s => crash_quiet c s }
  config := rfl
  scheduler := hblind

end Injected

def Session.hosting (s : Session (Injected Store)) (zone : String) : Session (Injected Store) :=
  { s with provider := { s.provider with inner := s.provider.inner.hosting zone } }

theorem Store.planned_of_audit_error {s : Store} {nameservers : List String}
    {capabilities : Capabilities} {domain : Domain} {e : Error}
    (h : capabilities.audit domain.desiredRecords = .error e) :
    s.planned nameservers capabilities domain = .error e := by
  rw [planned, h]
  rfl

namespace Reconciler

variable {r : Reconciler (Injected Store)} {name : String} {nameservers : List String}
  {capabilities : Capabilities} {domain : Domain} {s t u : Session (Injected Store)}

private theorem serves_of_injected
    (hprovider : r.provider = Injected.provider name capabilities (Store.provider nameservers)) :
    r.provider.Serves nameservers (fun s => s.inner) (fun s => s.FailsSets ∧ True) := by
  rw [hprovider]
  exact Injected.serves (Store.serves nameservers {}) name capabilities

/-- Between two sessions no time has passed, and the planned failures are what they were. -/
private def Undisturbed (s t : Session (Injected Store)) : Prop :=
  s.provider.FailsSets → t.clock = s.clock ∧ t.provider.extraRefs = s.provider.extraRefs ∧
    t.provider.faults = s.provider.faults

/-- Calls that write no record set take no time and meet no failure. -/
private theorem undisturbed_steps
    (hprovider : r.provider = Injected.provider name capabilities (Store.provider nameservers)) :
    r.Steps (·.isWrite = false) Undisturbed where
  refl := fun _ _ => ⟨rfl, rfl, rfl⟩
  trans := by
    intro s t u hst htu hfails
    obtain ⟨hclock, hrefs, hfaults⟩ := hst hfails
    obtain ⟨hclock', hrefs', hfaults'⟩ := htu (hfails.congr hrefs hfaults)
    exact ⟨hclock'.trans hclock, hrefs'.trans hrefs, hfaults'.trans hfaults⟩
  told := fun _ _ _ => ⟨rfl, rfl, rfl⟩
  called := by
    intro α c s hc hfails
    have hclock : ∀ t : Injected Store, (s.called r.provider t).clock = s.clock := by
      intro t
      unfold Session.called
      split <;> rfl
    have hanswer : (r.provider.answer c s.provider).2 =
        { s.provider with
          inner := ((Store.provider nameservers).answer c s.provider.inner).2
          newestFirst := c.text :: s.provider.newestFirst } := by
      rw [hprovider]
      exact congrArg Prod.snd (hfails.answer (Store.provider nameservers) hc)
    rw [hclock, provider_called, hanswer]
    exact ⟨rfl, rfl, rfl⟩

/-- What is left of making sure of the zone and of planning: the store hosts the zone, and
but for the record of calls everything else is as it was. -/
private theorem hosting_of_planned
    (hprovider : r.provider = Injected.provider name capabilities (Store.provider nameservers))
    (hfails : s.provider.FailsSets) {isNew : Bool}
    (hzone : r.ensureZone domain.zone.text (s.emit (.started domain.zone.text)) = (.ok isNew, t))
    {result : Except Error (List Correction)} (hplan : r.plan domain t = (result, u)) :
    s.provider.inner.planned nameservers capabilities domain = result ∧ u.clock = s.clock ∧
      u.provider.quiet = (s.hosting domain.zone.text).provider.quiet := by
  have hserves := serves_of_injected hprovider
  have hcapabilities : r.provider.capabilities = capabilities := by
    rw [hprovider]
    rfl
  have hstarted : (s.emit (.started domain.zone.text)).provider.FailsSets ∧ True :=
    ⟨hfails, trivial⟩
  obtain ⟨hgood, hhosting, -⟩ := hserves.ensureZone_ok hstarted hzone
  change t.provider.inner = s.provider.inner.hosting domain.zone.text at hhosting
  obtain ⟨hresult, -, hview⟩ := hserves.shows.reads_plan t.provider.inner domain t hgood rfl
  rw [hplan, hcapabilities, hhosting, Store.planned_hosting] at hresult
  rw [hplan] at hview
  have hsteps := undisturbed_steps hprovider
  have hensured := hsteps.ensureZone (fun _ => rfl) domain.zone.text rfl
    (s.emit (.started domain.zone.text))
  have hplanned := hsteps.plan (fun _ => rfl) domain t
  rw [hzone] at hensured
  rw [hplan] at hplanned
  obtain ⟨hclock, hrefs, hfaults⟩ := hsteps.trans hensured hplanned hfails
  refine ⟨hresult.symm, hclock, ?_⟩
  change u.provider.inner = t.provider.inner at hview
  change u.provider.extraRefs = s.provider.extraRefs at hrefs
  change u.provider.faults = s.provider.faults at hfaults
  rw [Injected.quiet, hview, hhosting, hrefs, hfaults]
  rfl

/-- A reconciliation ends in the error of the plan, or it applies the plan to the store
that hosts the zone. -/
private theorem reconcile_of_planned
    (hprovider : r.provider = Injected.provider name capabilities (Store.provider nameservers))
    (hcreates : r.config.createMissingZones = true) (domain : Domain)
    (hfails : s.provider.FailsSets) :
    (∃ e, s.provider.inner.planned nameservers capabilities domain = .error e ∧
      (r.reconcile domain s).1 = .error e) ∨
    ∃ cs u, s.provider.inner.planned nameservers capabilities domain = .ok cs ∧
      u.clock = s.clock ∧ u.provider.quiet = (s.hosting domain.zone.text).provider.quiet ∧
      r.reconcile domain s = (.ok (r.apply domain.zone.text cs u).1,
        (r.apply domain.zone.text cs u).2) := by
  have hcases := r.reconcile_cases domain s
  have hcapabilities : r.provider.capabilities = capabilities := by
    rw [hprovider]
    rfl
  generalize r.reconcile domain s = out at hcases
  cases hcases with
  | @refused e haudit =>
    rw [hcapabilities] at haudit
    exact .inl ⟨e, Store.planned_of_audit_error haudit, rfl⟩
  | unhosted haudit hzone =>
    have hstarted : (s.emit (.started domain.zone.text)).provider.FailsSets ∧ True :=
      ⟨hfails, trivial⟩
    have hoff := ((serves_of_injected hprovider).ensureZone_error hstarted hzone).2.2.2
    rw [hcreates] at hoff
    cases hoff
  | @unplanned e t u isNew haudit hzone hplan =>
    exact .inl ⟨e, (hosting_of_planned hprovider hfails hzone hplan).1, rfl⟩
  | @applied t u isNew cs haudit hzone hplan =>
    obtain ⟨hplanned, hclock, hquiet⟩ := hosting_of_planned hprovider hfails hzone hplan
    exact .inr ⟨cs, u, hplanned, hclock, hquiet, rfl⟩

/-- Preview. If missing zones may be created and no failure is left for calls that read or
create zones, a reconciliation ends in the error of the plan from the same state, or applies
exactly the corrections of this plan: it comes to the report and, but for the record of
calls, to the state that their application to the store that hosts the zone comes to. -/
theorem reconcile_as_planned
    (hprovider : r.provider = Injected.provider name capabilities (Store.provider nameservers))
    (hcreates : r.config.createMissingZones = true)
    (hblind : ∀ pool : Pool (Injected Store),
      r.scheduler (pool.project Injected.quiet) = r.scheduler pool)
    (domain : Domain) (hfails : s.provider.FailsSets) :
    (∀ e t, r.plan domain s = (.error e, t) → (r.reconcile domain s).1 = .error e) ∧
    ∀ cs t, r.plan domain s = (.ok cs, t) →
      ∃ report after, r.reconcile domain s = (.ok report, after) ∧
        report.planned = cs.length ∧
        report = (r.apply domain.zone.text cs (s.hosting domain.zone.text)).1 ∧
        after.provider.quiet =
          (r.apply domain.zone.text cs (s.hosting domain.zone.text)).2.provider.quiet := by
  have hplan : (r.plan domain s).1 =
      s.provider.inner.planned nameservers capabilities domain := by
    have hreads := (serves_of_injected hprovider).shows.reads_plan s.provider.inner domain s
      ⟨hfails, trivial⟩ rfl
    have hcapabilities : r.provider.capabilities = capabilities := by
      rw [hprovider]
      rfl
    rw [hreads.1, hcapabilities]
  rcases reconcile_of_planned hprovider hcreates domain hfails with
    ⟨e, hplanned, herror⟩ | ⟨cs, u, hplanned, hclock, hquiet, hrun⟩
  · refine ⟨fun e' t h => ?_, fun cs t h => ?_⟩
    · rw [h, hplanned] at hplan
      cases hplan
      exact herror
    · rw [h, hplanned] at hplan
      cases hplan
  · refine ⟨fun e t h => ?_, fun cs' t h => ?_⟩
    · rw [h, hplanned] at hplan
      cases hplan
    · rw [h, hplanned] at hplan
      cases hplan
      obtain ⟨hreport, hafter⟩ := (Injected.quiet_projectsTo hprovider hblind).apply_congr
        domain.zone.text cs (t := s.hosting domain.zone.text) hquiet hclock
      obtain ⟨stopped, journal, told, hran, -⟩ := r.exists_ran domain.zone.text cs u
      exact ⟨_, _, hrun, hran.planned, hreport, hafter⟩

private def freshSite : Domain where
  name := "example.com"
  records := [⟨"www", 300, .a ⟨1, 2, 3, 4⟩⟩, ⟨"@", 300, .mx 10 "mail"⟩]

private def failingCreation : Call Unit :=
  .create "example.com." "www.example.com." .a default

private def withoutZones : Injected Store :=
  (Injected.start Store.empty).plan failingCreation.text 1 (.error (.provider "memory" "down"))

private def pushing : Reconciler (Injected Store) where
  provider := Injected.provider "memory" {} (Store.provider ["ns1.example.net"])
  config := { failurePolicy := .keepGoing, maxParallel := 2 }
  scheduler := .virtualTime

private theorem failsSets_withoutZones : withoutZones.FailsSets where
  refs := rfl
  faults := by
    intro f hf _ α c hline
    obtain rfl := List.mem_singleton.1 hf
    exact Call.isWrite_of_text_eq (d := failingCreation) rfl hline

/-- A zone is created and filled as was planned without it, but for one record set whose
creation fails. -/
theorem reconcile_as_planned_new_zone :
    ∃ cs t report after, pushing.plan freshSite (.start withoutZones) = (.ok cs, t) ∧
      pushing.reconcile freshSite (.start withoutZones) = (.ok report, after) ∧
      cs.length = 3 ∧ report.planned = 3 ∧ report.applied = 2 ∧
      report = (pushing.apply "example.com." cs
        (Session.hosting (.start withoutZones) "example.com.")).1 := by
  have hlength : (pushing.plan freshSite (.start withoutZones)).1.toOption.map List.length =
      some 3 := by
    decide +kernel
  have happlied : (pushing.reconcile freshSite (.start withoutZones)).1.toOption.map
      Report.applied = some 2 := by
    decide +kernel
  have hzone : freshSite.zone.text = "example.com." := by decide +kernel
  generalize hplan : pushing.plan freshSite (.start withoutZones) = first at hlength
  obtain ⟨result, t⟩ := first
  cases result with
  | error e => cases hlength
  | ok cs =>
    obtain ⟨report, after, hrun, hplanned, hreport, -⟩ := (reconcile_as_planned rfl rfl
      (fun pool => pool.project_virtualTime) freshSite failsSets_withoutZones).2 cs t hplan
    rw [hrun] at happlied
    rw [hzone] at hreport
    have hcs : cs.length = 3 := Option.some.inj hlength
    exact ⟨cs, t, report, after, rfl, hrun, hcs, hplanned.trans hcs, Option.some.inj happlied,
      hreport⟩

end Reconciler

end DnsReconcile
