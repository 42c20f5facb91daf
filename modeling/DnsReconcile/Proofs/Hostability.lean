import DnsReconcile.Proofs.Hosting
import DnsReconcile.Proofs.Observed
import DnsReconcile.Proofs.PlanFailure

/-!
Domains that cannot be hosted.

A comparison of records fails only because something is not supported
(`Correction.exists_of_compute_error`), and records that all pass the audit can be planned
exactly if those of each label share one time to live. The audit looks at one record at a time and does not tell this, so a reconciliation
finds out only once a missing zone is created: such a zone stays behind without record
sets, and nothing else is ever changed by a reconciliation that ends in this error
(`reconcile_unsupported_iff`).
-/

namespace DnsReconcile

/-- The records of each label share one time to live. -/
def OneTtl (rs : List Record) : Prop := ∀ q ∈ rs, ∀ r ∈ rs, q.label = r.label → q.ttl = r.ttl

instance (rs : List Record) : Decidable (OneTtl rs) :=
  inferInstanceAs (Decidable (∀ q ∈ rs, ∀ r ∈ rs, q.label = r.label → q.ttl = r.ttl))

/-- The apex name servers of a provider that can host name servers pass the audit. -/
theorem Capabilities.check_apex {capabilities : Capabilities}
    (h : capabilities.supports .ns = true) (zone : String) (ttl : UInt32) (ns : String) :
    capabilities.check (.new zone zone ttl (.ns ns)) = .ok () := by
  have hsupports : capabilities.supports (Record.new zone zone ttl (.ns ns)).type = true := h
  unfold check obstacle?
  rw [hsupports]
  rfl

/-- A comparison with a zone that is observed empty writes every desired label. -/
theorem Changeset.exists_written_iff {desired : List Record} {l : Label} :
    (∃ c, (l, c) ∈ (diff (.group desired) (.group [])).changes ∧ c.kind ≠ .removed) ↔
      ∃ r ∈ desired, r.label = l := by
  have hobserved : (Snapshot.group []).groups.get? l = none := rfl
  simp only [mem_diff, hobserved, Snapshot.get?_group]
  by_cases hnone : recordsAt l desired = []
  · simp [hnone, Change.between, ← recordsAt_ne_nil]
  · simp [hnone, Change.between, ← recordsAt_ne_nil]

namespace Correction

variable {capabilities : Capabilities} {zone : String} {desired observed : List Record} {e : Error}

/-- A comparison fails only because something is not supported. -/
theorem exists_of_compute_error (h : compute zone desired observed capabilities = .error e) :
    ∃ m, e = .unsupported m := by
  rw [compute_eq_plan] at h
  obtain ⟨l, c, hfails⟩ := plan_group_eq_error_iff.1 h
  exact hfails.of_own.1

/-- Records that pass the audit can be planned for an empty zone exactly if those of each
label share one time to live. -/
theorem exists_compute_nil_iff (hcheck : ∀ r ∈ desired, capabilities.check r = .ok ()) :
    (∃ cs, compute zone desired [] capabilities = .ok cs) ↔ OneTtl desired := by
  rw [compute_eq_plan, exists_plan_group_iff]
  constructor
  · intro h q hq r hr hlabel
    obtain ⟨c, hmem, hkind⟩ := Changeset.exists_written_iff.2 ⟨r, hr, rfl⟩
    exact (h r.label c hmem hkind).oneTtl q hq r hr hlabel rfl
  · intro hone l c hmem hkind
    exact ⟨Changeset.exists_written_iff.1 ⟨c, hmem, hkind⟩,
      fun q hq r hr hql hrl => hone q hq r hr (hql.trans hrl.symm), fun r hr _ => hcheck r hr⟩

end Correction

namespace Reconciler

variable {zone : String} {capabilities : Capabilities} {nameservers : List String}
  {desired observed : List Record}

theorem sides_observed_nil :
    (sides zone capabilities nameservers desired []).2 = [] := by
  apply List.eq_nil_iff_forall_not_mem.2
  intro r hr
  cases (mem_sides_observed.1 hr).1

/-- The name servers of a provider share one time to live, and they join no records of
their label. -/
theorem oneTtl_sides_iff :
    OneTtl (sides zone capabilities nameservers desired observed).1 ↔ OneTtl desired := by
  constructor
  · intro h q hq r hr
    exact h q (mem_sides_desired.2 (.inl hq)) r (mem_sides_desired.2 (.inl hr))
  · intro h q hq r hr hlabel
    rcases mem_sides_desired.1 hq with hq | ⟨hnone, -, ns, -, rfl⟩
    · rcases mem_sides_desired.1 hr with hr | ⟨hnone, -, ns, -, rfl⟩
      · exact h q hq r hr hlabel
      · exact absurd hlabel (hnone q hq)
    · rcases mem_sides_desired.1 hr with hr | ⟨-, -, ns', -, rfl⟩
      · exact absurd hlabel.symm (hnone r hr)
      · rfl

theorem check_sides (h : ∀ r ∈ desired, capabilities.check r = .ok ()) :
    ∀ r ∈ (sides zone capabilities nameservers desired observed).1,
      capabilities.check r = .ok () := by
  intro r hr
  rcases mem_sides_desired.1 hr with hr | ⟨-, hadds, ns, -, rfl⟩
  · exact h r hr
  · exact Capabilities.check_apex hadds.2 zone _ ns

end Reconciler

namespace Store

variable {s : Store} {nameservers : List String} {capabilities : Capabilities} {domain : Domain}

/-- The plan for a zone that is missing. -/
theorem planned_missing (haudit : capabilities.audit domain.desiredRecords = .ok ())
    (hmissing : s.contents? domain.zone.text = none) :
    s.planned nameservers capabilities domain =
      Correction.compute domain.zone.text
        (Reconciler.sides domain.zone.text capabilities nameservers domain.desiredRecords []).1
        [] capabilities := by
  rw [planned, haudit, observed, hmissing]
  change Correction.compute _ _ (Reconciler.sides _ _ _ _ []).2 _ = _
  rw [Reconciler.sides_observed_nil]

theorem exists_planned_missing_iff (haudit : capabilities.audit domain.desiredRecords = .ok ())
    (hmissing : s.contents? domain.zone.text = none) :
    (∃ cs, s.planned nameservers capabilities domain = .ok cs) ↔
      OneTtl domain.desiredRecords := by
  rw [planned_missing haudit hmissing, Correction.exists_compute_nil_iff
    (Reconciler.check_sides (Capabilities.audit_eq_ok_iff.1 haudit)), Reconciler.oneTtl_sides_iff]

theorem exists_of_planned_missing_error (haudit : capabilities.audit domain.desiredRecords = .ok ())
    (hmissing : s.contents? domain.zone.text = none) {e : Error}
    (h : s.planned nameservers capabilities domain = .error e) : ∃ m, e = .unsupported m := by
  rw [planned_missing haudit hmissing] at h
  exact Correction.exists_of_compute_error h

end Store

/-- The domain passes the audit, its zone is missing and may be created, and yet its records
cannot be hosted. -/
structure Domain.SlipsThrough (domain : Domain) (capabilities : Capabilities)
    (config : EngineConfig) (s : Store) : Prop where
  audited : capabilities.audit domain.desiredRecords = .ok ()
  missing : s.contents? domain.zone.text = none
  allowed : config.createMissingZones = true
  mixed : ¬ OneTtl domain.desiredRecords

namespace Reconciler

section Unsupported

variable {r : Reconciler Store} {nameservers : List String} {capabilities : Capabilities}
  {domain : Domain} {s t u : Session Store}

private theorem serves_of_store
    (hprovider : r.provider = { Store.provider nameservers with capabilities }) :
    r.provider.Serves nameservers id (fun _ => True) := by
  rw [hprovider]
  exact Store.serves nameservers capabilities

/-- Behind making sure of the zone, the plan is that for the store before. -/
private theorem planned_of_ensured
    (hprovider : r.provider = { Store.provider nameservers with capabilities }) {isNew : Bool}
    (hzone : r.ensureZone domain.zone.text (s.emit (.started domain.zone.text)) = (.ok isNew, t))
    {result : Except Error (List Correction)} (hplan : r.plan domain t = (result, u)) :
    s.provider.planned nameservers capabilities domain = result ∧
      u.provider = s.provider.hosting domain.zone.text ∧
      (s.provider.contents? domain.zone.text = none → r.config.createMissingZones = true) := by
  have hserves := serves_of_store hprovider
  obtain ⟨-, hhosting, hallowed⟩ := hserves.ensureZone_ok trivial hzone
  change t.provider = s.provider.hosting domain.zone.text at hhosting
  obtain ⟨hresult, -, hview⟩ := hserves.shows.reads_plan t.provider domain t trivial rfl
  have hcapabilities : r.provider.capabilities = capabilities := by rw [hprovider]
  rw [hplan, hcapabilities, hhosting, Store.planned_hosting] at hresult
  rw [hplan] at hview
  exact ⟨hresult.symm, Eq.trans hview hhosting, hallowed⟩

/-- Only a domain that slips through the audit has something created for it. -/
private theorem slipsThrough_of_changed
    (hprovider : r.provider = { Store.provider nameservers with capabilities }) {m : String}
    (hrun : r.reconcile domain s = (.error (.unsupported m), t))
    (hchanged : t.provider ≠ s.provider) :
    domain.SlipsThrough capabilities r.config s.provider ∧
      t.provider = s.provider.setContents domain.zone.text .empty := by
  have hcases := r.reconcile_cases domain s
  have hcapabilities : r.provider.capabilities = capabilities := by rw [hprovider]
  rw [hrun] at hcases
  cases hcases with
  | refused haudit => exact absurd rfl hchanged
  | unhosted haudit hzone =>
    cases ((serves_of_store hprovider).ensureZone_error trivial hzone).1
  | unplanned haudit hzone hplan =>
    obtain ⟨hplanned, hhosting, hallowed⟩ := planned_of_ensured hprovider hzone hplan
    rw [hcapabilities] at haudit
    rw [hhosting, Store.hosting_ne_iff] at hchanged
    rw [hhosting, Store.hosting_of_missing hchanged]
    refine ⟨⟨haudit, hchanged, hallowed hchanged, fun hone => ?_⟩, rfl⟩
    obtain ⟨cs, hcs⟩ := (Store.exists_planned_missing_iff haudit hchanged).2 hone
    rw [hplanned] at hcs
    cases hcs

/-- A domain that slips through the audit is told to be unsupported behind the creation of
its zone. -/
private theorem changed_of_slipsThrough
    (hprovider : r.provider = { Store.provider nameservers with capabilities })
    (h : domain.SlipsThrough capabilities r.config s.provider) :
    ∃ m t, r.reconcile domain s = (.error (.unsupported m), t) ∧ t.provider ≠ s.provider := by
  have hcases := r.reconcile_cases domain s
  have hcapabilities : r.provider.capabilities = capabilities := by rw [hprovider]
  generalize r.reconcile domain s = out at hcases
  cases hcases with
  | refused haudit =>
    rw [hcapabilities, h.audited] at haudit
    cases haudit
  | unhosted haudit hzone =>
    have hoff := ((serves_of_store hprovider).ensureZone_error trivial hzone).2.2.2
    rw [h.allowed] at hoff
    cases hoff
  | @unplanned e t u isNew haudit hzone hplan =>
    obtain ⟨hplanned, hhosting, -⟩ := planned_of_ensured hprovider hzone hplan
    obtain ⟨m, rfl⟩ := Store.exists_of_planned_missing_error h.audited h.missing hplanned
    exact ⟨m, u, rfl, by rw [hhosting, Store.hosting_ne_iff, h.missing]⟩
  | @applied t u isNew cs haudit hzone hplan =>
    have hplanned := (planned_of_ensured hprovider hzone hplan).1
    exact absurd ((Store.exists_planned_missing_iff h.audited h.missing).1 ⟨cs, hplanned⟩) h.mixed

end Unsupported

/-- Unsupported domains. A reconciliation that ends in this error leaves the store as it
was, but for the missing zone of a domain that only planning tells to be unsupported: this
zone has been created, without record sets. -/
theorem reconcile_unsupported_iff {r : Reconciler Store} {nameservers : List String}
    {capabilities : Capabilities}
    (hprovider : r.provider = { Store.provider nameservers with capabilities })
    (domain : Domain) (s : Session Store) :
    ((∃ m t, r.reconcile domain s = (.error (.unsupported m), t) ∧ t.provider ≠ s.provider) ↔
      domain.SlipsThrough capabilities r.config s.provider) ∧
    ∀ m t, r.reconcile domain s = (.error (.unsupported m), t) → t.provider ≠ s.provider →
      t.provider = s.provider.setContents domain.zone.text .empty := by
  refine ⟨⟨?_, changed_of_slipsThrough hprovider⟩, ?_⟩
  · rintro ⟨m, t, hrun, hchanged⟩
    exact (slipsThrough_of_changed hprovider hrun hchanged).1
  · intro m t hrun hchanged
    exact (slipsThrough_of_changed hprovider hrun hchanged).2

private def onStore : Reconciler Store :=
  { provider := Store.provider ["ns1.example.net"], config := {}, scheduler := .virtualTime }

private def mixedTtls : Domain where
  name := "example.com"
  records := [⟨"w", 60, .a ⟨1, 2, 3, 4⟩⟩, ⟨"w", 61, .a ⟨5, 6, 7, 8⟩⟩]

private def isUnsupported {α : Type} : Except Error α → Bool
  | .error (.unsupported _) => true
  | _ => false

private theorem exists_of_isUnsupported {α : Type} {result : Except Error α}
    (h : isUnsupported result = true) : ∃ m, result = .error (.unsupported m) := by
  unfold isUnsupported at h
  split at h
  · exact ⟨_, rfl⟩
  · cases h

private def emptyZone : Store := Store.empty.setContents "example.com" .empty

/-- Two addresses of one name with different times to live are unsupported. If the zone is
there already, nothing comes of it. -/
theorem reconcile_unsupported_iff_hosted :
    ∃ m t, onStore.reconcile mixedTtls (.start emptyZone) = (.error (.unsupported m), t) ∧
      t.provider = emptyZone ∧ ¬ OneTtl mixedTtls.desiredRecords := by
  have hresult : isUnsupported (onStore.reconcile mixedTtls (.start emptyZone)).1 = true := by
    decide +kernel
  obtain ⟨m, hm⟩ := exists_of_isUnsupported hresult
  have hrun : onStore.reconcile mixedTtls (.start emptyZone) =
      (.error (.unsupported m), (onStore.reconcile mixedTtls (.start emptyZone)).2) :=
    Prod.ext hm rfl
  refine ⟨m, _, hrun, ?_, by decide +kernel⟩
  by_contra hchanged
  have hslips := (reconcile_unsupported_iff rfl mixedTtls (.start emptyZone)).1.1
    ⟨m, _, hrun, hchanged⟩
  have hhosted : ((Session.start emptyZone).provider.contents? mixedTtls.zone.text).isNone =
      false := by
    decide +kernel
  rw [Option.isNone_iff_eq_none.2 hslips.missing] at hhosted
  cases hhosted

/-- If the zone is missing, it is created for a domain that cannot be hosted. -/
theorem reconcile_creates_unsupported :
    ∃ m t, onStore.reconcile mixedTtls (.start .empty) = (.error (.unsupported m), t) ∧
      (Store.empty.contents? "example.com.").isNone = true ∧
      (t.provider.contents? "example.com.").isSome = true := by
  have hresult : isUnsupported (onStore.reconcile mixedTtls (.start .empty)).1 = true := by
    decide +kernel
  obtain ⟨m, hm⟩ := exists_of_isUnsupported hresult
  exact ⟨m, _, Prod.ext hm rfl, by decide +kernel, by decide +kernel⟩

end Reconciler

end DnsReconcile
