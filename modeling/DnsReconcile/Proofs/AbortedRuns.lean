import DnsReconcile.Proofs.PlanRun
import DnsReconcile.Proofs.ReconcileRun
import DnsReconcile.Proofs.Requests

/-!
Runs that end in an error.

Whatever the provider answers, a plan only reads, and a reconciliation that ends in an
error has written no record set: all it may have changed is that a missing zone was
created (`reconcile_aborted`).
-/

namespace DnsReconcile

variable {σ : Type}

namespace Reconciler

variable {r : Reconciler σ} {zone : String} {domain : Domain}

/-- Between two sessions only `allowed` requests are recorded. -/
def Asks (allowed : Request → Prop) (s t : Session (Logged σ)) : Prop :=
  ∃ asked, t.provider.requests = s.provider.requests ++ asked ∧ ∀ q ∈ asked, allowed q

theorem requests_called (r : Reconciler σ) {α : Type} (c : Call α) (s : Session (Logged σ)) :
    (s.called r.logged.provider (r.logged.provider.answer c s.provider).2).provider.requests =
      s.provider.requests ++ [c.request] := by
  rw [provider_called]
  rfl

/-- Only allowed requests are recorded as long as only these are made. -/
theorem asks_steps (r : Reconciler σ) (allowed : Request → Prop) :
    r.logged.Steps allowed (Asks allowed) where
  refl := fun _ => ⟨[], (List.append_nil _).symm, by simp⟩
  trans := by
    rintro s t u ⟨asked, ht, hasked⟩ ⟨more, hu, hmore⟩
    exact ⟨asked ++ more, by rw [hu, ht, List.append_assoc],
      List.forall_mem_append.2 ⟨hasked, hmore⟩⟩
  told := fun _ _ => ⟨[], (List.append_nil _).symm, by simp⟩
  called := fun c s hc =>
    ⟨[c.request], requests_called r c s, List.forall_mem_singleton.2 hc⟩

/-- A plan only reads. -/
theorem asks_plan (r : Reconciler σ) (domain : Domain) (s : Session (Logged σ)) :
    Asks (·.isRead = true) s (r.logged.plan domain s).2 :=
  (asks_steps r _).plan (fun _ => rfl) domain s

/-- What is asked to make sure of a zone: a single read, or a read that tells that the
zone is missing, and then its creation. -/
inductive EnsureRequests (r : Reconciler σ) (zone : String) (s : σ) : List Request → Prop where
  | checked (line : String) : EnsureRequests r zone s [.read line]
  | created (line : String) (hon : r.config.createMissingZones = true)
      (hmissing : (r.provider.answer (.zoneExists zone) s).1 = .ok false) :
      EnsureRequests r zone s [.read line, .createZone zone]

theorem EnsureRequests.noWrite {s : σ} {requests : List Request}
    (h : r.EnsureRequests zone s requests) : ∀ q ∈ requests, q.isWrite = false := by
  cases h <;> simp [Request.isWrite]

theorem EnsureRequests.creations {s : σ} {requests : List Request}
    (h : r.EnsureRequests zone s requests) :
    requests.filter Request.isCreation = [] ∨
      requests.filter Request.isCreation = [.createZone zone] ∧
        r.config.createMissingZones = true ∧
        (r.provider.answer (.zoneExists zone) s).1 = .ok false := by
  cases h with
  | checked line => exact .inl rfl
  | created line hon hmissing => exact .inr ⟨rfl, hon, hmissing⟩

theorem exists_ensureRequests (r : Reconciler σ) (zone : String) (s : Session (Logged σ)) :
    ∃ asked, (r.logged.ensureZone zone s).2.provider.requests = s.provider.requests ++ asked ∧
      r.EnsureRequests zone s.provider.inner asked := by
  have hchecked : ∀ {result : Except Error Bool} {t : Session (Logged σ)},
      r.logged.zoneExists zone s = (result, t) → t.provider.requests =
        s.provider.requests ++ [.read (Call.zoneExists zone).text] := by
    intro result t hcheck
    have hasked := requests_called r (.zoneExists zone) s
    change (r.logged.zoneExists zone s).2.provider.requests = _ at hasked
    rwa [hcheck] at hasked
  have hcreated : ∀ {result : Except Error Unit} {t u : Session (Logged σ)},
      r.logged.zoneExists zone s = (.ok false, t) → r.logged.ask (.createZone zone) t =
        (result, u) → u.provider.requests = s.provider.requests ++
          [.read (Call.zoneExists zone).text, .createZone zone] := by
    intro result t u hcheck hcreate
    have hasked := requests_called r (.createZone zone) t
    change (r.logged.ask (.createZone zone) t).2.provider.requests = _ at hasked
    rw [hcreate, hchecked hcheck, List.append_assoc] at hasked
    exact hasked
  have hcases := r.logged.ensureZone_cases zone s
  generalize r.logged.ensureZone zone s = out at hcases
  cases hcases with
  | unknown hcheck => exact ⟨_, hchecked hcheck, .checked _⟩
  | hosted hcheck => exact ⟨_, hchecked hcheck, .checked _⟩
  | disallowed hcheck hoff => exact ⟨_, hchecked hcheck, .checked _⟩
  | failed hcheck hon hcreate =>
    exact ⟨_, hcreated hcheck hcreate, .created _ hon (fetch_eq_ok hcheck)⟩
  | @created t u hcheck hon hcreate =>
    have hasked : u.provider.requests = _ := hcreated hcheck hcreate
    exact ⟨_, hasked, .created _ hon (fetch_eq_ok hcheck)⟩

/-- The requests of a reconciliation that ends in an error, begun in the state `s` of
the provider. -/
structure Aborted (r : Reconciler σ) (domain : Domain) (s : σ) (requests : List Request) :
    Prop where
  noWrite : ∀ q ∈ requests, q.isWrite = false
  oneCreation : (requests.filter Request.isCreation).length ≤ 1
  creation : ∀ zone, .createZone zone ∈ requests → zone = domain.zone.text ∧
    r.config.createMissingZones = true ∧
    (r.provider.answer (.zoneExists domain.zone.text) s).1 = .ok false
  refused : r.provider.capabilities.audit domain.desiredRecords ≠ .ok () → requests = []

namespace Aborted

variable {s : σ} {requests reads : List Request}

theorem nil (r : Reconciler σ) (domain : Domain) (s : σ) : r.Aborted domain s [] :=
  ⟨by simp, by simp, by simp, fun _ => rfl⟩

/-- What was asked to make sure of the zone, and what was read after that. -/
theorem append (haudit : r.provider.capabilities.audit domain.desiredRecords = .ok ())
    (hensured : r.EnsureRequests domain.zone.text s requests)
    (hreads : ∀ q ∈ reads, q.isRead = true) : r.Aborted domain s (requests ++ reads) := by
  have hnoCreation : reads.filter Request.isCreation = [] := by
    apply List.filter_eq_nil_iff.2
    intro q hq
    have hread := hreads q hq
    cases q <;> first | exact Bool.false_ne_true | cases hread
  have hcreations : (requests ++ reads).filter Request.isCreation =
      requests.filter Request.isCreation := by
    rw [List.filter_append, hnoCreation, List.append_nil]
  refine ⟨?_, ?_, fun zone hzone => ?_, fun h => absurd haudit h⟩
  · exact List.forall_mem_append.2
      ⟨hensured.noWrite, fun q hq => Request.isWrite_of_isRead (hreads q hq)⟩
  · rw [hcreations]
    rcases hensured.creations with hnone | ⟨hone, -, -⟩
    · rw [hnone]
      exact Nat.zero_le 1
    · rw [hone]
      exact Nat.le_refl 1
  · have hcreated : .createZone zone ∈ (requests ++ reads).filter Request.isCreation :=
      List.mem_filter.2 ⟨hzone, rfl⟩
    rw [hcreations] at hcreated
    rcases hensured.creations with hnone | ⟨hone, hon, hmissing⟩
    · rw [hnone] at hcreated
      cases hcreated
    · rw [hone, List.mem_singleton] at hcreated
      cases hcreated
      exact ⟨rfl, hon, hmissing⟩

end Aborted

/-- Aborted runs. A plan only reads, whatever its result. A reconciliation that ends in an
error has written no record set and created at most the zone of the domain, and that only
if it was told that the zone is missing and if zones may be created; for a domain that fails
the audit it has asked for nothing. -/
theorem reconcile_aborted (r : Reconciler σ) (domain : Domain) (s : Session σ) :
    (∀ q ∈ r.planRequests domain s, q.isRead = true) ∧
    ∀ {e : Error} {t : Session σ}, r.reconcile domain s = (.error e, t) →
      r.Aborted domain s.provider (r.reconcileRequests domain s) := by
  constructor
  · obtain ⟨asked, hasked, hreads⟩ := asks_plan r domain s.logged
    rw [planRequests, hasked]
    exact hreads
  · intro e t hrun
    have hlogged : (r.logged.reconcile domain s.logged).1 = .error e := by
      have hshown := r.logged_projectsTo.reconcile domain [] s.logged
      exact (congrArg Prod.fst (hshown.symm.trans hrun))
    unfold reconcileRequests
    have hcases := r.logged.reconcile_cases domain s.logged
    generalize r.logged.reconcile domain s.logged = out at hcases hlogged
    have hensured : ∃ asked, (r.logged.ensureZone domain.zone.text
        (s.logged.emit (.started domain.zone.text))).2.provider.requests = asked ∧
          r.EnsureRequests domain.zone.text s.provider asked :=
      exists_ensureRequests r domain.zone.text (s.logged.emit (.started domain.zone.text))
    cases hcases with
    | refused haudit => exact .nil r domain s.provider
    | unhosted haudit hzone =>
      obtain ⟨asked, hasked, hshape⟩ := hensured
      rw [hzone] at hasked
      simp only at hasked ⊢
      rw [hasked, ← List.append_nil asked]
      exact .append haudit hshape (by simp)
    | @unplanned e u v isNew haudit hzone hplan =>
      obtain ⟨asked, hasked, hshape⟩ := hensured
      obtain ⟨reads, hread, hreads⟩ := asks_plan r domain u
      rw [hzone] at hasked
      rw [hplan] at hread
      simp only at hasked hread ⊢
      rw [hread, hasked]
      exact .append haudit hshape hreads
    | applied haudit hzone hplan => cases hlogged

/-- Creates zones and never finds one, nor any name servers. -/
private def forgetful : Provider Unit where
  name := "forgetful"
  capabilities := {}
  answer {α} (c : Call α) s :=
    match c with
    | .zoneExists _ => (.ok false, s)
    | .list _ => (.ok [], s)
    | .get .. => (.error (.notFound "set"), s)
    | .nameservers _ => (.error (.provider "forgetful" "no name servers"), s)
    | .createZone _ | .create .. | .update .. | .delete .. => (.ok (), s)

private def onForgetful : Reconciler Unit :=
  { provider := forgetful, config := {}, scheduler := .virtualTime }

private def newZone : Domain :=
  { name := "example.com", records := [⟨"www", 300, .a ⟨1, 2, 3, 4⟩⟩] }

/-- A zone is created, and then its name servers cannot be read. -/
theorem reconcile_aborted_no_nameservers :
    ∃ e t, onForgetful.reconcile newZone (.start ()) = (.error e, t) ∧
      onForgetful.Aborted newZone () (onForgetful.reconcileRequests newZone (.start ())) ∧
      (onForgetful.reconcileRequests newZone (.start ())).map Request.isCreation =
        [false, true, false, false] := by
  have hfails : (onForgetful.reconcile newZone (.start ())).1.toOption.isNone = true := by
    decide +kernel
  generalize hrun : onForgetful.reconcile newZone (.start ()) = run at hfails
  obtain ⟨result, t⟩ := run
  cases result with
  | ok report => cases hfails
  | error e => exact ⟨e, t, rfl, (reconcile_aborted _ _ _).2 hrun, by decide +kernel⟩

end Reconciler

end DnsReconcile
