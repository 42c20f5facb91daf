import DnsReconcile.Proofs.ReconcileRun
import DnsReconcile.Proofs.Requests

/-!
Zones that come to be hosted.

A provider may answer from a store every call that writes no record set, whatever becomes
of the others (`Provider.Serves`). On such a provider it is settled what making sure of a
zone comes to (`Serves.ensureZone_ok`, `Serves.ensureZone_error`): the zone is hosted
behind it (`Store.hosting`), without record sets if it was missing. For a plan that makes
no difference (`Store.planned_hosting`), as a missing zone counts as empty.
-/

namespace DnsReconcile

variable {σ : Type}

namespace Store

/-- The store once it hosts a zone. One that is missing is created without record sets. -/
def hosting (s : Store) (zone : String) : Store :=
  match s.contents? zone with
  | some _ => s
  | none => s.setContents zone .empty

variable {s : Store} {zone : String}

theorem hosting_of_contents {m : Contents} (h : s.contents? zone = some m) :
    s.hosting zone = s := by
  rw [hosting, h]

theorem hosting_of_missing (h : s.contents? zone = none) :
    s.hosting zone = s.setContents zone .empty := by
  rw [hosting, h]

theorem contents?_hosting (s : Store) (zone : String) :
    (s.hosting zone).contents? zone = some ((s.contents? zone).getD .empty) := by
  cases h : s.contents? zone with
  | none => rw [hosting_of_missing h, contents?_setContents, if_pos rfl, Option.getD_none]
  | some m => rw [hosting_of_contents h, h, Option.getD_some]

theorem hosting_ne_iff : s.hosting zone ≠ s ↔ s.contents? zone = none := by
  constructor
  · intro hne
    by_contra hsome
    obtain ⟨m, hm⟩ := Option.ne_none_iff_exists'.1 hsome
    exact hne (hosting_of_contents hm)
  · intro hnone hsame
    have hhosted := contents?_hosting s zone
    rw [hsame, hnone] at hhosted
    cases hhosted

theorem observed_hosting (s : Store) (zone : String) :
    (s.hosting zone).observed zone = s.observed zone := by
  unfold observed
  rw [contents?_hosting]
  cases s.contents? zone <;> rfl

/-- A plan is the same whether a missing zone is created before or not. -/
theorem planned_hosting (s : Store) (nameservers : List String) (capabilities : Capabilities)
    (domain : Domain) :
    (s.hosting domain.zone.text).planned nameservers capabilities domain =
      s.planned nameservers capabilities domain := by
  rw [planned, planned, observed_hosting]

end Store

/-- In its good states the provider answers every call that writes no record set from the
store that `view` shows. -/
structure Provider.Serves (p : Provider σ) (nameservers : List String) (view : σ → Store)
    (Good : σ → Prop) : Prop where
  answer : ∀ {α : Type} (c : Call α) (s : σ), Good s → c.request.isWrite = false →
    ((p.answer c s).1, view (p.answer c s).2) = Store.answer nameservers c (view s)
  good : ∀ {α : Type} (c : Call α) (s : σ), Good s → c.request.isWrite = false →
    Good (p.answer c s).2

theorem Provider.Serves.shows {p : Provider σ} {nameservers : List String} {view : σ → Store}
    {Good : σ → Prop} (h : p.Serves nameservers view Good) : p.Shows nameservers view Good := by
  have hreads : ∀ {α : Type} (c : Call α), c.isRead = true → c.request.isWrite = false :=
    fun c hc => Request.isWrite_of_isRead (c.isRead_request.trans hc)
  refine ⟨fun c s hs hc => ?_, fun c s hs hc => h.good c s hs (hreads c hc)⟩
  obtain ⟨hresult, hview⟩ := Prod.mk.inj (h.answer c s hs (hreads c hc))
  exact ⟨hresult, hview.trans (Store.answer_read nameservers hc (view s))⟩

/-- The store itself, whatever types it is said to host. -/
theorem Store.serves (nameservers : List String) (capabilities : Capabilities) :
    { provider nameservers with capabilities }.Serves nameservers id (fun _ => True) :=
  ⟨fun _ _ _ _ => rfl, fun _ _ _ _ => trivial⟩

namespace Provider.Serves

variable {nameservers : List String} {view : σ → Store} {Good : σ → Prop} {r : Reconciler σ}
  {zone : String} {s t : Session σ}

/-- What the check for a zone comes to. -/
theorem of_zoneExists (h : r.provider.Serves nameservers view Good) (hgood : Good s.provider)
    {result : Except Error Bool} (hrun : r.zoneExists zone s = (result, t)) :
    result = .ok ((view s.provider).contents? zone).isSome ∧ Good t.provider ∧
      view t.provider = view s.provider := by
  have hreads := h.shows.reads_zoneExists (view s.provider) zone s hgood rfl
  rw [hrun] at hreads
  exact hreads

/-- A zone that is told to be missing is missing. -/
theorem missing_of_zoneExists (h : r.provider.Serves nameservers view Good)
    (hgood : Good s.provider) (hrun : r.zoneExists zone s = (.ok false, t)) :
    (view s.provider).contents? zone = none ∧ Good t.provider ∧
      view t.provider = view s.provider := by
  obtain ⟨hfound, hshown⟩ := h.of_zoneExists hgood hrun
  exact ⟨Option.isNone_iff_eq_none.1 (Option.isSome_eq_false_iff.1 (Except.ok.inj hfound).symm),
    hshown⟩

/-- What the creation of a missing zone comes to. -/
theorem of_createZone (h : r.provider.Serves nameservers view Good) (hgood : Good s.provider)
    (hmissing : (view s.provider).contents? zone = none) {result : Except Error Unit}
    (hrun : r.ask (.createZone zone) s = (result, t)) :
    result = .ok () ∧ Good t.provider ∧ view t.provider = (view s.provider).hosting zone := by
  have hcreated : Store.answer nameservers (.createZone zone) (view s.provider) =
      (.ok (), (view s.provider).hosting zone) := by
    rw [Store.hosting_of_missing hmissing, Store.answer, Store.createZone, hmissing]
    rfl
  obtain ⟨hresult, hview⟩ :=
    Prod.mk.inj ((h.answer (.createZone zone) s.provider hgood rfl).trans hcreated)
  have hgood' := h.good (.createZone zone) s.provider hgood rfl
  rw [Reconciler.ask] at hrun
  obtain ⟨rfl, rfl⟩ := Prod.mk.inj hrun
  rw [Reconciler.provider_called]
  exact ⟨hresult, hgood', hview⟩

/-- Once it is made sure of a zone, it is hosted. -/
theorem ensureZone_ok (h : r.provider.Serves nameservers view Good) (hgood : Good s.provider)
    {isNew : Bool} (hrun : r.ensureZone zone s = (.ok isNew, t)) :
    Good t.provider ∧ view t.provider = (view s.provider).hosting zone ∧
      ((view s.provider).contents? zone = none → r.config.createMissingZones = true) := by
  have hcases := r.ensureZone_cases zone s
  rw [hrun] at hcases
  cases hcases with
  | hosted hcheck =>
    obtain ⟨hfound, hgood', hview⟩ := h.of_zoneExists hgood hcheck
    obtain ⟨m, hm⟩ := Option.isSome_iff_exists.1 (Except.ok.inj hfound).symm
    rw [Store.hosting_of_contents hm, hm]
    exact ⟨hgood', hview, fun hnone => by cases hnone⟩
  | created hcheck hon hcreate =>
    obtain ⟨hmissing, hgood', hview⟩ := h.missing_of_zoneExists hgood hcheck
    rw [← hview] at hmissing ⊢
    obtain ⟨-, hgood'', hview'⟩ := h.of_createZone hgood' hmissing hcreate
    exact ⟨hgood'', hview', fun _ => hon⟩

/-- It cannot be made sure of a zone only if it is missing and may not be created. -/
theorem ensureZone_error (h : r.provider.Serves nameservers view Good) (hgood : Good s.provider)
    {e : Error} (hrun : r.ensureZone zone s = (.error e, t)) :
    e = .notFound s!"zone {zone} does not exist and create_missing_zones is off" ∧
      view t.provider = view s.provider ∧ (view s.provider).contents? zone = none ∧
      r.config.createMissingZones = false := by
  have hcases := r.ensureZone_cases zone s
  rw [hrun] at hcases
  cases hcases with
  | unknown hcheck => cases (h.of_zoneExists hgood hcheck).1
  | disallowed hcheck hoff =>
    obtain ⟨hmissing, -, hview⟩ := h.missing_of_zoneExists hgood hcheck
    exact ⟨rfl, hview, hmissing, hoff⟩
  | failed hcheck hon hcreate =>
    obtain ⟨hmissing, hgood', hview⟩ := h.missing_of_zoneExists hgood hcheck
    rw [← hview] at hmissing
    cases (h.of_createZone hgood' hmissing hcreate).1

end Provider.Serves

end DnsReconcile
