import DnsReconcile.Proofs.Observation

/-!
What runs are made of.

To compare two runs, or to follow one, takes a relation between parts of runs. If it holds
of results, failures, events and calls, and of what goes on from one part to the next
(`Reconciler.Relates`), it holds of making sure that a zone exists and of a whole plan
(`Relates.ensureZone`, `Relates.plan`), where of the calls only those about the zone
matter. A property of one run is such a relation too, which looks at one side only.
-/

namespace DnsReconcile

variable {σ τ : Type}

namespace Reconciler

/-- A relation between parts of a run with `r` and parts of a run with `r'` that holds of
what runs are made of, where of the calls only the allowed ones count. -/
structure Relates (r : Reconciler σ) (r' : Reconciler τ) (allowed : ∀ α : Type, Call α → Prop)
    (Q : ∀ α : Type, Run σ α → Run τ α → Prop) : Prop where
  capabilities : r'.provider.capabilities = r.provider.capabilities
  createMissingZones : r'.config.createMissingZones = r.config.createMissingZones
  pure : ∀ {α : Type} (a : α), Q α (Pure.pure a) (Pure.pure a)
  throw : ∀ {α : Type} (e : Error), Q α (MonadExcept.throw e) (MonadExcept.throw e)
  tell : ∀ e : Event, Q Unit (Reconciler.tell e) (Reconciler.tell e)
  ask : ∀ {α : Type} (c : Call α), allowed α c → Q α (r.ask c) (r'.ask c)
  fetch : ∀ {α : Type} (context : String) (c : Call α), allowed α c →
    Q α (r.fetch context c) (r'.fetch context c)
  bind : ∀ {α β : Type} {m : Run σ α} {n : Run τ α} {k : α → Run σ β} {l : α → Run τ β},
    Q α m n → (∀ a, Q β (k a) (l a)) → Q β (m >>= k) (n >>= l)

namespace Relates

variable {r : Reconciler σ} {r' : Reconciler τ} {allowed : ∀ α : Type, Call α → Prop}
  {Q : ∀ α : Type, Run σ α → Run τ α → Prop} {zone : String}

theorem lift (h : r.Relates r' allowed Q) {α : Type} (e : Except Error α) :
    Q α (liftM e) (liftM e) := by
  cases e with
  | ok a => exact h.pure a
  | error e => exact h.throw e

section reading

variable (h : r.Relates r' allowed Q)
  (hreads : ∀ (α : Type) (c : Call α), c.isRead = true → c.zone = zone → allowed α c)

include h hreads

theorem zoneExists : Q Bool (r.zoneExists zone) (r'.zoneExists zone) :=
  h.fetch _ _ (hreads _ _ rfl rfl)

theorem fetchSets (refs : List SetRef) :
    Q (List Record) (r.fetchSets zone refs) (r'.fetchSets zone refs) := by
  induction refs with
  | nil => exact h.pure []
  | cons ref rest ih =>
    rw [Reconciler.fetchSets, Reconciler.fetchSets]
    refine h.bind (h.lift _) (fun type => h.bind (h.fetch _ _ (hreads _ _ rfl rfl)) ?_)
    exact fun set => h.bind (h.lift _) (fun records => h.bind ih (fun others => h.pure _))

theorem fetchObserved : Q (List Record) (r.fetchObserved zone) (r'.fetchObserved zone) :=
  h.bind (h.fetch _ _ (hreads _ _ rfl rfl)) (h.fetchSets hreads)

theorem observe : Q (List Record) (r.observe zone) (r'.observe zone) := by
  refine h.bind (h.zoneExists hreads) (fun hosted => ?_)
  cases hosted with
  | false => exact h.pure []
  | true => exact h.fetchObserved hreads

theorem withApexNameservers (desired observed : List Record) :
    Q _ (r.withApexNameservers zone desired observed)
      (r'.withApexNameservers zone desired observed) := by
  unfold Reconciler.withApexNameservers
  rw [h.capabilities]
  split
  · exact h.pure _
  · exact h.bind (h.fetch _ _ (hreads _ _ rfl rfl)) (fun _ => h.pure _)

/-- The relation holds of making sure of a zone, if the zone may be created. -/
theorem ensureZone (hcreate : allowed Unit (.createZone zone)) :
    Q Bool (r.ensureZone zone) (r'.ensureZone zone) := by
  refine h.bind (h.zoneExists hreads) (fun hosted => ?_)
  rw [h.createMissingZones]
  cases hosted with
  | true => exact h.pure false
  | false =>
    cases r.config.createMissingZones with
    | false => exact h.throw _
    | true => exact h.bind (h.ask _ hcreate) (fun _ => h.bind (h.tell _) (fun _ => h.pure true))

end reading

/-- The relation holds of planning. -/
theorem plan (h : r.Relates r' allowed Q) (domain : Domain)
    (hreads : ∀ (α : Type) (c : Call α), c.isRead = true → c.zone = domain.zone.text →
      allowed α c) : Q (List Correction) (r.plan domain) (r'.plan domain) := by
  rw [r.plan_eq_observe, r'.plan_eq_observe, h.capabilities]
  refine h.bind (h.lift _) (fun _ => h.bind (h.observe hreads) (fun observed => ?_))
  unfold Reconciler.planObserved
  rw [h.capabilities]
  refine h.bind (h.withApexNameservers hreads _ observed) (fun sides => ?_)
  refine h.bind (h.lift _) (fun corrections => ?_)
  cases corrections.isEmpty <;> exact h.bind (h.tell _) (fun _ => h.pure corrections)

end Relates

end Reconciler

end DnsReconcile
