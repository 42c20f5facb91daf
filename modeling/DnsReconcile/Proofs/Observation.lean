import DnsReconcile.Engine
import DnsReconcile.Proofs.Checks
import DnsReconcile.Proofs.Fronting

/-!
What planning reads.

On a provider that shows a store, a plan depends on nothing but the store, the
reported name servers and what the provider can host, and it leaves the store as
it is (`Shows.reads_plan`). What it comes to is `Store.planned`: the records of
the zone are read set by set, the name servers are merged in, and the two sides
are compared.
-/

namespace DnsReconcile

variable {σ : Type}

def Contents.records (zone : String) : List (Label × NativeSet) → Except Error (List Record)
  | [] => .ok []
  | (l, set) :: rest => do
    let records ← set.toRecords zone l.name.text l.type
    let others ← Contents.records zone rest
    return records ++ others

namespace Store

/-- The records that are observed in a zone. A zone that does not exist counts
as empty. -/
def observed (s : Store) (zone : String) : Except Error (List Record) :=
  match s.contents? zone with
  | none => .ok []
  | some m => Contents.records zone m.entries

end Store

def Reconciler.sides (zone : String) (capabilities : Capabilities) (nameservers : List String)
    (desired observed : List Record) : List Record × List Record :=
  if desired.any (fun r => r.label = apexLabel zone) then (desired, observed)
  else mergeNameservers zone capabilities nameservers desired observed

def Store.planned (s : Store) (nameservers : List String) (capabilities : Capabilities)
    (domain : Domain) : Except Error (List Correction) := do
  capabilities.audit domain.desiredRecords
  let observed ← s.observed domain.zone.text
  let sides := Reconciler.sides domain.zone.text capabilities nameservers domain.desiredRecords
    observed
  Correction.compute domain.zone.text sides.1 sides.2 capabilities

theorem Store.planned_eq_ok_iff {s : Store} {nameservers : List String}
    {capabilities : Capabilities} {domain : Domain} {cs : List Correction} :
    s.planned nameservers capabilities domain = .ok cs ↔
      capabilities.audit domain.desiredRecords = .ok () ∧
      ∃ observed, s.observed domain.zone.text = .ok observed ∧
        Correction.compute domain.zone.text
          (Reconciler.sides domain.zone.text capabilities nameservers domain.desiredRecords
            observed).1
          (Reconciler.sides domain.zone.text capabilities nameservers domain.desiredRecords
            observed).2 capabilities = .ok cs := by
  unfold planned
  rw [Except.check_eq_ok_iff, Except.bind_eq_ok_iff]

/-- A run goes on with what its first part comes to, and ends with it if that is
an error. -/
theorem Run.bind_apply {α β : Type} (m : Run σ α) (k : α → Run σ β) (s : Session σ) :
    (m >>= k) s = match m s with
      | (.ok a, t) => k a t
      | (.error e, t) => (.error e, t) := by
  change (ExceptT.bindCont k (m s).1 (m s).2 : Except Error β × Session σ) = _
  rcases m s with ⟨_ | _, t⟩ <;> rfl

/-- A part of a run that, on good states which show `store`, comes to `outcome`
and leaves the store as it is. -/
def Reads (view : σ → Store) (Good : σ → Prop) (store : Store) {α : Type} (m : Run σ α)
    (outcome : Except Error α) : Prop :=
  ∀ s : Session σ, Good s.provider → view s.provider = store →
    (m s).1 = outcome ∧ Good (m s).2.provider ∧ view (m s).2.provider = store

namespace Reads

variable {view : σ → Store} {Good : σ → Prop} {store : Store} {α β : Type}

theorem pure (a : α) : Reads view Good store (Pure.pure a) (.ok a) :=
  fun _ hgood hview => ⟨rfl, hgood, hview⟩

theorem lift {e outcome : Except Error α} (h : e = outcome) :
    Reads view Good store (liftM e) outcome := by
  subst h
  cases e <;> exact fun _ hgood hview => ⟨rfl, hgood, hview⟩

theorem tell (e : Event) : Reads view Good store (Reconciler.tell e) (.ok ()) :=
  fun _ hgood hview => ⟨rfl, hgood, hview⟩

theorem bind {m : Run σ α} {outcome : Except Error α} {k : α → Run σ β}
    {next : α → Except Error β} (hm : Reads view Good store m outcome)
    (hk : ∀ a, outcome = .ok a → Reads view Good store (k a) (next a)) :
    Reads view Good store (m >>= k) (outcome >>= next) := by
  intro s hgood hview
  obtain ⟨hresult, hgood', hview'⟩ := hm s hgood hview
  rw [Run.bind_apply]
  cases hrun : m s with
  | mk result t =>
    rw [hrun] at hresult hgood' hview'
    subst hresult
    cases result with
    | error e => exact ⟨rfl, hgood', hview'⟩
    | ok a => exact hk a rfl t hgood' hview'

theorem bind_ok {m : Run σ α} {a : α} {k : α → Run σ β} {outcome : Except Error β}
    (hm : Reads view Good store m (.ok a)) (hk : Reads view Good store (k a) outcome) :
    Reads view Good store (m >>= k) outcome := by
  have hbind : Reads view Good store (m >>= k) ((.ok a : Except Error α) >>= fun _ => outcome) :=
    hm.bind (by
      rintro b ⟨⟩
      exact hk)
  exact hbind

theorem bind_self {m : Run σ α} {outcome : Except Error α} {k : α → Run σ α}
    (hm : Reads view Good store m outcome) (hk : ∀ a, Reads view Good store (k a) (.ok a)) :
    Reads view Good store (m >>= k) outcome := by
  have hbind : Reads view Good store (m >>= k) (outcome >>= .ok) := hm.bind (fun a _ => hk a)
  cases outcome <;> exact hbind

end Reads

/-- The name of a type is read as that type. -/
theorem RecordType.ofString_text (t : RecordType) : ofString t.text = .ok t := by
  cases t <;> decide +kernel

namespace Reconciler

/-- The records that a zone is observed with. There are none in a zone that the
provider does not host. -/
def observe (r : Reconciler σ) (zone : String) : Run σ (List Record) := do
  if ← r.zoneExists zone then r.fetchObserved zone else pure []

/-- What is left of a plan once the zone is observed. -/
def planObserved (r : Reconciler σ) (domain : Domain) (observed : List Record) :
    Run σ (List Correction) := do
  let sides ← r.withApexNameservers domain.zone.text domain.desiredRecords observed
  let corrections ←
    Correction.compute domain.zone.text sides.1 sides.2 r.provider.capabilities
  if corrections.isEmpty then tell (.inSync domain.zone.text)
  else tell (.planReady domain.zone.text corrections.length)
  return corrections

/-- A plan audits, observes, asks for the name servers and compares. -/
theorem plan_eq_observe (r : Reconciler σ) (domain : Domain) :
    r.plan domain = (do
      r.provider.capabilities.audit domain.desiredRecords
      let observed ← r.observe domain.zone.text
      r.planObserved domain observed) := by
  unfold plan observe
  simp only [bind_assoc]
  refine bind_congr (fun _ => bind_congr (fun hosted => ?_))
  cases hosted <;> rfl

end Reconciler

namespace Provider.Shows

variable {nameservers : List String} {view : σ → Store} {Good : σ → Prop} {r : Reconciler σ}

theorem reads_ask (h : r.provider.Shows nameservers view Good) (store : Store) {α : Type}
    {c : Call α} (hc : c.isRead = true) :
    Reads view Good store (r.ask c) (Store.answer nameservers c store).1 := by
  rintro s hgood rfl
  obtain ⟨hresult, hview⟩ := h.read c s.provider hgood hc
  have hprovider : (r.ask c s).2.provider = (r.provider.answer c s.provider).2 := by
    change (s.called r.provider _).provider = _
    unfold Session.called
    split <;> rfl
  rw [hprovider]
  exact ⟨hresult, h.good c s.provider hgood hc, hview⟩

theorem reads_fetch (h : r.provider.Shows nameservers view Good) (store : Store) {α : Type}
    (context : String) {c : Call α} (hc : c.isRead = true) {a : α}
    (ha : (Store.answer nameservers c store).1 = .ok a) :
    Reads view Good store (r.fetch context c) (.ok a) := by
  intro s hgood hview
  obtain ⟨hresult, hgood', hview'⟩ := h.reads_ask store hc s hgood hview
  refine ⟨?_, hgood', hview'⟩
  change (r.ask c s).1.mapError _ = _
  rw [hresult, ha]
  rfl

theorem reads_zoneExists (h : r.provider.Shows nameservers view Good) (store : Store)
    (zone : String) :
    Reads view Good store (r.zoneExists zone) (.ok (store.contents? zone).isSome) :=
  h.reads_fetch store _ rfl rfl

/-- A set in the listing of a zone is read as its records. -/
theorem reads_fetchSets (h : r.provider.Shows nameservers view Good) {store : Store}
    {zone : String} {m : Contents} (hm : store.contents? zone = some m)
    {entries : List (Label × NativeSet)} (hentries : ∀ e ∈ entries, e ∈ m.entries) :
    Reads view Good store
      (r.fetchSets zone (entries.map (fun e => ⟨e.1.name.text, e.1.type.text⟩)))
      (Contents.records zone entries) := by
  induction entries with
  | nil => exact .pure []
  | cons e rest ih =>
    obtain ⟨l, set⟩ := e
    obtain ⟨he, hrest⟩ := List.forall_mem_cons.1 hentries
    have hset : (Store.answer nameservers (.get zone l.name.text l.type) store).1 = .ok set := by
      have hget : m.get? (.new l.name.text l.type) = some set := by
        rw [Label.new, Name.ofString_text]
        exact SortedMap.get?_eq_some_iff.2 he
      simp [Store.answer, Store.reading, Store.get, Store.hosted, hm, hget, bind, Except.bind,
        pure, Except.pure]
    rw [List.map_cons, Reconciler.fetchSets]
    refine (Reads.lift l.type.ofString_text).bind_ok ?_
    refine Reads.bind_ok (h.reads_fetch store _ (c := .get zone l.name.text l.type) rfl hset) ?_
    refine (Reads.lift rfl).bind (fun records _ => ?_)
    exact (ih hrest).bind (fun others _ => .pure (records ++ others))

theorem reads_fetchObserved (h : r.provider.Shows nameservers view Good) {store : Store}
    {zone : String} {m : Contents} (hm : store.contents? zone = some m) :
    Reads view Good store (r.fetchObserved zone) (Contents.records zone m.entries) := by
  have hlist : (Store.answer nameservers (.list zone) store).1 =
      .ok (m.entries.map (fun e => ⟨e.1.name.text, e.1.type.text⟩)) := by
    simp [Store.answer, Store.reading, Store.list, Store.hosted, hm, SortedMap.keys, bind,
      Except.bind, pure, Except.pure]
  apply (h.reads_fetch store _ rfl hlist).bind_ok
  exact h.reads_fetchSets hm (fun _ he => he)

theorem reads_withApexNameservers (h : r.provider.Shows nameservers view Good) (store : Store)
    (zone : String) (desired observed : List Record) :
    Reads view Good store (r.withApexNameservers zone desired observed)
      (.ok (Reconciler.sides zone r.provider.capabilities nameservers desired observed)) := by
  unfold Reconciler.withApexNameservers Reconciler.sides
  by_cases hapex : desired.any (fun rec => rec.label = Reconciler.apexLabel zone) = true
  · rw [if_pos hapex, if_pos hapex]
    exact .pure _
  · rw [if_neg hapex, if_neg hapex]
    exact (h.reads_fetch store _ rfl rfl).bind_ok (.pure _)

theorem reads_observe (h : r.provider.Shows nameservers view Good) (store : Store)
    (zone : String) : Reads view Good store (r.observe zone) (store.observed zone) := by
  refine (h.reads_zoneExists store zone).bind_ok ?_
  unfold Store.observed
  cases hm : store.contents? zone with
  | none => exact .pure []
  | some m => exact h.reads_fetchObserved hm

/-- A plan is made from what the store holds and changes nothing. -/
theorem reads_plan (h : r.provider.Shows nameservers view Good) (store : Store)
    (domain : Domain) :
    Reads view Good store (r.plan domain)
      (store.planned nameservers r.provider.capabilities domain) := by
  rw [r.plan_eq_observe]
  refine (Reads.lift rfl).bind (fun _ _ => ?_)
  refine (h.reads_observe store domain.zone.text).bind (fun observed _ => ?_)
  refine (h.reads_withApexNameservers store _ _ observed).bind_ok ?_
  refine (Reads.lift rfl).bind_self (fun corrections => ?_)
  cases hnone : corrections.isEmpty
  · exact (Reads.tell _).bind_ok (.pure corrections)
  · exact (Reads.tell _).bind_ok (.pure corrections)

end Provider.Shows

end DnsReconcile
