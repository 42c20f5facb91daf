import DnsReconcile.Proofs.Projection

/-!
What a run asks of its provider.

A provider can keep a record of what it is asked (`Provider.logged`), and a run that is
recorded is the run itself (`Reconciler.logged_projectsTo`). So the requests of a run are
those that the record of it holds behind it (`planRequests`, `reconcileRequests`).

What holds of every request that a part of a run makes is carried through it by
`Reconciler.Steps`: a relation between sessions that single calls keep is kept by a whole
plan, and by making sure that a zone exists.
-/

namespace DnsReconcile

variable {σ : Type}

inductive Request where
  /-- To read, with the line that tells the call. -/
  | read (line : String)
  | createZone (zone : String)
  /-- To create, update or delete a record set. -/
  | write (o : Operation)

namespace Request

def isRead : Request → Bool
  | read _ => true
  | createZone _ | write _ => false

def isWrite : Request → Bool
  | write _ => true
  | read _ | createZone _ => false

def isCreation : Request → Bool
  | createZone _ => true
  | read _ | write _ => false

theorem isWrite_of_isRead {q : Request} (h : q.isRead = true) : q.isWrite = false := by
  cases q <;> first | rfl | cases h

end Request

def Call.request {α : Type} : Call α → Request
  | .createZone zone => .createZone zone
  | .create zone name type set => .write ⟨zone, name, type, .create set⟩
  | .update zone name type set => .write ⟨zone, name, type, .update set⟩
  | .delete zone name type => .write ⟨zone, name, type, .delete⟩
  | c => .read c.text

theorem Call.isRead_request {α : Type} (c : Call α) : c.request.isRead = c.isRead := by
  cases c <;> rfl

theorem Operation.request_call (o : Operation) : o.call.request = .write o := by
  obtain ⟨zone, name, type, action⟩ := o
  cases action <;> rfl

structure Logged (σ : Type) where
  inner : σ
  /-- The requests so far, oldest first. -/
  requests : List Request

/-- The provider with a record of what it is asked. -/
def Provider.logged (p : Provider σ) : Provider (Logged σ) where
  name := p.name
  capabilities := p.capabilities
  answer c s := ((p.answer c s.inner).1,
    ⟨(p.answer c s.inner).2, s.requests ++ [c.request]⟩)
  crash c s := (p.crash c s.inner).map (⟨·, s.requests ++ [c.request]⟩)
  isRemote := p.isRemote

def Session.logged (s : Session σ) : Session (Logged σ) := ⟨⟨s.provider, []⟩, s.clock, s.notices⟩

namespace Reconciler

/-- The reconciler of the provider with a record, which no choice of moves depends on. -/
def logged (r : Reconciler σ) : Reconciler (Logged σ) where
  provider := r.provider.logged
  config := r.config
  scheduler pool := r.scheduler (pool.project Logged.inner)

/-- Keeping a record makes no difference. -/
theorem logged_projectsTo (r : Reconciler σ) : r.logged.ProjectsTo r Logged.inner where
  provider :=
    { capabilities := rfl
      isRemote := rfl
      answer := fun _ _ => rfl
      crash := by
        intro α c s
        change _ = ((r.provider.crash c s.inner).map _).map _
        rw [Option.map_map]
        exact Option.map_id'.symm }
  config := rfl
  scheduler := fun _ => rfl

/-- The requests of a plan, in order. -/
def planRequests (r : Reconciler σ) (domain : Domain) (s : Session σ) : List Request :=
  (r.logged.plan domain s.logged).2.provider.requests

/-- The requests of a reconciliation, in order. -/
def reconcileRequests (r : Reconciler σ) (domain : Domain) (s : Session σ) : List Request :=
  (r.logged.reconcile domain s.logged).2.provider.requests

/-- A relation between a session and a later one that calls with certain requests keep,
and that does not depend on what is told. -/
structure Steps (r : Reconciler σ) (allowed : Request → Prop)
    (R : Session σ → Session σ → Prop) : Prop where
  refl : ∀ s : Session σ, R s s
  trans : ∀ {s t u : Session σ}, R s t → R t u → R s u
  told : ∀ (s : Session σ) (e : Event), R s (s.emit e)
  called : ∀ {α : Type} (c : Call α) (s : Session σ), allowed c.request →
    R s (s.called r.provider (r.provider.answer c s.provider).2)

namespace Steps

variable {r : Reconciler σ} {allowed : Request → Prop} {R : Session σ → Session σ → Prop}

theorem bind (h : r.Steps allowed R) {α β : Type} {m : Run σ α} {k : α → Run σ β}
    (hm : ∀ s, R s (m s).2) (hk : ∀ a s, R s (k a s).2) (s : Session σ) :
    R s ((m >>= k) s).2 := by
  rw [Run.bind_apply]
  have hfirst := hm s
  cases hrun : m s with
  | mk result t =>
    rw [hrun] at hfirst
    cases result with
    | error e => exact hfirst
    | ok a => exact h.trans hfirst (hk a t)

theorem relates (h : r.Steps allowed R) :
    r.Relates r (fun _ c => allowed c.request) (fun _ m _ => ∀ s, R s (m s).2) where
  capabilities := rfl
  createMissingZones := rfl
  pure := fun _ => h.refl
  throw := fun _ => h.refl
  tell := fun e s => h.told s e
  ask := fun c hc s => h.called c s hc
  fetch := fun _ c hc s => h.called c s hc
  bind := h.bind

private theorem allowed_of_isRead (hreads : ∀ line, allowed (.read line)) {α : Type} {c : Call α}
    (hc : c.isRead = true) : allowed c.request := by
  cases c <;> first | exact hreads _ | cases hc

/-- A plan keeps what reading keeps. -/
theorem plan (h : r.Steps allowed R) (hreads : ∀ line, allowed (.read line)) (domain : Domain)
    (s : Session σ) : R s (r.plan domain s).2 :=
  h.relates.plan domain (fun _ _ hc _ => allowed_of_isRead hreads hc) s

/-- Making sure of a zone keeps what reading and the creation of the zone keep. -/
theorem ensureZone (h : r.Steps allowed R) (hreads : ∀ line, allowed (.read line))
    (zone : String) (hcreate : allowed (.createZone zone)) (s : Session σ) :
    R s (r.ensureZone zone s).2 := by
  have hallowed : allowed (Call.createZone zone).request := hcreate
  exact h.relates.ensureZone (fun _ _ hc _ => allowed_of_isRead hreads hc) hallowed s

end Steps

end Reconciler

end DnsReconcile
