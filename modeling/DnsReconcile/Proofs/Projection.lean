import DnsReconcile.Proofs.Keeping
import DnsReconcile.Proofs.RunParts

/-!
Runs seen through a projection.

One provider may answer as another does on what a map shows of its states
(`Provider.ProjectsTo`). Then every run on the first is shown as the run on the second:
planning, the application of corrections, in any interleaving that is shown as well, and
whole reconciliations (`ProjectsTo.apply`, `ProjectsTo.reconcile`). So what the map
leaves out makes no difference to any result, and neither does what was told before
(`ProjectsTo.apply_congr`).
-/

namespace DnsReconcile

variable {σ τ : Type} {f : σ → τ}

/-- `q` answers as `p` does, on what `f` shows of its states. -/
structure Provider.ProjectsTo (p : Provider σ) (q : Provider τ) (f : σ → τ) : Prop where
  capabilities : q.capabilities = p.capabilities
  isRemote : q.isRemote = p.isRemote
  answer : ∀ {α : Type} (c : Call α) (s : σ),
    q.answer c (f s) = ((p.answer c s).1, f (p.answer c s).2)
  crash : ∀ {α : Type} (c : Call α) (s : σ), q.crash c (f s) = (p.crash c s).map f

/-- What `f` shows of a session, behind what was told earlier. -/
def Session.project (f : σ → τ) (earlier : List Notice) (s : Session σ) : Session τ :=
  ⟨f s.provider, s.clock, earlier ++ s.notices⟩

def Application.project (f : σ → τ) (earlier : List Notice) (a : Application σ) :
    Application τ :=
  ⟨a.session.project f earlier, a.report⟩

def Pool.project (f : σ → τ) (pool : Pool σ) : Pool τ :=
  { config := pool.config, waiting := pool.waiting, active := pool.active,
    finished := pool.finished, outcomes := pool.outcomes, failureSeen := pool.failureSeen,
    provider := f pool.provider, clock := pool.clock, history := pool.history }

/-- The same settings, and the same choice of moves on what `f` shows. -/
structure Reconciler.ProjectsTo (r : Reconciler σ) (r' : Reconciler τ) (f : σ → τ) : Prop where
  provider : r.provider.ProjectsTo r'.provider f
  config : r'.config = r.config
  scheduler : ∀ pool : Pool σ, r'.scheduler (pool.project f) = r.scheduler pool

section Sessions

variable {p : Provider σ} {q : Provider τ} {earlier : List Notice}

theorem Provider.ProjectsTo.apply (h : p.ProjectsTo q f) (c : Correction) (s : σ) :
    c.apply q (f s) = ((c.apply p s).1, f (c.apply p s).2) := by
  unfold Correction.apply
  rw [h.answer]

theorem Provider.ProjectsTo.apply_of_eq (h : p.ProjectsTo q f) {c : Correction} {s t : σ}
    {result : Except Error Unit} (happly : c.apply p s = (result, t)) :
    c.apply q (f s) = (result, f t) := by
  rw [h.apply, happly]

namespace Session

theorem project_emit (s : Session σ) (e : Event) :
    (s.project f earlier).emit e = (s.emit e).project f earlier := by
  simp [project, emit]

theorem project_pause (s : Session σ) :
    (s.project f earlier).pause = s.pause.project f earlier := by
  simp [project, pause]

theorem project_later (s : Session σ) (seconds : Nat) :
    (s.project f earlier).later seconds = (s.later seconds).project f earlier := by
  simp [project, later, pause]

theorem project_called (h : p.ProjectsTo q f) (s : Session σ) (t : σ) :
    (s.project f earlier).called q (f t) = (s.called p t).project f earlier := by
  unfold called
  rw [h.isRemote]
  split
  · exact project_pause { s with provider := t }
  · rfl

end Session

theorem Application.project_record (a : Application σ) (index : Nat) (c : Correction)
    (o : Outcome) :
    (a.project f earlier).record index c o = (a.record index c o).project f earlier := by
  unfold record
  cases o.result with
  | ok u => simp only [project, Session.project_emit]
  | error e => simp only [project, Session.project_emit]

end Sessions

namespace Pool

variable {p : Provider σ} {q : Provider τ}

theorem project_attempt (h : p.ProjectsTo q f) (pool : Pool σ) (t : Task) :
    (pool.project f).attempt q t = (pool.attempt p t).project f := by
  have hprovider : (pool.project f).provider = f pool.provider := rfl
  simp only [attempt, hprovider, h.crash, h.apply]
  cases p.crash t.correction.operation.call pool.provider with
  | some s => rfl
  | none =>
    cases t.correction.apply p pool.provider with
    | mk result s =>
      cases result with
      | ok u => rfl
      | error e =>
        by_cases hleft : t.attempts < pool.config.maxRetries.toNat
        · have hleft' : t.attempts < (pool.project f).config.maxRetries.toNat := hleft
          simp only [Option.map_none, if_pos hleft, if_pos hleft']
          rfl
        · have hleft' : ¬ t.attempts < (pool.project f).config.maxRetries.toNat := hleft
          simp only [Option.map_none, if_neg hleft, if_neg hleft']
          rfl

theorem project_move? (h : p.ProjectsTo q f) (pool : Pool σ) (m : Move) :
    (pool.project f).move? q m = (pool.move? p m).map (project f) := by
  cases m with
  | start =>
    have hcan : (pool.project f).canStart = pool.canStart := rfl
    have hwaiting : (pool.project f).waiting = pool.waiting := rfl
    simp only [move?, hcan, hwaiting]
    split <;> rfl
  | advance i =>
    simp only [move?, Option.map_map]
    exact congrArg (Option.map · _) (funext (project_attempt h pool))
  | join i =>
    have hcan : (pool.project f).canStart = pool.canStart := rfl
    simp only [move?, hcan]
    split
    · rfl
    · rw [Option.map_map]
      rfl

theorem project_step? (h : p.ProjectsTo q f) (pool : Pool σ) (m : Move) :
    (pool.project f).step? q m = (pool.step? p m).map (project f) := by
  rw [step?, step?, project_move? h, Option.map_map, Option.map_map]
  rfl

theorem project_virtualTime (pool : Pool σ) :
    Scheduler.virtualTime (pool.project f) = Scheduler.virtualTime pool := rfl

variable {scheduler : Scheduler σ} {scheduler' : Scheduler τ}

theorem project_next? (h : p.ProjectsTo q f)
    (hscheduler : ∀ pool : Pool σ, scheduler' (pool.project f) = scheduler pool)
    (pool : Pool σ) :
    (pool.project f).next? q scheduler' = (pool.next? p scheduler).map (project f) := by
  rw [next?, next?, hscheduler, project_step? h, project_step? h, project_virtualTime]
  cases pool.step? p (scheduler pool) <;> rfl

theorem project_drain (h : p.ProjectsTo q f)
    (hscheduler : ∀ pool : Pool σ, scheduler' (pool.project f) = scheduler pool)
    (pool : Pool σ) :
    (pool.project f).drain q scheduler' = (pool.drain p scheduler).project f := by
  have hrun : ∀ (fuel : Nat) (pool : Pool σ),
      (pool.project f).run q scheduler' fuel = (pool.run p scheduler fuel).project f := by
    intro fuel
    induction fuel with
    | zero => exact fun _ => rfl
    | succ fuel ih =>
      intro pool
      have hdone : (pool.project f).isDone = pool.isDone := rfl
      rw [run, run, hdone, project_next? h hscheduler]
      split
      · rfl
      · cases pool.next? p scheduler with
        | none => rfl
        | some next => exact ih next
  exact hrun _ pool

end Pool

namespace Reconciler

section Apply

variable {p : Provider σ} {q : Provider τ} {r : Reconciler σ} {r' : Reconciler τ}

theorem project_applyWithRetries (h : p.ProjectsTo q f) (delay : Nat) (c : Correction)
    (retries : Nat) (earlier : List Notice) (s : Session σ) :
    applyWithRetries q delay c retries (s.project f earlier) =
      ((applyWithRetries p delay c retries s).1,
        (applyWithRetries p delay c retries s).2.project f earlier) := by
  have hsuccess : ∀ (retries : Nat) {s : Session σ} {t : σ}, c.apply p s.provider = (.ok (), t) →
      applyWithRetries q delay c retries (s.project f earlier) =
        ((applyWithRetries p delay c retries s).1,
          (applyWithRetries p delay c retries s).2.project f earlier) := by
    intro retries s t happly
    rw [applyWithRetries_ok happly, applyWithRetries_ok (h.apply_of_eq happly),
      Session.project_called h]
  induction retries generalizing s with
  | zero =>
    cases happly : c.apply p s.provider with
    | mk result t =>
      cases result with
      | ok u => exact hsuccess 0 happly
      | error e =>
        rw [applyWithRetries_last happly, applyWithRetries_last (h.apply_of_eq happly),
          Session.project_called h]
  | succ retries ih =>
    cases happly : c.apply p s.provider with
    | mk result t =>
      cases result with
      | ok u => exact hsuccess (retries + 1) happly
      | error e =>
        rw [applyWithRetries_again happly, applyWithRetries_again (h.apply_of_eq happly),
          Session.project_called h, Session.project_later, ih]

theorem project_recordOutcomes (outcomes : SortedMap Nat Outcome) (earlier : List Notice)
    (pass : List (Nat × Correction)) (a : Application σ) :
    recordOutcomes outcomes pass (a.project f earlier) =
      (recordOutcomes outcomes pass a).project f earlier := by
  induction pass generalizing a with
  | nil => rfl
  | cons e rest ih =>
    obtain ⟨i, c⟩ := e
    rw [recordOutcomes, recordOutcomes]
    cases outcomes.get? i with
    | none => exact ih a
    | some o => exact (congrArg (recordOutcomes outcomes rest)
        (a.project_record i c o)).trans (ih _)

namespace ProjectsTo

theorem stopsOn (h : r.ProjectsTo r' f) (o : Outcome) : r'.stopsOn o = r.stopsOn o := by
  rw [Reconciler.stopsOn, Reconciler.stopsOn, h.config]

theorem applySequentially (h : r.ProjectsTo r' f) (earlier : List Notice)
    (pass : List (Nat × Correction)) (a : Application σ) :
    r'.applySequentially pass (a.project f earlier) =
      ((r.applySequentially pass a).1, (r.applySequentially pass a).2.project f earlier) := by
  induction pass generalizing a with
  | nil => rfl
  | cons e rest ih =>
    obtain ⟨i, c⟩ := e
    have hsession : (a.project f earlier).session = a.session.project f earlier := rfl
    simp only [Reconciler.applySequentially, hsession, h.config,
      project_applyWithRetries h.provider, h.stopsOn]
    cases applyWithRetries r.provider r.config.wait c r.config.maxRetries.toNat a.session with
    | mk o session =>
      have hrecord : Application.record
          { a.project f earlier with session := session.project f earlier } i c o =
            ({ a with session }.record i c o).project f earlier :=
        Application.project_record { a with session } i c o
      simp only [hrecord]
      split
      · rfl
      · exact ih _

theorem applyConcurrently (h : r.ProjectsTo r' f) (earlier : List Notice)
    (pass : List (Nat × Correction)) (a : Application σ) :
    r'.applyConcurrently pass (a.project f earlier) =
      ((r.applyConcurrently pass a).1, (r.applyConcurrently pass a).2.project f earlier) := by
  have hpool : (Pool.new r'.config pass (a.project f earlier).session.provider
      (a.project f earlier).session.clock).drain r'.provider r'.scheduler =
        ((Pool.new r.config pass a.session.provider a.session.clock).drain r.provider
          r.scheduler).project f := by
    rw [← Pool.project_drain h.provider h.scheduler, h.config]
    rfl
  have hstops : r'.stopsOn = r.stopsOn := funext h.stopsOn
  simp only [Reconciler.applyConcurrently, hpool, hstops]
  generalize (Pool.new r.config pass a.session.provider a.session.clock).drain r.provider
    r.scheduler = pool
  have hsession : Session.pause (Session.project f earlier
      { a.session with provider := pool.provider, clock := pool.clock }) = _ :=
    Session.project_pause _
  have hrecorded := project_recordOutcomes (f := f) pool.outcomes earlier pass
    ⟨{ a.session with provider := pool.provider, clock := pool.clock }.pause, a.report⟩
  rw [Application.project, ← hsession] at hrecorded
  exact Prod.ext rfl hrecorded

theorem applyPass (h : r.ProjectsTo r' f) (earlier : List Notice)
    (pass : List (Nat × Correction)) (a : Application σ) :
    r'.applyPass pass (a.project f earlier) =
      ((r.applyPass pass a).1, (r.applyPass pass a).2.project f earlier) := by
  unfold Reconciler.applyPass
  rw [h.config]
  split
  · exact h.applyConcurrently earlier pass a
  · exact h.applySequentially earlier pass a

theorem applyPasses (h : r.ProjectsTo r' f) (earlier : List Notice)
    (passes : List (List (Nat × Correction))) (a : Application σ) :
    r'.applyPasses passes (a.project f earlier) =
      (r.applyPasses passes a).project f earlier := by
  induction passes generalizing a with
  | nil => rfl
  | cons pass rest ih =>
    rw [Reconciler.applyPasses, Reconciler.applyPasses, h.applyPass]
    cases r.applyPass pass a with
    | mk stopped b =>
      cases stopped with
      | true => rfl
      | false => exact ih b

/-- What is shown of the application of a list is an application of the list. -/
theorem apply (h : r.ProjectsTo r' f) (zone : String) (cs : List Correction)
    (earlier : List Notice) (s : Session σ) :
    r'.apply zone cs (s.project f earlier) =
      ((r.apply zone cs s).1, (r.apply zone cs s).2.project f earlier) := by
  have happlied := h.applyPasses earlier (passes cs) ⟨s, { zone, planned := cs.length }⟩
  change r'.applyPasses (passes cs)
    ⟨s.project f earlier, { zone, planned := cs.length }⟩ = _ at happlied
  simp only [Reconciler.apply, happlied]
  exact Prod.ext rfl (Session.project_emit _ _)

end ProjectsTo

end Apply

end Reconciler

/-- `n` is what is shown of `m`. -/
def Run.ProjectsTo {α : Type} (m : Run σ α) (n : Run τ α) (f : σ → τ) : Prop :=
  ∀ (earlier : List Notice) (s : Session σ),
    n (s.project f earlier) = ((m s).1, (m s).2.project f earlier)

namespace Run.ProjectsTo

variable {α β : Type}

theorem pure (a : α) : ProjectsTo (Pure.pure a : Run σ α) (Pure.pure a : Run τ α) f :=
  fun _ _ => rfl

theorem lift (e : Except Error α) : ProjectsTo (liftM e : Run σ α) (liftM e : Run τ α) f := by
  cases e <;> exact fun _ _ => rfl

theorem throw (e : Error) :
    ProjectsTo (MonadExcept.throw e : Run σ α) (MonadExcept.throw e : Run τ α) f :=
  fun _ _ => rfl

theorem tell (e : Event) :
    ProjectsTo (Reconciler.tell e : Run σ Unit) (Reconciler.tell e : Run τ Unit) f :=
  fun _ s => congrArg (Prod.mk (Except.ok ())) (s.project_emit e)

theorem bind {m : Run σ α} {n : Run τ α} {k : α → Run σ β} {l : α → Run τ β}
    (hm : m.ProjectsTo n f) (hk : ∀ a, (k a).ProjectsTo (l a) f) :
    (m >>= k).ProjectsTo (n >>= l) f := by
  intro earlier s
  rw [bind_apply, bind_apply, hm earlier s]
  cases m s with
  | mk result t =>
    cases result with
    | ok a => exact hk a earlier t
    | error e => rfl

end Run.ProjectsTo

namespace Reconciler.ProjectsTo

variable {r : Reconciler σ} {r' : Reconciler τ}

theorem ask (h : r.ProjectsTo r' f) {α : Type} (c : Call α) :
    (r.ask c).ProjectsTo (r'.ask c) f := by
  intro earlier s
  have hanswer : r'.provider.answer c (s.project f earlier).provider = _ :=
    h.provider.answer c s.provider
  simp only [Reconciler.ask, hanswer, Session.project_called h.provider]

theorem fetch (h : r.ProjectsTo r' f) {α : Type} (context : String) (c : Call α) :
    (r.fetch context c).ProjectsTo (r'.fetch context c) f := by
  intro earlier s
  unfold Reconciler.fetch
  rw [h.ask c earlier s]
  rfl

theorem relates (h : r.ProjectsTo r' f) :
    r.Relates r' (fun _ _ => True) (fun _ m n => m.ProjectsTo n f) where
  capabilities := h.provider.capabilities
  createMissingZones := by rw [h.config]
  pure := Run.ProjectsTo.pure
  throw := Run.ProjectsTo.throw
  tell := Run.ProjectsTo.tell
  ask := fun c _ => h.ask c
  fetch := fun context c _ => h.fetch context c
  bind := Run.ProjectsTo.bind

theorem ensureZone (h : r.ProjectsTo r' f) (zone : String) :
    (r.ensureZone zone).ProjectsTo (r'.ensureZone zone) f :=
  h.relates.ensureZone (fun _ _ _ _ => trivial) trivial

/-- What is shown of a plan is the plan. -/
theorem plan (h : r.ProjectsTo r' f) (domain : Domain) :
    (r.plan domain).ProjectsTo (r'.plan domain) f :=
  h.relates.plan domain (fun _ _ _ _ => trivial)

/-- What is shown of a reconciliation is the reconciliation. -/
theorem reconcile (h : r.ProjectsTo r' f) (domain : Domain) :
    (r.reconcile domain).ProjectsTo (r'.reconcile domain) f := by
  unfold Reconciler.reconcile
  rw [h.provider.capabilities]
  refine (Run.ProjectsTo.tell _).bind (fun _ => (Run.ProjectsTo.lift _).bind (fun _ => ?_))
  refine (h.ensureZone _).bind (fun _ => (h.plan domain).bind (fun corrections => ?_))
  intro earlier s
  exact congrArg (fun run => (Except.ok run.1, run.2)) (h.apply _ corrections earlier s)

/-- Neither what is not shown nor what was told before makes a difference to an
application. -/
theorem apply_congr (h : r.ProjectsTo r' f) (zone : String) (cs : List Correction)
    {s t : Session σ} (hprovider : f s.provider = f t.provider) (hclock : s.clock = t.clock) :
    (r.apply zone cs s).1 = (r.apply zone cs t).1 ∧
      f (r.apply zone cs s).2.provider = f (r.apply zone cs t).2.provider := by
  have hsame : r'.ProjectsTo r' id :=
    ⟨⟨rfl, rfl, fun _ _ => rfl, fun _ _ => Option.map_id'.symm⟩, rfl, fun _ => rfl⟩
  -- both are what is shown of a session in which nothing was told yet
  have hshown : ∀ s : Session σ, f s.provider = f t.provider → s.clock = t.clock →
      (r.apply zone cs s).1 = (r'.apply zone cs ⟨f t.provider, t.clock, []⟩).1 ∧
      f (r.apply zone cs s).2.provider =
        (r'.apply zone cs ⟨f t.provider, t.clock, []⟩).2.provider := by
    intro s hprovider hclock
    have happly := h.apply zone cs [] s
    have hstart : s.project f [] =
        Session.project id s.notices ⟨f t.provider, t.clock, []⟩ := by
      simp [Session.project, hprovider, hclock]
    rw [hstart, hsame.apply] at happly
    exact ⟨(congrArg Prod.fst happly).symm,
      (congrArg (fun run => run.2.provider) happly).symm⟩
  rw [(hshown s hprovider hclock).1, (hshown s hprovider hclock).2, (hshown t rfl rfl).1,
    (hshown t rfl rfl).2]
  exact ⟨rfl, rfl⟩

end Reconciler.ProjectsTo

end DnsReconcile
