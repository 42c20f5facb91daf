import DnsReconcile.Proofs.Application
import DnsReconcile.Proofs.Independence

/-!
Passes of independent corrections.

If no failure stops the run and the attempts of a pass are independent, each of its
corrections ends as if it were tried alone on the state before the pass, and the state
behind the pass is the replay of their attempts; this holds one correction after the
other (`applySequentially_settles`) and with several under way, in any interleaving
(`applyConcurrently_settles`). So two runs that differ in nothing but the limit and the
interleaving agree (`apply_alike`).
-/

namespace DnsReconcile

open Attempt (replay)

variable {σ V : Type}

/-- In its good states, which it never leaves, the provider makes every attempt as
`attempt` tells, on what `view` shows of its state, and no task dies. -/
structure Provider.Makes (p : Provider σ) (view : σ → V) (Good : σ → Prop)
    (attempt : Correction → Attempt V) : Prop where
  result : ∀ (c : Correction) (s : σ), Good s → (c.apply p s).1 = (attempt c (view s)).1
  view : ∀ (c : Correction) (s : σ), Good s →
    view (c.apply p s).2 = (attempt c).after (view s)
  good : ∀ (c : Correction) (s : σ), Good s → Good (c.apply p s).2
  alive : ∀ (c : Correction) (s : σ), Good s → p.crash c.operation.call s = none

/-- Corrections at different places whose attempts are pairwise independent. -/
structure IndependentPass (attempt : Correction → Attempt V) (pass : List (Nat × Correction)) :
    Prop where
  nodup : (pass.map (·.1)).Nodup
  pairwise : pass.Pairwise (fun e f => (attempt e.2).Independent (attempt f.2))

def aloneOutcome (attempt : Correction → Attempt V) (retries : Nat) (v : V)
    (e : Nat × Correction) : Outcome :=
  (attempt e.2).alone retries v

def aloneJournal (attempt : Correction → Attempt V) (retries : Nat) (v : V)
    (pass : List (Nat × Correction)) : List Tried :=
  pass.map (fun e => ⟨e.1, e.2, aloneOutcome attempt retries v e⟩)

def aloneState (attempt : Correction → Attempt V) (retries : Nat) (v : V)
    (pass : List (Nat × Correction)) : V :=
  replay (fun e => attempt e.2) (fun e => (aloneOutcome attempt retries v e).attempts) pass v

section Pass

variable {view : σ → V} {Good : σ → Prop} {attempt : Correction → Attempt V} {p : Provider σ}
  {pass : List (Nat × Correction)} {v : V} {retries : Nat} {e : Nat × Correction}

theorem IndependentPass.tail (h : IndependentPass attempt (e :: pass)) :
    IndependentPass attempt pass :=
  ⟨(List.nodup_cons.1 h.nodup).2, (List.pairwise_cons.1 h.pairwise).2⟩

/-- What stands around a correction is at other places and independent of it. -/
theorem IndependentPass.exists_around (h : IndependentPass attempt pass) (he : e ∈ pass) :
    ∃ xs ys, pass = xs ++ e :: ys ∧
      ∀ y ∈ xs ++ ys, y.1 ≠ e.1 ∧ (attempt e.2).Independent (attempt y.2) := by
  obtain ⟨xs, ys, rfl⟩ := List.append_of_mem he
  have hnodup := h.nodup
  rw [List.map_append, List.map_cons, List.nodup_middle, List.nodup_cons] at hnodup
  obtain ⟨-, hrest, hbefore⟩ := List.pairwise_append.1 h.pairwise
  refine ⟨xs, ys, rfl, fun y hy => ⟨fun hplace => ?_, ?_⟩⟩
  · apply hnodup.1
    rw [← hplace, ← List.map_append]
    exact List.mem_map_of_mem hy
  · rcases List.mem_append.1 hy with hy | hy
    · exact (hbefore y hy e List.mem_cons_self).symm
    · exact (List.pairwise_cons.1 hrest).1 y hy

/-- Corrections that are independent of those before them end as if these were not
there. -/
private theorem aloneOutcome_iterate {c : Correction} {n : Nat}
    (h : ∀ f ∈ pass, (attempt c).Independent (attempt f.2)) :
    ∀ f ∈ pass, aloneOutcome attempt retries ((attempt c).after^[n] v) f =
      aloneOutcome attempt retries v f :=
  fun f hf => Attempt.alone_iterate (h f hf).symm retries n v

end Pass

namespace Reconciler

variable {view : σ → V} {Good : σ → Prop} {attempt : Correction → Attempt V} {p : Provider σ}
  {pass : List (Nat × Correction)} {retries : Nat}

/-- From `a` to `b` every correction of a pass is tried, and each ends as if it were
tried alone. -/
structure Settles (view : σ → V) (Good : σ → Prop) (attempt : Correction → Attempt V)
    (retries : Nat) (pass : List (Nat × Correction)) (a b : Application σ) : Prop where
  recorded : a.Extends b (aloneJournal attempt retries (view a.session.provider) pass)
  good : Good b.session.provider
  view : view b.session.provider = aloneState attempt retries (view a.session.provider) pass

theorem applyWithRetries_alone (hmakes : p.Makes view Good attempt) (c : Correction)
    (delay retries : Nat) {s : Session σ} (hs : Good s.provider) :
    (applyWithRetries p delay c retries s).1 = (attempt c).alone retries (view s.provider) ∧
      (applyWithRetries p delay c retries s).2.events = s.events ∧
      Good (applyWithRetries p delay c retries s).2.provider ∧
      view (applyWithRetries p delay c retries s).2.provider =
        (attempt c).after^[((attempt c).alone retries (view s.provider)).attempts]
          (view s.provider) := by
  induction retries generalizing s with
  | zero =>
    have hresult := hmakes.result c s.provider hs
    have hview := hmakes.view c s.provider hs
    have hgood := hmakes.good c s.provider hs
    have hrun : applyWithRetries p delay c 0 s =
        (⟨1, (c.apply p s.provider).1⟩, s.called p (c.apply p s.provider).2) := by
      unfold applyWithRetries
      rcases c.apply p s.provider with ⟨_ | _, t⟩ <;> rfl
    rw [hrun, provider_called, Session.events_called, hresult, hview]
    exact ⟨rfl, rfl, hgood, rfl⟩
  | succ retries ih =>
    have hresult := hmakes.result c s.provider hs
    have hview := hmakes.view c s.provider hs
    have hgood := hmakes.good c s.provider hs
    cases happly : c.apply p s.provider with
    | mk result t =>
      rw [happly] at hresult hview hgood
      cases result with
      | ok u =>
        rw [applyWithRetries_ok happly, provider_called, Session.events_called,
          Attempt.alone_of_ok hresult.symm]
        exact ⟨rfl, rfl, hgood, hview⟩
      | error e =>
        have hprovider : ((s.called p t).later delay).provider = t := provider_called s p t
        obtain ⟨houtcome, hevents, hgood', hview'⟩ :=
          ih (s := (s.called p t).later delay) (by rw [hprovider]; exact hgood)
        change view t = _ at hview
        rw [hprovider, hview] at houtcome hview'
        rw [Session.events_later, Session.events_called] at hevents
        rw [applyWithRetries_again happly, Attempt.alone_of_error hresult.symm, houtcome]
        refine ⟨rfl, hevents, hgood', ?_⟩
        rw [hview', Outcome.later, Function.iterate_succ_apply]

theorem stopsOn_eq_false {r : Reconciler σ} (hpolicy : r.config.failurePolicy = .keepGoing)
    (o : Outcome) : r.stopsOn o = false := by
  simp [stopsOn, hpolicy]

theorem applySequentially_settles {r : Reconciler σ} (hmakes : r.provider.Makes view Good attempt)
    (hpolicy : r.config.failurePolicy = .keepGoing) (hpass : IndependentPass attempt pass)
    {a : Application σ} (ha : Good a.session.provider) :
    (r.applySequentially pass a).1 = false ∧
      Settles view Good attempt r.config.maxRetries.toNat pass a
        (r.applySequentially pass a).2 := by
  induction pass generalizing a with
  | nil => exact ⟨rfl, .refl a, ha, rfl⟩
  | cons e rest ih =>
    obtain ⟨i, c⟩ := e
    have hothers := (List.pairwise_cons.1 hpass.pairwise).1
    obtain ⟨houtcome, hevents, hgood, hview⟩ := applyWithRetries_alone hmakes c r.config.wait
      r.config.maxRetries.toNat ha
    cases hrun : applyWithRetries r.provider r.config.wait c r.config.maxRetries.toNat
        a.session with
    | mk o session =>
      rw [hrun] at houtcome hevents hgood hview
      change o = _ at houtcome
      have hone : a.Extends ({ a with session }.record i c o) [⟨i, c, o⟩] :=
        a.extends_record hevents ⟨i, c, o⟩
      have hprovider : ({ a with session }.record i c o).session.provider = session.provider :=
        Application.provider_record { a with session } ⟨i, c, o⟩
      obtain ⟨hstop, hrest⟩ := ih hpass.tail
        (a := { a with session }.record i c o) (by rw [hprovider]; exact hgood)
      have hstep : r.applySequentially ((i, c) :: rest) a =
          r.applySequentially rest ({ a with session }.record i c o) := by
        rw [applySequentially, hrun]
        simp only [stopsOn_eq_false hpolicy, Bool.false_eq_true, if_false]
      -- the others end as they would without the attempts of this one
      have hsame : ∀ f ∈ rest, aloneOutcome attempt r.config.maxRetries.toNat
          (view session.provider) f =
            aloneOutcome attempt r.config.maxRetries.toNat (view a.session.provider) f := by
        rw [hview]
        exact aloneOutcome_iterate hothers
      have hrecorded := hone.trans hrest.recorded
      have hstate := hrest.view
      rw [hprovider] at hrecorded hstate
      rw [hstep]
      refine ⟨hstop, ?_, hrest.good, ?_⟩
      · have hjournal : aloneJournal attempt r.config.maxRetries.toNat (view session.provider)
            rest = aloneJournal attempt r.config.maxRetries.toNat (view a.session.provider)
              rest :=
          List.map_congr_left (fun f hf => by rw [hsame f hf])
        rw [aloneJournal, List.map_cons, aloneOutcome, ← houtcome]
        rw [hjournal] at hrecorded
        exact hrecorded
      · rw [hstate, aloneState, aloneState, Attempt.replay_congr
          (fun f hf => congrArg Outcome.attempts (hsame f hf)), replay, hview]
        rfl

end Reconciler

namespace Pool

variable {view : σ → V} {Good : σ → Prop} {attempt : Correction → Attempt V} {p : Provider σ}
  {pass : List (Nat × Correction)} {v : V} {n : Nat → Nat} {pool next : Pool σ}

/-- A pool in which `n` attempts were made for each correction, on a provider that
showed `v` before. Corrections that ended came out as if they had been tried alone,
and those under way are on the way to that. -/
structure Replays (view : σ → V) (Good : σ → Prop) (attempt : Correction → Attempt V)
    (pass : List (Nat × Correction)) (v : V) (n : Nat → Nat) (pool : Pool σ) : Prop where
  good : Good pool.provider
  state : view pool.provider = replay (fun e => attempt e.2) (fun e => n e.1) pass v
  waiting : ∀ e ∈ pool.waiting, n e.1 = 0
  active : ∀ t ∈ pool.active, n t.index = t.attempts ∧
    t.attempts ≤ pool.config.maxRetries.toNat ∧
    (attempt t.correction).alone pool.config.maxRetries.toNat v =
      ((attempt t.correction).alone (pool.config.maxRetries.toNat - t.attempts)
        ((attempt t.correction).after^[t.attempts] v)).later t.attempts
  finished : ∀ f ∈ pool.finished,
    f.outcome = (attempt f.task.correction).alone pool.config.maxRetries.toNat v ∧
      n f.task.index = f.outcome.attempts
  joined : ∀ e ∈ pass, ∀ o, pool.outcomes.get? e.1 = some o →
    o = (attempt e.2).alone pool.config.maxRetries.toNat v ∧ n e.1 = o.attempts

theorem replays_new (config : EngineConfig) (pass : List (Nat × Correction)) {s : σ}
    (clock : Nat) (hs : Good s) :
    (new config pass s clock).Replays view Good attempt pass (view s) (fun _ => 0) where
  good := hs
  state := (Attempt.replay_zero (fun _ _ => rfl) _).symm
  waiting := fun _ _ => rfl
  active := by simp [new]
  finished := by simp [new]
  joined := by
    intro e _ o ho
    simp [new, SortedMap.get?_empty] at ho

/-- What an attempt of a task comes to, and what is counted after it. -/
private theorem Replays.attempted (h : pool.Replays view Good attempt pass v n)
    (hworks : pool.WorksOn pass) (hmakes : p.Makes view Good attempt)
    (hpass : IndependentPass attempt pass) {t : Task} (ht : t ∈ pool.active) :
    (t.correction.apply p pool.provider).1 =
        (attempt t.correction ((attempt t.correction).after^[t.attempts] v)).1 ∧
      Good (t.correction.apply p pool.provider).2 ∧
      view (t.correction.apply p pool.provider).2 = replay (fun e => attempt e.2)
        (fun e => Function.update n t.index (t.attempts + 1) e.1) pass v := by
  obtain ⟨hcount, -, -⟩ := h.active t ht
  obtain ⟨xs, ys, hsplit, hothers⟩ := hpass.exists_around (hworks.active t ht)
  have hresult : (attempt t.correction (replay (fun e => attempt e.2) (fun e => n e.1)
      (xs ++ (t.index, t.correction) :: ys) v)).1 =
        (attempt t.correction ((attempt t.correction).after^[n t.index] v)).1 :=
    Attempt.replay_result (fun y hy => (hothers y hy).2) v
  have hafter : (attempt t.correction).after (replay (fun e => attempt e.2) (fun e => n e.1)
      (xs ++ (t.index, t.correction) :: ys) v) = replay (fun e => attempt e.2)
        (fun e => Function.update n t.index (t.attempts + 1) e.1)
        (xs ++ (t.index, t.correction) :: ys) v :=
    Attempt.replay_after (fun y hy => (hothers y hy).2) (by simp [hcount])
      (fun y hy => Function.update_of_ne (hothers y hy).1 _ _) v
  have hstate := h.state
  rw [hsplit] at hstate ⊢
  rw [hmakes.result t.correction pool.provider h.good, hmakes.view t.correction pool.provider
    h.good, hstate]
  refine ⟨?_, hmakes.good t.correction pool.provider h.good, hafter⟩
  rw [hresult, hcount]

/-- What is told of the other corrections does not depend on the count for a task
that is under way. -/
private theorem Replays.others (h : pool.Replays view Good attempt pass v n)
    (hworks : pool.WorksOn pass) (hpass : (pass.map (·.1)).Nodup) {before after : List Task}
    {t : Task} (hactive : pool.active = before ++ t :: after) (k : Nat) :
    (∀ e ∈ pool.waiting, Function.update n t.index k e.1 = 0) ∧
    (∀ u ∈ before ++ after, Function.update n t.index k u.index = u.attempts ∧
      u.attempts ≤ pool.config.maxRetries.toNat ∧
      (attempt u.correction).alone pool.config.maxRetries.toNat v =
        ((attempt u.correction).alone (pool.config.maxRetries.toNat - u.attempts)
          ((attempt u.correction).after^[u.attempts] v)).later u.attempts) ∧
    (∀ f ∈ pool.finished,
      f.outcome = (attempt f.task.correction).alone pool.config.maxRetries.toNat v ∧
        Function.update n t.index k f.task.index = f.outcome.attempts) ∧
    ∀ e ∈ pass, ∀ o, pool.outcomes.get? e.1 = some o →
      o = (attempt e.2).alone pool.config.maxRetries.toNat v ∧
        Function.update n t.index k e.1 = o.attempts := by
  obtain ⟨hwaiting, hunder, hfinished, hjoined⟩ := hworks.elsewhere hpass hactive
  refine ⟨fun e he => ?_, fun u hu => ?_, fun f hf => ?_, fun e he o ho => ?_⟩
  · rw [Function.update_of_ne (hwaiting e he)]
    exact h.waiting e he
  · rw [Function.update_of_ne (hunder u hu)]
    exact h.active u (by rw [hactive]; exact mem_append_cons_of_mem hu)
  · rw [Function.update_of_ne (hfinished f hf)]
    exact h.finished f hf
  · have hne : e.1 ≠ t.index := fun heq => hjoined (heq ▸ SortedMap.mem_keys_iff.2 ⟨o, ho⟩)
    rw [Function.update_of_ne hne]
    exact h.joined e he o ho

/-- A step leads from a replay to one in which its attempt, if it made one, is
counted. -/
private theorem Replays.step (h : pool.Replays view Good attempt pass v n)
    (hworks : pool.WorksOn pass) (hmakes : p.Makes view Good attempt)
    (hpass : IndependentPass attempt pass) {m : Move} (hstep : Step p pool m next) :
    ∃ n', next.Replays view Good attempt pass v n' := by
  cases hstep with
  | @start i c rest hwaiting hcan =>
    have hold := h.waiting
    rw [hwaiting] at hold
    obtain ⟨hi, hrest⟩ := List.forall_mem_cons.1 hold
    refine ⟨n, h.good, h.state, hrest, ?_, h.finished, h.joined⟩
    refine List.forall_mem_append.2 ⟨h.active, List.forall_mem_singleton.2 ⟨hi, ?_, rfl⟩⟩
    exact Nat.zero_le _
  | @retry before after t e s hactive halive happly hleft =>
    have ht : t ∈ pool.active := by simp [hactive]
    obtain ⟨hresult, hgood, hstate⟩ := h.attempted hworks hmakes hpass ht
    rw [happly] at hresult hgood hstate
    obtain ⟨hcount, hle, halone⟩ := h.active t ht
    obtain ⟨hwaiting, hunder, hfinished, hjoined⟩ :=
      h.others hworks hpass.nodup hactive (t.attempts + 1)
    refine ⟨_, hgood, hstate, hwaiting, ?_, hfinished, hjoined⟩
    obtain ⟨hbefore, hafter⟩ := List.forall_mem_append.1 hunder
    refine List.forall_mem_append.2 ⟨hbefore, List.forall_mem_cons.2 ⟨⟨?_, hleft, ?_⟩, hafter⟩⟩
    · exact Function.update_self ..
    · have hretries : pool.config.maxRetries.toNat - t.attempts =
          pool.config.maxRetries.toNat - (t.attempts + 1) + 1 := by omega
      rw [halone, hretries, Attempt.alone_of_error hresult.symm, Outcome.later_later,
        Nat.add_comm 1, Function.iterate_succ_apply']
  | @finish before after t o s hactive hends =>
    have ht : t ∈ pool.active := by simp [hactive]
    obtain ⟨hresult, hgood, hstate⟩ := h.attempted hworks hmakes hpass ht
    obtain ⟨hcount, hle, halone⟩ := h.active t ht
    obtain ⟨hwaiting, hunder, hfinished, hjoined⟩ :=
      h.others hworks hpass.nodup hactive (t.attempts + 1)
    have hended : s = (t.correction.apply p pool.provider).2 ∧
        o = (attempt t.correction).alone pool.config.maxRetries.toNat v ∧
        t.attempts + 1 = o.attempts := by
      cases hends with
      | death hcrash =>
        rw [hmakes.alive t.correction pool.provider h.good] at hcrash
        cases hcrash
      | success halive happly =>
        rw [happly] at hresult ⊢
        rw [halone, Attempt.alone_of_ok hresult.symm, Outcome.later, Nat.add_comm]
        exact ⟨rfl, rfl, rfl⟩
      | failure halive happly hlast =>
        have hretries : pool.config.maxRetries.toNat - t.attempts = 0 := by omega
        rw [happly] at hresult ⊢
        rw [halone, hretries, Attempt.alone, ← hresult, Outcome.later, Nat.add_comm]
        exact ⟨rfl, rfl, rfl⟩
    obtain ⟨rfl, houtcome, hattempts⟩ := hended
    refine ⟨_, hgood, hstate, hwaiting, hunder, ?_, hjoined⟩
    refine List.forall_mem_append.2 ⟨hfinished, List.forall_mem_singleton.2 ⟨houtcome, ?_⟩⟩
    exact (Function.update_self ..).trans hattempts
  | @join before after f hfinished hcan =>
    have hf : f ∈ pool.finished := by simp [hfinished]
    have hold := h.finished
    rw [hfinished] at hold
    refine ⟨n, h.good, h.state, h.waiting, h.active,
      fun g hg => hold g (mem_append_cons_of_mem hg), ?_⟩
    intro e he o ho
    rw [SortedMap.get?_insert] at ho
    split at ho
    · rename_i hplace
      obtain rfl := Option.some.inj ho
      have heq : e = (f.task.index, f.task.correction) :=
        List.inj_on_of_nodup_map hpass.nodup he (hworks.finished f hf) hplace
      subst heq
      exact h.finished f hf
    · exact h.joined e he o ho

end Pool

namespace Reconciler

variable {view : σ → V} {Good : σ → Prop} {attempt : Correction → Attempt V}
  {pass : List (Nat × Correction)}

private theorem joinedJournal_eq {outcomes : SortedMap Nat Outcome} {retries : Nat} {v : V}
    (h : ∀ e ∈ pass, outcomes.get? e.1 = some (aloneOutcome attempt retries v e)) :
    joinedJournal outcomes pass = aloneJournal attempt retries v pass := by
  induction pass with
  | nil => rfl
  | cons e rest ih =>
    obtain ⟨he, hrest⟩ := List.forall_mem_cons.1 h
    rw [joinedJournal, List.filterMap_cons, he]
    exact congrArg (_ :: ·) (ih hrest)

theorem applyConcurrently_settles {r : Reconciler σ} (hmakes : r.provider.Makes view Good attempt)
    (hpolicy : r.config.failurePolicy = .keepGoing) (hparallel : 0 < r.config.maxParallel.toNat)
    (hpass : IndependentPass attempt pass) {a : Application σ} (ha : Good a.session.provider) :
    (r.applyConcurrently pass a).1 = false ∧
      Settles view Good attempt r.config.maxRetries.toNat pass a
        (r.applyConcurrently pass a).2 := by
  obtain ⟨hworks, ⟨⟨n, hreplays⟩, hconfig⟩, hdone⟩ := r.drained_induction hpass.nodup
    (P := fun pool => (∃ n, pool.Replays view Good attempt pass (view a.session.provider) n) ∧
      pool.config = r.config)
    (fun pool next m hworks hP hstep =>
      ⟨hP.1.elim (fun n h => h.step hworks hmakes hpass hstep), hstep.config_eq.trans hP.2⟩)
    ⟨⟨_, Pool.replays_new _ _ _ ha⟩, rfl⟩
  obtain ⟨hany, hrecorded, hprovider⟩ := r.applyConcurrently_spec pass a
  generalize r.drained pass a = pool at hworks hreplays hconfig hdone hany hrecorded hprovider
  have hstopped : pool.isStopped = false := by simp [Pool.isStopped, hconfig, hpolicy]
  have halone : ∀ e ∈ pass, ∃ o, pool.outcomes.get? e.1 = some o ∧
      o = aloneOutcome attempt r.config.maxRetries.toNat (view a.session.provider) e ∧
      n e.1 = o.attempts := by
    intro e he
    obtain ⟨o, ho⟩ := hworks.joined_of_isDone hdone (hconfig ▸ hparallel) hstopped he
    have hjoined := hreplays.joined e he o ho
    rw [hconfig] at hjoined
    exact ⟨o, ho, hjoined⟩
  have hjournal : joinedJournal pool.outcomes pass =
      aloneJournal attempt r.config.maxRetries.toNat (view a.session.provider) pass := by
    apply joinedJournal_eq
    intro e he
    obtain ⟨o, ho, rfl, -⟩ := halone e he
    exact ho
  refine ⟨?_, ?_, ?_, ?_⟩
  · rw [hany]
    exact List.any_eq_false.2 (fun o _ => by rw [stopsOn_eq_false hpolicy]; decide)
  · rw [← hjournal]
    exact hrecorded
  · rw [hprovider]
    exact hreplays.good
  · rw [hprovider, hreplays.state]
    apply Attempt.replay_congr
    intro e he
    obtain ⟨o, -, rfl, hcount⟩ := halone e he
    exact hcount

theorem applyPass_settles {r : Reconciler σ} (hmakes : r.provider.Makes view Good attempt)
    (hpolicy : r.config.failurePolicy = .keepGoing) (hpass : IndependentPass attempt pass)
    {a : Application σ} (ha : Good a.session.provider) :
    (r.applyPass pass a).1 = false ∧
      Settles view Good attempt r.config.maxRetries.toNat pass a (r.applyPass pass a).2 := by
  unfold applyPass
  split
  · rename_i hmany
    have hparallel : 0 < r.config.maxParallel.toNat := by
      have hless := UInt64.lt_iff_toNat_lt.1 hmany
      omega
    exact applyConcurrently_settles hmakes hpolicy hparallel hpass ha
  · exact applySequentially_settles hmakes hpolicy hpass ha

/-- Two applications that no reader of the report or the events can tell apart, on
providers in good states that show the same. -/
structure Alike (view : σ → V) (Good : σ → Prop) (a b : Application σ) : Prop where
  report : a.report = b.report
  events : a.session.events = b.session.events
  view : view a.session.provider = view b.session.provider
  left : Good a.session.provider
  right : Good b.session.provider

section Alike

variable {r r' : Reconciler σ} {a a' b b' : Application σ} {retries : Nat}

private theorem report_eq_of_extends {xs : List Tried} (h : a.Extends a' xs)
    (k : b.Extends b' xs) (hreport : a.report = b.report) : a'.report = b'.report := by
  have hfields : ∀ x y : Report, x.zone = y.zone → x.planned = y.planned →
      x.applied = y.applied → x.failures = y.failures → x.aborted = y.aborted → x = y := by
    rintro ⟨⟩ ⟨⟩ rfl rfl rfl rfl rfl
    rfl
  apply hfields
  · rw [h.zone, k.zone, hreport]
  · rw [h.planned, k.planned, hreport]
  · rw [h.applied, k.applied, hreport]
  · rw [h.failures, k.failures, hreport]
  · rw [h.aborted, k.aborted, hreport]

theorem Alike.settles (h : Alike view Good a b)
    (ha : Settles view Good attempt retries pass a a')
    (hb : Settles view Good attempt retries pass b b') : Alike view Good a' b' := by
  have hrecorded := hb.recorded
  rw [← h.view] at hrecorded
  refine ⟨report_eq_of_extends ha.recorded hrecorded h.report, ?_, ?_, ha.good, hb.good⟩
  · rw [ha.recorded.events, hrecorded.events, h.events, h.report]
  · rw [ha.view, hb.view, h.view]

private theorem applyPasses_cons_of_settles {r : Reconciler σ}
    (hmakes : r.provider.Makes view Good attempt)
    (hpolicy : r.config.failurePolicy = .keepGoing) (hpass : IndependentPass attempt pass)
    {a : Application σ} (ha : Good a.session.provider)
    (rest : List (List (Nat × Correction))) :
    r.applyPasses (pass :: rest) a = r.applyPasses rest (r.applyPass pass a).2 := by
  have hstopped := (applyPass_settles hmakes hpolicy hpass ha).1
  rw [applyPasses]
  cases hrun : r.applyPass pass a with
  | mk stopped b =>
    rw [hrun] at hstopped
    obtain rfl : stopped = false := hstopped
    rfl

theorem applyPasses_alike (hmakes : r.provider.Makes view Good attempt)
    (hprovider : r'.provider = r.provider)
    (hretries : r'.config.maxRetries = r.config.maxRetries)
    (hpolicy : r.config.failurePolicy = .keepGoing)
    (hpolicy' : r'.config.failurePolicy = .keepGoing) {passes : List (List (Nat × Correction))}
    (hpasses : ∀ pass ∈ passes, IndependentPass attempt pass) (h : Alike view Good a b) :
    Alike view Good (r.applyPasses passes a) (r'.applyPasses passes b) := by
  have hmakes' : r'.provider.Makes view Good attempt := by
    rw [hprovider]
    exact hmakes
  induction passes generalizing a b with
  | nil => exact h
  | cons pass rest ih =>
    obtain ⟨hpass, hrest⟩ := List.forall_mem_cons.1 hpasses
    have ha := (applyPass_settles hmakes hpolicy hpass h.left).2
    have hb := (applyPass_settles hmakes' hpolicy' hpass h.right).2
    rw [hretries] at hb
    rw [applyPasses_cons_of_settles hmakes hpolicy hpass h.left,
      applyPasses_cons_of_settles hmakes' hpolicy' hpass h.right]
    exact ih hrest (h.settles ha hb)

/-- Runs that differ at most in their limit and in the interleaving end with the same
report and the same events, and their providers show the same. -/
theorem apply_alike (hmakes : r.provider.Makes view Good attempt)
    (hprovider : r'.provider = r.provider)
    (hretries : r'.config.maxRetries = r.config.maxRetries)
    (hpolicy : r.config.failurePolicy = .keepGoing)
    (hpolicy' : r'.config.failurePolicy = .keepGoing) {cs : List Correction}
    (hpasses : ∀ pass ∈ passes cs, IndependentPass attempt pass) (zone : String)
    {s : Session σ} (hs : Good s.provider) :
    (r.apply zone cs s).1 = (r'.apply zone cs s).1 ∧
      (r.apply zone cs s).2.events = (r'.apply zone cs s).2.events ∧
      view (r.apply zone cs s).2.provider = view (r'.apply zone cs s).2.provider := by
  have h := applyPasses_alike (a := ⟨s, { zone, planned := cs.length }⟩) hmakes hprovider
    hretries hpolicy hpolicy' hpasses ⟨rfl, rfl, rfl, hs, hs⟩
  refine ⟨h.report, ?_, h.view⟩
  change (Session.emit _ _).events = (Session.emit _ _).events
  rw [Session.events_emit, Session.events_emit, h.events, h.report]

end Alike

end Reconciler

end DnsReconcile
