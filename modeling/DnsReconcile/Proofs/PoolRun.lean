import Mathlib.Algebra.Ring.Nat
import Mathlib.Data.List.Basic
import DnsReconcile.Engine.Pool
import DnsReconcile.Proofs.Ascending

/-!
What a pool does.

A move of a pool is one of four steps: a correction is started, an attempt fails
and is to be repeated, a task ends, or an ended task is joined (`Step`,
`step_of_step?`). Every step takes one from the work that is left (`work`), and as
long as a pool is not done the move of the clock is possible (`exists_next`), so
its fuel suffices to drain it. Every invariant of the steps therefore holds of
the drained pool (`drain_induction`).
-/

namespace DnsReconcile

variable {σ : Type}

namespace Pool

variable {p : Provider σ} {pool next : Pool σ}

/-- How a task ends: it dies, its attempt succeeds, or its attempt fails and was
its last one. -/
inductive Ends (p : Provider σ) (config : EngineConfig) (t : Task) (s : σ) : Outcome → σ → Prop
  | death {s' : σ} (h : p.crash t.correction.operation.call s = some s') :
    Ends p config t s (.ofDeath t.correction) s'
  | success {s' : σ} (halive : p.crash t.correction.operation.call s = none)
      (h : t.correction.apply p s = (.ok (), s')) :
    Ends p config t s ⟨t.attempts + 1, .ok ()⟩ s'
  | failure {e : Error} {s' : σ} (halive : p.crash t.correction.operation.call s = none)
      (h : t.correction.apply p s = (.error e, s'))
      (hlast : config.maxRetries.toNat ≤ t.attempts) :
    Ends p config t s ⟨t.attempts + 1, .error e⟩ s'

/-- The steps of a pool, each with the move that brings it about. -/
inductive Step (p : Provider σ) (pool : Pool σ) : Move → Pool σ → Prop
  | start {i : Nat} {c : Correction} {rest : List (Nat × Correction)}
      (hwaiting : pool.waiting = (i, c) :: rest) (hcan : pool.canStart = true) :
    Step p pool .start { pool with
      waiting := rest
      active := pool.active ++ [⟨i, c, 0, pool.clock⟩]
      history := .start :: pool.history }
  | retry {before after : List Task} {t : Task} {e : Error} {s : σ}
      (hactive : pool.active = before ++ t :: after)
      (halive : p.crash t.correction.operation.call pool.provider = none)
      (happly : t.correction.apply p pool.provider = (.error e, s))
      (hleft : t.attempts < pool.config.maxRetries.toNat) :
    Step p pool (.advance t.index) { pool with
      active := before ++ { t with
        attempts := t.attempts + 1
        readyAt := max pool.clock t.readyAt + pool.config.wait } :: after
      provider := s
      clock := max pool.clock t.readyAt
      history := .advance t.index :: pool.history }
  | finish {before after : List Task} {t : Task} {o : Outcome} {s : σ}
      (hactive : pool.active = before ++ t :: after)
      (hends : Ends p pool.config t pool.provider o s) :
    Step p pool (.advance t.index) { pool with
      active := before ++ after
      finished := pool.finished ++ [⟨t, o⟩]
      provider := s
      clock := max pool.clock t.readyAt
      history := .advance t.index :: pool.history }
  | join {before after : List FinishedTask} {f : FinishedTask}
      (hfinished : pool.finished = before ++ f :: after) (hcan : pool.canStart = false) :
    Step p pool (.join f.task.index) { pool with
      finished := before ++ after
      outcomes := pool.outcomes.insert f.task.index f.outcome
      failureSeen := pool.failureSeen || f.outcome.isFailure
      history := .join f.task.index :: pool.history }

theorem Step.config_eq {m : Move} (h : Step p pool m next) : next.config = pool.config := by
  cases h <;> rfl

def indices (pool : Pool σ) : List Nat :=
  pool.waiting.map (·.1) ++ pool.active.map (·.index) ++ pool.finished.map (·.task.index) ++
    pool.outcomes.keys

section List

variable {α : Type} {f : α → Nat} {xs : List α} {x : α}

theorem mem_append_cons_of_mem {before after : List α} {y : α} (h : y ∈ before ++ after) :
    y ∈ before ++ x :: after :=
  ((List.sublist_cons_self x after).append_left before).subset h

/-- A member of a list in which no index stands twice, with what stands around
it when it is taken out or replaced. -/
private theorem exists_around (hnodup : (xs.map f).Nodup) (hx : x ∈ xs) :
    ∃ before after, xs = before ++ x :: after ∧
      xs.filter (fun y => f y ≠ f x) = before ++ after ∧
      ∀ y, xs.map (fun z => if f z = f x then y else z) = before ++ y :: after := by
  obtain ⟨before, after, rfl⟩ := List.append_of_mem hx
  have hne : ∀ y, y ∈ before ∨ y ∈ after → f y ≠ f x := by
    intro y hy heq
    rw [List.map_append, List.map_cons, List.nodup_middle, List.nodup_cons] at hnodup
    apply hnodup.1
    rw [← heq, ← List.map_append]
    exact List.mem_map_of_mem (List.mem_append.2 hy)
  refine ⟨before, after, rfl, ?_, ?_⟩
  · have hbefore : before.filter (fun y => f y ≠ f x) = before :=
      List.filter_eq_self.2 (fun y hy => decide_eq_true (hne y (.inl hy)))
    have hafter : after.filter (fun y => f y ≠ f x) = after :=
      List.filter_eq_self.2 (fun y hy => decide_eq_true (hne y (.inr hy)))
    rw [List.filter_append, List.filter_cons, hbefore, hafter]
    simp
  · intro y
    have hsame : ∀ zs : List α, (∀ z ∈ zs, f z ≠ f x) →
        zs.map (fun z => if f z = f x then y else z) = zs := by
      intro zs hzs
      conv => rhs; rw [← List.map_id zs]
      exact List.map_congr_left (fun z hz => if_neg (hzs z hz))
    rw [List.map_append, List.map_cons, hsame before (fun z hz => hne z (.inl hz)),
      hsame after (fun z hz => hne z (.inr hz)), if_pos rfl]

end List

/-- Every move that is possible is a step. -/
theorem step_of_step? (hactive : (pool.active.map (·.index)).Nodup)
    (hfinished : (pool.finished.map (·.task.index)).Nodup) {m : Move}
    (h : pool.step? p m = some next) : Step p pool m next := by
  obtain ⟨moved, hmove, rfl⟩ := Option.map_eq_some_iff.1 h
  cases m with
  | start =>
    cases hwaiting : pool.waiting with
    | nil => simp [move?, hwaiting] at hmove
    | cons e rest =>
      cases hcan : pool.canStart with
      | false => simp [move?, hcan] at hmove
      | true =>
        simp only [move?, hwaiting, hcan, Option.some.injEq] at hmove
        subst hmove
        exact .start hwaiting hcan
  | advance i =>
    obtain ⟨t, hfind, rfl⟩ := Option.map_eq_some_iff.1 hmove
    obtain rfl : t.index = i := by simpa using List.find?_some hfind
    obtain ⟨before, after, hsplit, hfilter, hmap⟩ :=
      exists_around hactive (List.mem_of_find?_eq_some hfind)
    cases hcrash : p.crash t.correction.operation.call pool.provider with
    | some s =>
      simp only [attempt, hcrash, finish, hfilter]
      exact .finish hsplit (.death hcrash)
    | none =>
      cases happly : t.correction.apply p pool.provider with
      | mk result s =>
        cases result with
        | ok u =>
          simp only [attempt, hcrash, happly, finish, hfilter]
          exact .finish hsplit (.success hcrash happly)
        | error e =>
          by_cases hleft : t.attempts < pool.config.maxRetries.toNat
          · simp only [attempt, hcrash, happly, if_pos hleft, retry, hmap]
            exact .retry hsplit hcrash happly hleft
          · simp only [attempt, hcrash, happly, if_neg hleft, finish, hfilter]
            exact .finish hsplit (.failure hcrash happly (Nat.le_of_not_lt hleft))
  | join i =>
    cases hcan : pool.canStart with
    | true => simp [move?, hcan] at hmove
    | false =>
      rw [move?, hcan] at hmove
      obtain ⟨f, hfind, rfl⟩ := Option.map_eq_some_iff.1 hmove
      obtain rfl : f.task.index = i := by simpa using List.find?_some hfind
      obtain ⟨before, after, hsplit, hfilter, -⟩ :=
        exists_around hfinished (List.mem_of_find?_eq_some hfind)
      simp only [joined, hfilter]
      exact .join hsplit hcan

/-- A pool that works on a pass: each correction of the pass is in one place, and
a failure has been seen exactly if a joined outcome is one. -/
structure WorksOn (pass : List (Nat × Correction)) (pool : Pool σ) : Prop where
  perm : pool.indices.Perm (pass.map (·.1))
  waiting : pool.waiting <:+ pass
  active : ∀ t ∈ pool.active, (t.index, t.correction) ∈ pass
  finished : ∀ f ∈ pool.finished, (f.task.index, f.task.correction) ∈ pass
  seen : pool.failureSeen = true ↔ ∃ o ∈ pool.outcomes.values, o.isFailure = true

section WorksOn

variable {pass : List (Nat × Correction)}

theorem worksOn_new (config : EngineConfig) (pass : List (Nat × Correction)) (s : σ)
    (clock : Nat) : (new config pass s clock).WorksOn pass where
  perm := by simp [indices, new, SortedMap.keys, SortedMap.empty]
  waiting := List.suffix_rfl
  active := by simp [new]
  finished := by simp [new]
  seen := by simp [new, SortedMap.values, SortedMap.empty]

theorem WorksOn.nodup (h : pool.WorksOn pass) (hpass : (pass.map (·.1)).Nodup) :
    pool.indices.Nodup := h.perm.nodup_iff.2 hpass

/-- The outcome of a task is joined once. -/
theorem WorksOn.not_joined (h : pool.WorksOn pass) (hpass : (pass.map (·.1)).Nodup)
    {f : FinishedTask} (hf : f ∈ pool.finished) : f.task.index ∉ pool.outcomes.keys := by
  have hdisjoint := (List.nodup_append.1 (h.nodup hpass)).2.2
  have hindex : f.task.index ∈ pool.finished.map (·.task.index) := List.mem_map_of_mem hf
  exact fun hkey => hdisjoint _ (List.mem_append.2 (.inr hindex)) _ hkey rfl

/-- A task that is under way is at no other place of the pool. -/
theorem WorksOn.elsewhere (h : pool.WorksOn pass) (hpass : (pass.map (·.1)).Nodup)
    {before after : List Task} {t : Task} (hactive : pool.active = before ++ t :: after) :
    (∀ e ∈ pool.waiting, e.1 ≠ t.index) ∧ (∀ u ∈ before ++ after, u.index ≠ t.index) ∧
      (∀ f ∈ pool.finished, f.task.index ≠ t.index) ∧ t.index ∉ pool.outcomes.keys := by
  have hperm : pool.indices.Perm (t.index :: (pool.waiting.map (·.1) ++
      ((before ++ after).map (·.index) ++ (pool.finished.map (·.task.index) ++
        pool.outcomes.keys)))) := by
    apply List.perm_iff_count.2
    intro j
    simp only [indices, hactive, List.map_append, List.map_cons, List.count_append,
      List.count_cons]
    omega
  have hfresh := (List.nodup_cons.1 (hperm.nodup_iff.1 (h.nodup hpass))).1
  simp only [List.mem_append, not_or] at hfresh
  obtain ⟨hwaiting, hunder, hfinished, hjoined⟩ := hfresh
  refine ⟨fun e he heq => hwaiting ?_, fun u hu heq => hunder ?_, fun f hf heq => hfinished ?_,
    hjoined⟩
  · exact heq ▸ List.mem_map_of_mem (f := (·.1)) he
  · exact heq ▸ List.mem_map_of_mem (f := (·.index)) hu
  · exact heq ▸ List.mem_map_of_mem (f := (·.task.index)) hf

/-- A step moves a correction from one place to another. -/
theorem Step.indices_perm {m : Move} (h : Step p pool m next)
    (hfresh : ∀ f ∈ pool.finished, f.task.index ∉ pool.outcomes.keys) :
    next.indices.Perm pool.indices := by
  cases h with
  | start hwaiting hcan =>
    apply List.perm_iff_count.2
    intro j
    simp only [indices, hwaiting, List.map_append, List.map_cons, List.map_nil,
      List.count_append, List.count_cons, List.count_nil]
    omega
  | retry hactive halive happly hleft =>
    apply List.Perm.of_eq
    simp [indices, hactive]
  | finish hactive hends =>
    apply List.perm_iff_count.2
    intro j
    simp only [indices, hactive, List.map_append, List.map_cons, List.map_nil,
      List.count_append, List.count_cons, List.count_nil]
    omega
  | @join before after f hfinished hcan =>
    have hkeys := SortedMap.keys_insert_perm f.outcome (hfresh f (by simp [hfinished]))
    apply List.perm_iff_count.2
    intro j
    simp only [indices, hfinished, List.map_append, List.map_cons, List.count_append,
      List.count_cons, hkeys.count_eq]
    omega

theorem WorksOn.step (h : pool.WorksOn pass) (hpass : (pass.map (·.1)).Nodup) {m : Move}
    (hstep : Step p pool m next) : next.WorksOn pass := by
  have hfresh : ∀ f ∈ pool.finished, f.task.index ∉ pool.outcomes.keys :=
    fun f hf => h.not_joined hpass hf
  have hperm := (hstep.indices_perm hfresh).trans h.perm
  have hactive := h.active
  have hfinished := h.finished
  cases hstep with
  | @start i c rest hwaiting hcan =>
    have hsuffix := h.waiting
    rw [hwaiting] at hsuffix
    refine ⟨hperm, (List.suffix_cons _ _).trans hsuffix, ?_, hfinished, h.seen⟩
    refine List.forall_mem_append.2 ⟨hactive, List.forall_mem_singleton.2 ?_⟩
    exact hsuffix.subset List.mem_cons_self
  | @retry before after t e s hsplit halive happly hleft =>
    rw [hsplit] at hactive
    refine ⟨hperm, h.waiting, ?_, hfinished, h.seen⟩
    obtain ⟨hbefore, hrest⟩ := List.forall_mem_append.1 hactive
    obtain ⟨ht, hafter⟩ := List.forall_mem_cons.1 hrest
    exact List.forall_mem_append.2 ⟨hbefore, List.forall_mem_cons.2 ⟨ht, hafter⟩⟩
  | @finish before after t o s hsplit hends =>
    rw [hsplit] at hactive
    have ht : (t.index, t.correction) ∈ pass := hactive t (by simp)
    exact ⟨hperm, h.waiting, fun u hu => hactive u (mem_append_cons_of_mem hu),
      List.forall_mem_append.2 ⟨hfinished, List.forall_mem_singleton.2 ht⟩, h.seen⟩
  | @join before after f hsplit hcan =>
    have hnew := hfresh f (by simp [hsplit])
    rw [hsplit] at hfinished
    refine ⟨hperm, h.waiting, hactive, fun g hg => hfinished g (mem_append_cons_of_mem hg), ?_⟩
    simp only [Bool.or_eq_true, h.seen, SortedMap.mem_values_insert hnew]
    constructor
    · rintro (⟨o, ho, hfail⟩ | hfail)
      · exact ⟨o, .inr ho, hfail⟩
      · exact ⟨f.outcome, .inl rfl, hfail⟩
    · rintro ⟨o, rfl | ho, hfail⟩
      · exact .inr hfail
      · exact .inl ⟨o, ho, hfail⟩

theorem WorksOn.step_of_next? (h : pool.WorksOn pass) (hpass : (pass.map (·.1)).Nodup)
    {scheduler : Scheduler σ} (hnext : pool.next? p scheduler = some next) :
    ∃ m, Step p pool m next := by
  have hnodup := h.nodup hpass
  simp only [indices, List.append_assoc] at hnodup
  have hactive := (List.nodup_append.1 (List.nodup_append.1 hnodup).2.1).1
  have hfinished :=
    (List.nodup_append.1 (List.nodup_append.1 (List.nodup_append.1 hnodup).2.1).2.1).1
  unfold next? at hnext
  split at hnext
  · rename_i picked hpicked
    cases hnext
    exact ⟨_, step_of_step? hactive hfinished hpicked⟩
  · exact ⟨_, step_of_step? hactive hfinished hnext⟩

end WorksOn

theorem mem_of_soonest? {ts : List Task} {t : Task} (h : Scheduler.soonest? ts = some t) :
    t ∈ ts := by
  induction ts with
  | nil => cases h
  | cons u rest ih =>
    unfold Scheduler.soonest? at h
    split at h
    · cases h
      exact List.mem_cons_self
    · rename_i v hv
      split at h
      · cases h
        exact List.mem_cons_of_mem _ (ih hv)
      · cases h
        exact List.mem_cons_self

theorem soonest?_eq_none {ts : List Task} (h : Scheduler.soonest? ts = none) : ts = [] := by
  cases ts with
  | nil => rfl
  | cons u rest =>
    unfold Scheduler.soonest? at h
    split at h
    · cases h
    · split at h <;> cases h

/-- As long as a pool is not done, the clock has a move that is possible. -/
theorem exists_next (p : Provider σ) (scheduler : Scheduler σ) (h : pool.isDone = false) :
    ∃ next, pool.next? p scheduler = some next := by
  have hclock : (pool.step? p (Scheduler.virtualTime pool)).isSome = true := by
    rw [step?, Option.isSome_map]
    unfold Scheduler.virtualTime
    cases hcan : pool.canStart with
    | true =>
      have hwaiting : pool.waiting ≠ [] := by
        rintro hnil
        simp [canStart, hnil] at hcan
      obtain ⟨⟨i, c⟩, rest, hrest⟩ := List.exists_cons_of_ne_nil hwaiting
      simp [move?, hcan, hrest]
    | false =>
      cases hfinished : pool.finished with
      | cons f rest => simp [move?, hcan, hfinished]
      | nil =>
        cases hsoonest : Scheduler.soonest? pool.active with
        | none =>
          have hactive := soonest?_eq_none hsoonest
          simp [isDone, hactive, hfinished, hcan] at h
        | some t =>
          have hfound : ∃ u ∈ pool.active, u.index = t.index := ⟨t, mem_of_soonest? hsoonest, rfl⟩
          simp [move?, hfound]
  unfold next?
  split
  · exact ⟨_, rfl⟩
  · exact Option.isSome_iff_exists.1 hclock

/-- The number of moves that are left at most. A task that is under way still has
its attempts and its joining before it. -/
def work (pool : Pool σ) : Nat :=
  pool.waiting.length * movesPerCorrection pool.config +
    (pool.active.map (fun t => pool.config.maxRetries.toNat - t.attempts + 2)).sum +
    pool.finished.length

theorem Step.work_lt {m : Move} (h : Step p pool m next) : next.work < pool.work := by
  cases h with
  | start hwaiting hcan =>
    simp only [work, hwaiting, List.map_append, List.sum_append, List.map_cons, List.map_nil,
      List.sum_cons, List.sum_nil, List.length_cons, movesPerCorrection, Nat.add_mul]
    omega
  | retry hactive halive happly hleft =>
    simp only [work, hactive, List.map_append, List.sum_append, List.map_cons, List.sum_cons]
    omega
  | finish hactive hends =>
    simp only [work, hactive, List.map_append, List.sum_append, List.map_cons, List.sum_cons,
      List.length_append, List.length_cons, List.length_nil]
    omega
  | join hfinished hcan =>
    simp only [work, hfinished, List.length_append, List.length_cons]
    omega

theorem isDone_of_work_eq_zero (h : pool.work = 0) : pool.isDone = true := by
  have hwaiting : pool.waiting = [] := by
    have hmul : pool.waiting.length * movesPerCorrection pool.config = 0 := by
      unfold work at h
      omega
    rcases Nat.mul_eq_zero.1 hmul with hlength | hmoves
    · exact List.eq_nil_of_length_eq_zero hlength
    · simp [movesPerCorrection] at hmoves
  have hactive : pool.active = [] := by
    cases hcases : pool.active with
    | nil => rfl
    | cons t rest =>
      simp only [work, hcases, List.map_cons, List.sum_cons] at h
      omega
  have hfinished : pool.finished = [] := by
    apply List.eq_nil_of_length_eq_zero
    unfold work at h
    omega
  simp [isDone, canStart, hwaiting, hactive, hfinished]

section Drain

variable {pass : List (Nat × Correction)} {P : Pool σ → Prop} {scheduler : Scheduler σ}

/-- What every step keeps holds at the end of a run, and a run with enough fuel
ends when nothing is left to do. -/
theorem run_induction (hpass : (pass.map (·.1)).Nodup)
    (hstep : ∀ (pool next : Pool σ) (m : Move), pool.WorksOn pass → P pool → Step p pool m next →
      P next) (fuel : Nat) (hpool : pool.WorksOn pass) (hP : P pool) (hfuel : pool.work ≤ fuel) :
    (pool.run p scheduler fuel).WorksOn pass ∧ P (pool.run p scheduler fuel) ∧
      (pool.run p scheduler fuel).isDone = true := by
  induction fuel generalizing pool with
  | zero => exact ⟨hpool, hP, isDone_of_work_eq_zero (Nat.le_zero.1 hfuel)⟩
  | succ fuel ih =>
    rw [run]
    cases hdone : pool.isDone with
    | true => exact ⟨hpool, hP, hdone⟩
    | false =>
      obtain ⟨next, hnext⟩ := exists_next p scheduler hdone
      obtain ⟨m, hm⟩ := hpool.step_of_next? hpass hnext
      have hless := hm.work_lt
      simp only [hnext, Bool.false_eq_true, if_false]
      exact ih (hpool.step hpass hm) (hstep pool next m hpool hP hm) (by omega)

/-- A pool with a whole pass before it is drained completely, and what holds at
the beginning and is kept by every step holds at the end. -/
theorem drain_induction (scheduler : Scheduler σ) (hpass : (pass.map (·.1)).Nodup)
    (hstep : ∀ (pool next : Pool σ) (m : Move), pool.WorksOn pass → P pool → Step p pool m next →
      P next) (config : EngineConfig) (s : σ) (clock : Nat) (hP : P (new config pass s clock)) :
    ((new config pass s clock).drain p scheduler).WorksOn pass ∧
      P ((new config pass s clock).drain p scheduler) ∧
      ((new config pass s clock).drain p scheduler).isDone = true := by
  apply run_induction hpass hstep _ (worksOn_new config pass s clock) hP
  simp [work, new]

end Drain

end Pool

end DnsReconcile
