import Mathlib.Data.Set.Insert
import DnsReconcile.Proofs.Journal
import DnsReconcile.Proofs.PoolRun

/-!
What the attempts of a pass keep.

A statement about the set of applied corrections and the state of the provider
that every single attempt keeps (`Keeps`) is kept by a whole pass, one correction
after the other or several at once in any interleaving (`applyPass_keeps`).
-/

namespace DnsReconcile

variable {σ : Type} {p : Provider σ}

/-- An attempt of the correction at place `i` keeps `Inv`, which speaks of the
places that are applied and of the state of the provider, and has an outcome with
`Q`. A task that dies has applied nothing. -/
structure Keeps (p : Provider σ) (Inv : Set Nat → σ → Prop) (Q : Except Error Unit → Prop)
    (i : Nat) (c : Correction) : Prop where
  death : ∀ {A : Set Nat} {s t : σ}, i ∉ A → Inv A s → p.crash c.operation.call s = some t →
    Q (Outcome.ofDeath c).result ∧ Inv A t
  success : ∀ {A : Set Nat} {s t : σ}, i ∉ A → Inv A s → c.apply p s = (.ok (), t) →
    Q (.ok ()) ∧ Inv (insert i A) t
  failure : ∀ {A : Set Nat} {s t : σ} {e : Error}, i ∉ A → Inv A s →
    c.apply p s = (.error e, t) → Q (.error e) ∧ Inv A t

theorem Keeps.nothing (p : Provider σ) (i : Nat) (c : Correction) :
    Keeps p (fun _ _ => True) (fun _ => True) i c :=
  ⟨fun _ _ _ => ⟨trivial, trivial⟩, fun _ _ _ => ⟨trivial, trivial⟩,
    fun _ _ _ => ⟨trivial, trivial⟩⟩

def appliedIn (journal : List Tried) : Set Nat :=
  {i | ∃ t ∈ journal, t.index = i ∧ t.outcome.result = .ok ()}

theorem appliedIn_nil : appliedIn [] = ∅ := by
  simp [appliedIn]

theorem appliedIn_append (xs ys : List Tried) :
    appliedIn (xs ++ ys) = appliedIn xs ∪ appliedIn ys := by
  ext i
  simp only [appliedIn, List.mem_append, Set.mem_ofPred_eq, Set.mem_union]
  constructor
  · rintro ⟨t, ht | ht, h⟩
    · exact .inl ⟨t, ht, h⟩
    · exact .inr ⟨t, ht, h⟩
  · rintro (⟨t, ht, h⟩ | ⟨t, ht, h⟩)
    · exact ⟨t, .inl ht, h⟩
    · exact ⟨t, .inr ht, h⟩

def placeIf (i : Nat) (result : Except Error Unit) : Set Nat := {j | j = i ∧ result = .ok ()}

theorem appliedIn_singleton (t : Tried) :
    appliedIn [t] = placeIf t.index t.outcome.result := by
  ext j
  simp [appliedIn, placeIf, eq_comm]

theorem union_placeIf_ok (A : Set Nat) (i : Nat) : A ∪ placeIf i (.ok ()) = insert i A := by
  ext j
  simp [placeIf]

theorem union_placeIf_error (A : Set Nat) (i : Nat) (e : Error) :
    A ∪ placeIf i (.error e) = A := by
  ext j
  simp [placeIf]

/-- Attempts that cannot fail while `Inv` holds and some corrections are applied
already keep both. -/
theorem Keeps.succeeds {Inv : Set Nat → σ → Prop} {i : Nat} {c : Correction}
    (h : Keeps p Inv (fun _ => True) i c) {before : List (Nat × Correction)}
    (halive : ∀ s, p.crash c.operation.call s = none)
    (hok : ∀ A s, i ∉ A → (∀ d ∈ before, d.1 ∈ A) → Inv A s → (c.apply p s).1 = .ok ()) :
    Keeps p (fun A s => (∀ d ∈ before, d.1 ∈ A) ∧ Inv A s) (· = .ok ()) i c where
  death := by
    intro A s t _ _ hcrash
    rw [halive] at hcrash
    cases hcrash
  success := by
    rintro A s t hi ⟨hbefore, hinv⟩ happly
    exact ⟨rfl, fun d hd => .inr (hbefore d hd), (h.success hi hinv happly).2⟩
  failure := by
    rintro A s t e hi ⟨hbefore, hinv⟩ happly
    have hresult := hok A s hi hbefore hinv
    rw [happly] at hresult
    cases hresult

namespace Reconciler

variable {Inv : Set Nat → σ → Prop} {Q : Except Error Unit → Prop}

section Retries

variable {delay retries : Nat} {c : Correction} {s : Session σ} {t : σ} {e : Error}

theorem applyWithRetries_ok (h : c.apply p s.provider = (.ok (), t)) :
    applyWithRetries p delay c retries s = (⟨1, .ok ()⟩, s.called p t) := by
  cases retries <;> simp only [applyWithRetries, h]

theorem applyWithRetries_last (h : c.apply p s.provider = (.error e, t)) :
    applyWithRetries p delay c 0 s = (⟨1, .error e⟩, s.called p t) := by
  simp only [applyWithRetries, h]

theorem applyWithRetries_again (h : c.apply p s.provider = (.error e, t)) :
    applyWithRetries p delay c (retries + 1) s =
      ({ (applyWithRetries p delay c retries ((s.called p t).later delay)).1 with
          attempts :=
            (applyWithRetries p delay c retries ((s.called p t).later delay)).1.attempts + 1 },
        (applyWithRetries p delay c retries ((s.called p t).later delay)).2) := by
  conv => lhs; unfold applyWithRetries
  simp only [h]

end Retries

theorem provider_called (s : Session σ) (p : Provider σ) (t : σ) :
    (s.called p t).provider = t := by
  unfold Session.called
  split <;> rfl

/-- The attempts of one correction tell nothing, and they keep what each of them
keeps. -/
theorem applyWithRetries_keeps {i : Nat} {c : Correction} (hkeeps : Keeps p Inv Q i c)
    {A : Set Nat} (hi : i ∉ A) (delay retries : Nat) {s : Session σ} (hs : Inv A s.provider) :
    (applyWithRetries p delay c retries s).2.events = s.events ∧
      Q (applyWithRetries p delay c retries s).1.result ∧
      Inv (A ∪ placeIf i (applyWithRetries p delay c retries s).1.result)
        (applyWithRetries p delay c retries s).2.provider := by
  have hsuccess : ∀ (retries : Nat) {s : Session σ} {t : σ}, Inv A s.provider →
      c.apply p s.provider = (.ok (), t) →
      (applyWithRetries p delay c retries s).2.events = s.events ∧
        Q (applyWithRetries p delay c retries s).1.result ∧
        Inv (A ∪ placeIf i (applyWithRetries p delay c retries s).1.result)
          (applyWithRetries p delay c retries s).2.provider := by
    intro retries s t hs happly
    rw [applyWithRetries_ok happly, union_placeIf_ok, provider_called]
    exact ⟨s.events_called p t, hkeeps.success hi hs happly⟩
  induction retries generalizing s with
  | zero =>
    cases happly : c.apply p s.provider with
    | mk result t =>
      cases result with
      | ok u => exact hsuccess 0 hs happly
      | error e =>
        rw [applyWithRetries_last happly, union_placeIf_error, provider_called]
        exact ⟨s.events_called p t, hkeeps.failure hi hs happly⟩
  | succ retries ih =>
    cases happly : c.apply p s.provider with
    | mk result t =>
      cases result with
      | ok u => exact hsuccess (retries + 1) hs happly
      | error e =>
        have hlater : Inv A ((s.called p t).later delay).provider := by
          have hprovider : ((s.called p t).later delay).provider = t := provider_called s p t
          rw [hprovider]
          exact (hkeeps.failure hi hs happly).2
        obtain ⟨hevents, hrest⟩ := ih hlater
        rw [Session.events_later, Session.events_called] at hevents
        rw [applyWithRetries_again happly]
        exact ⟨hevents, hrest⟩

/-- Trying some corrections leaves the places of the others free. -/
theorem fresh_after (first : List (Nat × Correction)) {second : List (Nat × Correction)}
    {A : Set Nat} (hpass : ((first ++ second).map (·.1)).Nodup)
    (hA : ∀ e ∈ first ++ second, e.1 ∉ A) {journal : List Tried}
    (hjournal : (journal.map Tried.entry).Sublist first) :
    ∀ e ∈ second, e.1 ∉ A ∪ appliedIn journal := by
  rw [List.map_append, List.nodup_append] at hpass
  rintro e he (hmem | ⟨t, ht, heq, -⟩)
  · exact hA e (List.mem_append.2 (.inr he)) hmem
  · have htried : t.entry ∈ first := hjournal.subset (List.mem_map_of_mem ht)
    exact hpass.2.2 t.index (List.mem_map_of_mem (f := (·.1)) htried) e.1
      (List.mem_map_of_mem he) heq

/-- A pass in which one correction is tried after the other. -/
theorem applySequentially_keeps (r : Reconciler σ) {pass : List (Nat × Correction)}
    (hpass : (pass.map (·.1)).Nodup) (hkeeps : ∀ e ∈ pass, Keeps r.provider Inv Q e.1 e.2)
    {A : Set Nat} (hA : ∀ e ∈ pass, e.1 ∉ A) {a : Application σ}
    (ha : Inv A a.session.provider) :
    r.Tries pass a (r.applySequentially pass a).2 (r.applySequentially pass a).1
        (r.triedInOrder pass a) ∧ (∀ t ∈ r.triedInOrder pass a, Q t.outcome.result) ∧
      Inv (A ∪ appliedIn (r.triedInOrder pass a))
        (r.applySequentially pass a).2.session.provider := by
  induction pass generalizing a A with
  | nil =>
    refine ⟨.nil r a, by simp [triedInOrder], ?_⟩
    rw [triedInOrder, appliedIn_nil, Set.union_empty]
    exact ha
  | cons e rest ih =>
    obtain ⟨i, c⟩ := e
    obtain ⟨hc, hkeeps⟩ := List.forall_mem_cons.1 hkeeps
    obtain ⟨hevents, hQ, hInv⟩ := applyWithRetries_keeps hc (hA _ List.mem_cons_self)
      r.config.wait r.config.maxRetries.toNat ha
    cases hrun : applyWithRetries r.provider r.config.wait c r.config.maxRetries.toNat
        a.session with
    | mk o session =>
      rw [hrun] at hevents hQ hInv
      have hone : r.Tries [(i, c)] a ({ a with session }.record i c o) (r.stopsOn o) [⟨i, c, o⟩] :=
        ⟨a.extends_record hevents ⟨i, c, o⟩, .refl _, by simp, fun _ => rfl⟩
      have hprovider : ({ a with session }.record i c o).session.provider = session.provider :=
        Application.provider_record { a with session } ⟨i, c, o⟩
      have hInv : Inv (A ∪ appliedIn [⟨i, c, o⟩])
          ({ a with session }.record i c o).session.provider := by
        rw [appliedIn_singleton, hprovider]
        exact hInv
      rw [applySequentially, triedInOrder, hrun]
      simp only
      cases hstop : r.stopsOn o with
      | true =>
        rw [hstop] at hone
        rw [if_pos rfl, if_pos rfl]
        exact ⟨hone.stop rest, by simpa using hQ, hInv⟩
      | false =>
        rw [hstop] at hone
        have hfresh : ∀ e ∈ rest, e.1 ∉ A ∪ appliedIn [⟨i, c, o⟩] :=
          fresh_after [(i, c)] hpass hA hone.sublist
        obtain ⟨htries, hQs, hfinal⟩ := ih (List.nodup_cons.1 hpass).2 hkeeps hfresh hInv
        rw [if_neg Bool.false_ne_true, if_neg Bool.false_ne_true]
        refine ⟨hone.append htries, List.forall_mem_cons.2 ⟨hQ, hQs⟩, ?_⟩
        rw [← List.singleton_append, appliedIn_append, ← Set.union_assoc]
        exact hfinal

end Reconciler

namespace Pool

variable {Inv : Set Nat → σ → Prop} {Q : Except Error Unit → Prop} {A : Set Nat}
  {pass : List (Nat × Correction)} {pool next : Pool σ}

/-- The places whose corrections have been applied, joined or not. -/
def applied (pool : Pool σ) : Set Nat :=
  {i | (∃ f ∈ pool.finished, f.task.index = i ∧ f.outcome.result = .ok ()) ∨
    ∃ o, pool.outcomes.get? i = some o ∧ o.result = .ok ()}

/-- What all attempts keep holds in the pool, and every outcome has `Q`. -/
structure Kept (Inv : Set Nat → σ → Prop) (Q : Except Error Unit → Prop) (A : Set Nat)
    (pool : Pool σ) : Prop where
  inv : Inv (A ∪ pool.applied) pool.provider
  finished : ∀ f ∈ pool.finished, Q f.outcome.result
  outcomes : ∀ o ∈ pool.outcomes.values, Q o.result

/-- A task that ends is applied if its outcome says so. -/
theorem applied_finish (pool : Pool σ) (f : FinishedTask) (active : List Task) (provider : σ)
    (clock : Nat) (history : List Move) :
    applied { pool with
        active, provider, clock, history, finished := pool.finished ++ [f] } =
      pool.applied ∪ placeIf f.task.index f.outcome.result := by
  ext i
  simp only [applied, placeIf, Set.mem_union, Set.mem_ofPred_eq, List.mem_append,
    List.mem_singleton]
  constructor
  · rintro (⟨g, hg | rfl, rfl, hok⟩ | ho)
    · exact .inl (.inl ⟨g, hg, rfl, hok⟩)
    · exact .inr ⟨rfl, hok⟩
    · exact .inl (.inr ho)
  · rintro ((⟨g, hg, hok⟩ | ho) | ⟨rfl, hok⟩)
    · exact .inl ⟨g, .inl hg, hok⟩
    · exact .inr ho
    · exact .inl ⟨f, .inr rfl, rfl, hok⟩

/-- Joining a task changes nothing about what is applied. -/
theorem applied_join {before after : List FinishedTask} {f : FinishedTask}
    (hfinished : pool.finished = before ++ f :: after) (hfresh : f.task.index ∉ pool.outcomes.keys)
    (failureSeen : Bool) (history : List Move) :
    applied { pool with
        failureSeen, history
        finished := before ++ after
        outcomes := pool.outcomes.insert f.task.index f.outcome } = pool.applied := by
  ext i
  simp only [applied, hfinished, Set.mem_ofPred_eq, List.mem_append, List.mem_cons,
    SortedMap.get?_insert]
  constructor
  · rintro (⟨g, hg | hg, rfl, hok⟩ | ⟨o, ho, hok⟩)
    · exact .inl ⟨g, .inl hg, rfl, hok⟩
    · exact .inl ⟨g, .inr (.inr hg), rfl, hok⟩
    · split at ho
      · rename_i hi
        cases ho
        exact .inl ⟨f, .inr (.inl rfl), hi.symm, hok⟩
      · exact .inr ⟨o, ho, hok⟩
  · rintro (⟨g, hg | rfl | hg, rfl, hok⟩ | ⟨o, ho, hok⟩)
    · exact .inl ⟨g, .inl hg, rfl, hok⟩
    · exact .inr ⟨g.outcome, by simp, hok⟩
    · exact .inl ⟨g, .inr hg, rfl, hok⟩
    · have hne : i ≠ f.task.index := by
        rintro rfl
        exact hfresh (SortedMap.mem_keys_iff.2 ⟨o, ho⟩)
      exact .inr ⟨o, by rw [if_neg hne, ho], hok⟩

theorem kept_new (config : EngineConfig) (pass : List (Nat × Correction)) {s : σ} (clock : Nat)
    (h : Inv A s) : (new config pass s clock).Kept Inv Q A where
  inv := by
    have hnone : (new config pass s clock).applied = ∅ := by
      ext i
      simp [applied, new]
    rw [hnone, Set.union_empty]
    exact h
  finished := by simp [new]
  outcomes := by simp [new, SortedMap.values, SortedMap.empty]

/-- A task that is under way has not been applied yet. -/
theorem WorksOn.not_applied (h : pool.WorksOn pass) (hpass : (pass.map (·.1)).Nodup)
    {before after : List Task} {t : Task} (hactive : pool.active = before ++ t :: after) :
    t.index ∉ pool.applied := by
  obtain ⟨-, -, hfinished, hjoined⟩ := h.elsewhere hpass hactive
  rintro (⟨f, hf, heq, -⟩ | ⟨o, ho, -⟩)
  · exact hfinished f hf heq
  · exact hjoined (SortedMap.mem_keys_iff.2 ⟨o, ho⟩)

theorem Kept.step (h : pool.Kept Inv Q A) (hworks : pool.WorksOn pass)
    (hpass : (pass.map (·.1)).Nodup) (hkeeps : ∀ e ∈ pass, Keeps p Inv Q e.1 e.2)
    (hA : ∀ e ∈ pass, e.1 ∉ A) {m : Move} (hstep : Step p pool m next) : next.Kept Inv Q A := by
  have hends : ∀ {before after : List Task} {t : Task}, pool.active = before ++ t :: after →
      Keeps p Inv Q t.index t.correction ∧ t.index ∉ A ∪ pool.applied := by
    intro before after t hactive
    have hmem : (t.index, t.correction) ∈ pass := hworks.active t (by simp [hactive])
    exact ⟨hkeeps _ hmem, fun hin => hin.elim (hA _ hmem) (hworks.not_applied hpass hactive)⟩
  cases hstep with
  | start hwaiting hcan => exact ⟨h.inv, h.finished, h.outcomes⟩
  | retry hactive halive happly hleft =>
    obtain ⟨hkept, hfresh⟩ := hends hactive
    exact ⟨(hkept.failure hfresh h.inv happly).2, h.finished, h.outcomes⟩
  | @finish before after t o s hactive hend =>
    obtain ⟨hkept, hfresh⟩ := hends hactive
    have hboth : Q o.result ∧ Inv (A ∪ pool.applied ∪ placeIf t.index o.result) s := by
      cases hend with
      | death hcrash =>
        rw [Outcome.ofDeath, union_placeIf_error]
        exact hkept.death hfresh h.inv hcrash
      | success halive happly =>
        rw [union_placeIf_ok]
        exact hkept.success hfresh h.inv happly
      | failure halive happly hlast =>
        rw [union_placeIf_error]
        exact hkept.failure hfresh h.inv happly
    refine ⟨?_, List.forall_mem_append.2 ⟨h.finished, List.forall_mem_singleton.2 hboth.1⟩,
      h.outcomes⟩
    rw [applied_finish, ← Set.union_assoc]
    exact hboth.2
  | @join before after f hfinished hcan =>
    have hfresh := hworks.not_joined hpass (f := f) (by simp [hfinished])
    have hold := h.finished
    rw [hfinished] at hold
    refine ⟨?_, fun g hg => hold g (mem_append_cons_of_mem hg), ?_⟩
    · rw [applied_join hfinished hfresh]
      exact h.inv
    · intro o ho
      rcases (SortedMap.mem_values_insert hfresh).1 ho with rfl | ho
      · exact hold f (by simp)
      · exact h.outcomes o ho

theorem nothing_unjoined_of_isDone (h : pool.isDone = true) :
    pool.active = [] ∧ pool.finished = [] := by
  simp only [isDone, Bool.and_eq_true, List.isEmpty_iff] at h
  exact h.1

theorem WorksOn.mem_pass_of_joined (h : pool.WorksOn pass) {i : Nat} {o : Outcome}
    (ho : pool.outcomes.get? i = some o) : ∃ c, (i, c) ∈ pass := by
  have hmem : i ∈ pool.indices :=
    List.mem_append.2 (.inr (SortedMap.mem_keys_iff.2 ⟨o, ho⟩))
  obtain ⟨⟨j, c⟩, he, rfl⟩ := List.mem_map.1 (h.perm.mem_iff.1 hmem)
  exact ⟨c, he⟩

/-- What was applied in a drained pool stands in its journal. -/
theorem applied_of_isDone (h : pool.WorksOn pass) (hdone : pool.isDone = true) :
    pool.applied = appliedIn (Reconciler.joinedJournal pool.outcomes pass) := by
  ext i
  simp only [applied, appliedIn, (nothing_unjoined_of_isDone hdone).2, List.not_mem_nil,
    false_and, exists_false, false_or, Set.mem_ofPred_eq]
  constructor
  · rintro ⟨o, ho, hok⟩
    obtain ⟨c, hc⟩ := h.mem_pass_of_joined ho
    exact ⟨⟨i, c, o⟩, Reconciler.mem_joinedJournal.2 ⟨hc, ho⟩, rfl, hok⟩
  · rintro ⟨t, ht, rfl, hok⟩
    exact ⟨t.outcome, (Reconciler.mem_joinedJournal.1 ht).2, hok⟩

/-- A pool that is done has started everything, unless a failure kept some corrections
from being started. -/
theorem waiting_of_isDone (hdone : pool.isDone = true)
    (hparallel : 0 < pool.config.maxParallel.toNat) (hstopped : pool.isStopped = false) :
    pool.waiting = [] := by
  obtain ⟨hactive, hfinished⟩ := nothing_unjoined_of_isDone hdone
  simpa [isDone, canStart, unjoined, hactive, hfinished, hstopped, hparallel] using hdone

/-- A drained pool has an outcome for each correction, unless a failure kept some
from being started. -/
theorem WorksOn.joined_of_isDone (h : pool.WorksOn pass) (hdone : pool.isDone = true)
    (hparallel : 0 < pool.config.maxParallel.toNat) (hstopped : pool.isStopped = false)
    {i : Nat} {c : Correction} (he : (i, c) ∈ pass) : ∃ o, pool.outcomes.get? i = some o := by
  obtain ⟨hactive, hfinished⟩ := nothing_unjoined_of_isDone hdone
  have hwaiting := waiting_of_isDone hdone hparallel hstopped
  have hperm := h.perm
  simp only [indices, hwaiting, hactive, hfinished, List.map_nil, List.nil_append] at hperm
  exact SortedMap.mem_keys_iff.1 (hperm.mem_iff.2 (List.mem_map_of_mem (f := (·.1)) he))

end Pool

namespace Reconciler

variable {Inv : Set Nat → σ → Prop} {Q : Except Error Unit → Prop}

/-- What holds of the pool of a pass at the beginning and is kept by every step holds
when the pool is drained. -/
theorem drained_induction (r : Reconciler σ) {pass : List (Nat × Correction)}
    (hpass : (pass.map (·.1)).Nodup) {P : Pool σ → Prop}
    (hstep : ∀ (pool next : Pool σ) (m : Move), pool.WorksOn pass → P pool →
      Pool.Step r.provider pool m next → P next) {a : Application σ}
    (hP : P (.new r.config pass a.session.provider a.session.clock)) :
    (r.drained pass a).WorksOn pass ∧ P (r.drained pass a) ∧ (r.drained pass a).isDone = true :=
  Pool.drain_induction r.scheduler hpass hstep r.config a.session.provider a.session.clock hP

/-- A pool is not stopped if none of its outcomes stops the run. -/
theorem isStopped_of_outcomes (r : Reconciler σ) {pass : List (Nat × Correction)}
    {pool : Pool σ} (hworks : pool.WorksOn pass) (hconfig : pool.config = r.config)
    (hnone : pool.outcomes.values.any r.stopsOn = false) : pool.isStopped = false := by
  rw [Bool.eq_false_iff]
  intro hstopped
  obtain ⟨hpolicy, hseen⟩ := Bool.and_eq_true_iff.1 hstopped
  obtain ⟨o, ho, hfail⟩ := hworks.seen.1 hseen
  have hstop : r.stopsOn o = true := by
    rw [stopsOn, ← hconfig, hpolicy, hfail]
    rfl
  rw [List.any_eq_false] at hnone
  exact hnone o ho hstop

/-- The journal of a drained pool is complete unless a failure stopped the run. -/
theorem tries_of_drained (r : Reconciler σ) {pass : List (Nat × Correction)}
    {pool : Pool σ} (hworks : pool.WorksOn pass) (hconfig : pool.config = r.config)
    (hdone : pool.isDone = true) (hparallel : 0 < r.config.maxParallel.toNat)
    {a b : Application σ} (hrecorded : a.Extends b (joinedJournal pool.outcomes pass)) :
    r.Tries pass a b (pool.outcomes.values.any r.stopsOn) (joinedJournal pool.outcomes pass) where
  recorded := hrecorded
  sublist := by
    rw [map_entry_joinedJournal]
    exact List.filter_sublist
  stops := by
    rw [Bool.eq_iff_iff, List.any_eq_true, List.any_eq_true]
    constructor
    · rintro ⟨o, ho, hstop⟩
      obtain ⟨i, hi⟩ := SortedMap.mem_values_iff.1 ho
      obtain ⟨c, hc⟩ := hworks.mem_pass_of_joined hi
      exact ⟨⟨i, c, o⟩, mem_joinedJournal.2 ⟨hc, hi⟩, hstop⟩
    · rintro ⟨t, ht, hstop⟩
      exact ⟨t.outcome, SortedMap.mem_values_iff.2 ⟨t.index, (mem_joinedJournal.1 ht).2⟩, hstop⟩
  complete := by
    intro hnone
    have hstopped := r.isStopped_of_outcomes hworks hconfig hnone
    rw [map_entry_joinedJournal, List.filter_eq_self]
    rintro ⟨i, c⟩ he
    exact Option.isSome_iff_exists.2
      (hworks.joined_of_isDone hdone (hconfig ▸ hparallel) hstopped he)

/-- A pass with several corrections under way at once. -/
theorem applyConcurrently_keeps (r : Reconciler σ) {pass : List (Nat × Correction)}
    (hpass : (pass.map (·.1)).Nodup) (hkeeps : ∀ e ∈ pass, Keeps r.provider Inv Q e.1 e.2)
    (hparallel : 0 < r.config.maxParallel.toNat)
    {A : Set Nat} (hA : ∀ e ∈ pass, e.1 ∉ A) {a : Application σ}
    (ha : Inv A a.session.provider) :
    r.Tries pass a (r.applyConcurrently pass a).2 (r.applyConcurrently pass a).1
        (joinedJournal (r.drained pass a).outcomes pass) ∧
      (∀ t ∈ joinedJournal (r.drained pass a).outcomes pass, Q t.outcome.result) ∧
      Inv (A ∪ appliedIn (joinedJournal (r.drained pass a).outcomes pass))
        (r.applyConcurrently pass a).2.session.provider := by
  obtain ⟨hworks, ⟨hkept, hconfig⟩, hdone⟩ := r.drained_induction hpass
    (P := fun pool => pool.Kept Inv Q A ∧ pool.config = r.config)
    (fun pool next m hworks hP hstep =>
      ⟨hP.1.step hworks hpass hkeeps hA hstep, hstep.config_eq.trans hP.2⟩)
    ⟨Pool.kept_new _ _ _ ha, rfl⟩
  obtain ⟨hstopped, hrecorded, hprovider⟩ := r.applyConcurrently_spec pass a
  refine ⟨?_, ?_, ?_⟩
  · rw [hstopped]
    exact tries_of_drained r hworks hconfig hdone hparallel hrecorded
  · intro t ht
    exact hkept.outcomes t.outcome
      (SortedMap.mem_values_iff.2 ⟨t.index, (mem_joinedJournal.1 ht).2⟩)
  · rw [hprovider, ← Pool.applied_of_isDone hworks hdone]
    exact hkept.inv

theorem applyPass_keeps (r : Reconciler σ) {pass : List (Nat × Correction)}
    (hpass : (pass.map (·.1)).Nodup) (hkeeps : ∀ e ∈ pass, Keeps r.provider Inv Q e.1 e.2)
    {A : Set Nat} (hA : ∀ e ∈ pass, e.1 ∉ A) {a : Application σ}
    (ha : Inv A a.session.provider) :
    ∃ journal, r.Tries pass a (r.applyPass pass a).2 (r.applyPass pass a).1 journal ∧
      (∀ t ∈ journal, Q t.outcome.result) ∧
      Inv (A ∪ appliedIn journal) (r.applyPass pass a).2.session.provider := by
  unfold applyPass
  split
  · rename_i hmany
    have hparallel : 0 < r.config.maxParallel.toNat := by
      have hless := UInt64.lt_iff_toNat_lt.1 hmany
      omega
    exact ⟨_, r.applyConcurrently_keeps hpass hkeeps hparallel hA ha⟩
  · exact ⟨_, r.applySequentially_keeps hpass hkeeps hA ha⟩

end Reconciler

end DnsReconcile
