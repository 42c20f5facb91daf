import DnsReconcile.Proofs.Application
import DnsReconcile.Proofs.PoolTrace
import DnsReconcile.Provider.FaultInjection
import DnsReconcile.Store

/-!
What can be noticed of the application of a list, whatever the order of its calls.

Each pass shows its moments behind those of the passes before it (`Reconciler.trace`).
Between the passes everything that was started is joined (`passTrace_through`), so the
whole history is legal, and the report has one outcome for each correction that was
started (`apply_scheduled`).
-/

namespace DnsReconcile

variable {σ : Type}

def Tried.moments (t : Tried) : List Moment :=
  [.started t.index, .finished t.index t.outcome, .joined t.index t.outcome]

def Tried.ending (t : Tried) : Nat × Outcome := (t.index, t.outcome)

namespace Reconciler

def passTrace (r : Reconciler σ) (pass : List (Nat × Correction)) (a : Application σ) :
    List Moment :=
  if 1 < r.config.maxParallel then
    (Pool.new r.config pass a.session.provider a.session.clock).drainTrace r.provider r.scheduler
  else (r.triedInOrder pass a).flatMap Tried.moments

/-- What the passes show until a failure stops the run. -/
def passesTrace (r : Reconciler σ) :
    List (List (Nat × Correction)) → Application σ → List Moment
  | [], _ => []
  | pass :: rest, a =>
    r.passTrace pass a ++ match r.applyPass pass a with
      | (true, _) => []
      | (false, a) => r.passesTrace rest a

def trace (r : Reconciler σ) (zone : String) (cs : List Correction) (s : Session σ) :
    List Moment :=
  r.passesTrace (passes cs) ⟨s, { zone, planned := cs.length }⟩

variable {r : Reconciler σ} {cs : List Correction} {pass rest : List (Nat × Correction)}
  {before : List Moment}

/-- A part of the list is through: what was started is joined with the outcomes of the
journal, and if no failure stopped the run, everything up to `rest` was started. -/
structure Through (r : Reconciler σ) (cs : List Correction) (rest : List (Nat × Correction))
    (before after : List Moment) (stopped : Bool) (journal : List Tried) : Prop where
  settled : Settled r.config cs after
  joined : ∀ e, e ∈ joinedIn after ↔ e ∈ joinedIn before ∨ e ∈ journal.map Tried.ending
  next : stopped = false → (indexed 0 cs).drop (startedIn after).length = rest

namespace Through

variable {after later : List Moment} {stopped : Bool} {xs ys : List Tried}
  {others : List (Nat × Correction)}

theorem trans (h : r.Through cs others before after false xs)
    (k : r.Through cs rest after later stopped ys) :
    r.Through cs rest before later stopped (xs ++ ys) where
  settled := k.settled
  joined := by
    intro e
    rw [k.joined, h.joined, List.map_append, List.mem_append, or_assoc]
  next := k.next

theorem stop (h : r.Through cs others before after true xs) :
    r.Through cs rest before after true xs where
  settled := h.settled
  joined := h.joined
  next := fun hstopped => absurd hstopped (by decide)

/-- A run that was not stopped has seen no failure that would have stopped it. -/
theorem ready (h : r.Through cs rest before after false xs)
    (hstops : false = xs.any (fun t => r.stopsOn t.outcome))
    (hbefore : Ready r.config cs others before) : Ready r.config cs rest after where
  settled := h.settled
  next := h.next rfl
  clean := by
    intro hpolicy
    apply List.filter_eq_nil_iff.2
    intro e he hfail
    rcases (h.joined e).1 he with hold | hnew
    · exact List.filter_eq_nil_iff.1 (hbefore.clean hpolicy) e hold hfail
    · obtain ⟨t, ht, rfl⟩ := List.mem_map.1 hnew
      have hstop : r.stopsOn t.outcome = true := by
        rw [stopsOn, hpolicy]
        exact hfail
      rw [eq_comm, List.any_eq_false] at hstops
      exact hstops t ht hstop

end Through

/-- Behind a pass with several corrections under way everything is joined. -/
theorem drainTrace_through (hready : Ready r.config cs (pass ++ rest) before)
    (hpass : (pass.map (·.1)).Nodup) (hsame : ∀ e ∈ pass, ∀ f ∈ pass, e.2.pass = f.2.pass)
    (hparallel : 0 < r.config.maxParallel.toNat) (a : Application σ) :
    r.Through cs rest before
      (before ++ (Pool.new r.config pass a.session.provider a.session.clock).drainTrace
        r.provider r.scheduler)
      (r.applyConcurrently pass a).1 (joinedJournal (r.drained pass a).outcomes pass) := by
  obtain ⟨hworks, hconfig, hdone⟩ := r.drained_induction hpass (a := a)
    (P := fun pool => pool.config = r.config)
    (fun pool next m _ hP hstep => hstep.config_eq.trans hP) rfl
  have hshows : (r.drained pass a).Shows cs rest before _ :=
    Pool.shows_drain hready hpass hsame r.scheduler a.session.provider a.session.clock
  obtain ⟨hactive, hfinished⟩ := Pool.nothing_unjoined_of_isDone hdone
  refine ⟨⟨hconfig ▸ hshows.legal, ?_⟩, fun e => ?_, fun hstopped => ?_⟩
  · have hplaced := hshows.placed
    rw [hactive, hfinished] at hplaced
    exact hplaced.eq_nil
  · rw [hshows.joined, List.mem_map]
    refine or_congr_right ⟨fun he => ?_, ?_⟩
    · obtain ⟨c, hc⟩ := hworks.mem_pass_of_joined he
      exact ⟨⟨e.1, c, e.2⟩, mem_joinedJournal.2 ⟨hc, he⟩, rfl⟩
    · rintro ⟨t, ht, rfl⟩
      exact (mem_joinedJournal.1 ht).2
  · rw [(r.applyConcurrently_spec pass a).1] at hstopped
    have hwaiting := Pool.waiting_of_isDone hdone (hconfig ▸ hparallel)
      (r.isStopped_of_outcomes hworks hconfig hstopped)
    rw [hshows.waiting, hwaiting, List.nil_append]

/-- The next correction can be tried on its own. -/
private theorem moments_settled {i : Nat} {c : Correction}
    (hready : Ready r.config cs ((i, c) :: rest) before)
    (hparallel : 0 < r.config.maxParallel.toNat) (o : Outcome) :
    Settled r.config cs (before ++ Tried.moments ⟨i, c, o⟩) := by
  obtain ⟨hplace, hless⟩ := head_of_drop hready.next
  have hlegal := hready.settled.legal
  have hunjoined : i ∉ (joinedIn before).map (·.1) := hplace ▸ hlegal.not_joined_of_length
  have hunfinished : ∀ o, .finished i o ∉ before := hplace ▸ hlegal.not_finished_of_length
  have hunder : underWay (before ++ [.started i]) = [i] := by
    rw [underWay_started hunjoined, hready.settled.nothing, List.nil_append]
  have hstarted : Legal r.config cs (before ++ [.started i]) := by
    refine Legal.concat_iff.2 ⟨hlegal, hplace, hplace ▸ hless, ?_, fun j hj _ => ?_, hready.clean⟩
    · rw [hready.settled.nothing]
      exact hparallel
    · exact hready.settled.finished (hplace ▸ hj)
  have hfinished : Legal r.config cs (before ++ [.started i] ++ [.finished i o]) := by
    refine Legal.concat_iff.2 ⟨hstarted, ?_, fun o' ho' => hunfinished o' (by simpa using ho')⟩
    exact (mem_underWay.1 (hunder ▸ List.mem_singleton_self i)).1
  have hjoined : Legal r.config cs
      (before ++ [.started i] ++ [.finished i o] ++ [.joined i o]) := by
    refine Legal.concat_iff.2 ⟨hfinished, List.mem_append.2 (.inr (List.mem_singleton_self _)), ?_⟩
    rw [underWay_finished, hunder]
    exact List.mem_singleton_self i
  have hsplit : before ++ Tried.moments ⟨i, c, o⟩ =
      before ++ [.started i] ++ [.finished i o] ++ [.joined i o] := by
    simp [Tried.moments]
  rw [hsplit]
  refine ⟨hjoined, ?_⟩
  rw [underWay_joined, underWay_finished, hunder]
  simp

private theorem moments_through {i : Nat} {c : Correction}
    (hready : Ready r.config cs ((i, c) :: rest) before)
    (hparallel : 0 < r.config.maxParallel.toNat) (o : Outcome) (stopped : Bool) :
    r.Through cs rest before (before ++ Tried.moments ⟨i, c, o⟩) stopped [⟨i, c, o⟩] where
  settled := moments_settled hready hparallel o
  joined := by
    intro e
    rw [joinedIn_append, List.mem_append]
    rfl
  next := by
    intro _
    have hnext := congrArg List.tail hready.next
    rw [List.tail_drop] at hnext
    rw [startedIn_append, List.length_append]
    exact hnext

/-- Behind a pass in which one correction is tried after the other everything is
joined. -/
theorem triedInOrder_through (hready : Ready r.config cs (pass ++ rest) before)
    (hparallel : 0 < r.config.maxParallel.toNat) (a : Application σ) :
    r.Through cs rest before (before ++ (r.triedInOrder pass a).flatMap Tried.moments)
      (r.applySequentially pass a).1 (r.triedInOrder pass a) := by
  induction pass generalizing before a with
  | nil =>
    rw [triedInOrder, List.flatMap_nil, List.append_nil]
    exact ⟨hready.settled, by simp, fun _ => hready.next⟩
  | cons e others ih =>
    obtain ⟨i, c⟩ := e
    cases hrun : applyWithRetries r.provider r.config.wait c r.config.maxRetries.toNat
        a.session with
    | mk o session =>
      have hone := moments_through (c := c) hready hparallel o (r.stopsOn o)
      rw [applySequentially, triedInOrder, hrun]
      simp only
      cases hstop : r.stopsOn o with
      | true =>
        rw [hstop] at hone
        rw [if_pos rfl, if_pos rfl, List.flatMap_singleton]
        exact hone.stop
      | false =>
        rw [hstop] at hone
        have hnext := hone.ready (by simp [hstop]) hready
        rw [if_neg Bool.false_ne_true, if_neg Bool.false_ne_true, List.flatMap_cons,
          ← List.append_assoc]
        exact hone.trans (ih hnext _)

/-- What a pass shows is told by its journal. -/
theorem passTrace_through (hready : Ready r.config cs (pass ++ rest) before)
    (hpass : (pass.map (·.1)).Nodup) (hsame : ∀ e ∈ pass, ∀ f ∈ pass, e.2.pass = f.2.pass)
    (hparallel : 0 < r.config.maxParallel.toNat) (a : Application σ) :
    ∃ journal, r.Tries pass a (r.applyPass pass a).2 (r.applyPass pass a).1 journal ∧
      r.Through cs rest before (before ++ r.passTrace pass a) (r.applyPass pass a).1 journal := by
  have hkeeps : ∀ e ∈ pass, Keeps r.provider (fun _ _ => True) (fun _ => True) e.1 e.2 :=
    fun e _ => .nothing r.provider e.1 e.2
  unfold applyPass passTrace
  split
  · exact ⟨_, (r.applyConcurrently_keeps (A := ∅) hpass hkeeps hparallel (fun _ _ => id)
      trivial).1, drainTrace_through hready hpass hsame hparallel a⟩
  · exact ⟨_, (r.applySequentially_keeps (A := ∅) hpass hkeeps (fun _ _ => id) trivial).1,
      triedInOrder_through hready hparallel a⟩

/-- What all passes show is told by the journal of the application. -/
theorem passesTrace_through {passes : List (List (Nat × Correction))}
    (hready : Ready r.config cs passes.flatten before)
    (hpasses : (passes.flatten.map (·.1)).Nodup)
    (hsame : ∀ pass ∈ passes, ∀ e ∈ pass, ∀ f ∈ pass, e.2.pass = f.2.pass)
    (hparallel : 0 < r.config.maxParallel.toNat) (a : Application σ) :
    ∃ b stopped journal, r.Tries passes.flatten a b stopped journal ∧
      r.applyPasses passes a = (if stopped then cut b else b) ∧
      r.Through cs [] before (before ++ r.passesTrace passes a) stopped journal := by
  induction passes generalizing before a with
  | nil =>
    rw [passesTrace, List.append_nil]
    exact ⟨a, false, [], .nil r a, rfl, hready.settled, by simp, fun _ => hready.next⟩
  | cons pass others ih =>
    rw [List.flatten_cons] at hready hpasses ⊢
    rw [List.map_append, List.nodup_append] at hpasses
    obtain ⟨hfirst, hlater⟩ := List.forall_mem_cons.1 hsame
    obtain ⟨journal, htries, hthrough⟩ := passTrace_through hready hpasses.1 hfirst hparallel a
    rw [applyPasses, passesTrace]
    cases hrun : r.applyPass pass a with
    | mk stopped b =>
      rw [hrun] at htries hthrough
      cases stopped with
      | true =>
        simp only [List.append_nil]
        exact ⟨b, true, journal, htries.stop _, rfl, hthrough.stop⟩
      | false =>
        obtain ⟨c, stopped, later, htries', hpassed, hthrough'⟩ :=
          ih (hthrough.ready htries.stops hready) hpasses.2.1 hlater b
        rw [List.append_assoc] at hthrough'
        exact ⟨c, stopped, journal ++ later, htries.append htries', hpassed,
          hthrough.trans hthrough'⟩

/-- What a whole application shows is told by its journal, and so is its report. -/
theorem trace_through (r : Reconciler σ) (hparallel : 0 < r.config.maxParallel.toNat)
    (zone : String) (cs : List Correction) (s : Session σ) :
    ∃ stopped journal told, r.Ran zone cs stopped journal (r.apply zone cs s).1 told ∧
      (r.apply zone cs s).2.events = s.events ++ told ∧
      r.Through cs [] [] (r.trace zone cs s) stopped journal := by
  have hflatten := flatten_passes cs
  have hready : Ready r.config cs (passes cs).flatten [] :=
    ⟨Settled.nil, hflatten.symm, fun _ => rfl⟩
  have hnodup : ((passes cs).flatten.map (·.1)).Nodup := hflatten ▸ nodup_indexed cs
  obtain ⟨b, stopped, journal, htries, hpassed, hthrough⟩ := passesTrace_through hready hnodup
    (fun _ hpass _ he _ hf => pass_eq_of_mem_passes hpass he hf) hparallel
    ⟨s, { zone, planned := cs.length }⟩
  rw [hflatten] at htries
  obtain ⟨told, hran, hevents, -⟩ := htries.ran hpassed
  exact ⟨stopped, journal, told, hran, hevents, hthrough⟩

end Reconciler

open Reconciler

/-- What may be noticed of the application of a list, and what its report says. -/
structure Scheduled (config : EngineConfig) (cs : List Correction) (t : List Moment)
    (report : Report) : Prop where
  /-- At no time are more corrections started and not joined than the limit allows. -/
  room : ∀ before, before <+: t → (underWay before).length ≤ config.maxParallel.toNat
  /-- At all times the corrections that were started, each once and in the order of the
  list, are the first ones of the list. -/
  inOrder : ∀ before, before <+: t → startedIn before <+: List.range cs.length
  /-- What starts finds everything before its own run of the list finished. -/
  runs : ∀ before j after, t = before ++ .started j :: after →
    ∀ i < j, ¬ SameRun cs i j → ∃ o, .finished i o ∈ before
  /-- Nothing starts behind a failure that stops the application. -/
  stops : config.failurePolicy = .failFast →
    ∀ before j after, t = before ++ .started j :: after → failedIn before = []
  fewFailures : config.failurePolicy = .failFast →
    report.failures.length ≤ config.maxParallel.toNat
  /-- If failures do not stop the application, everything is started. -/
  goesOn : config.failurePolicy = .keepGoing → startedIn t = List.range cs.length
  /-- What was started is what the report counts, each with the outcome that was joined. -/
  counted : ∃ journal : List Tried, journal.map Tried.index = startedIn t ∧
    (journal.map Tried.entry).Sublist (indexed 0 cs) ∧
    (journal.map Tried.ending).Perm (joinedIn t) ∧
    report.applied = (journal.filter Tried.isApplied).length ∧
    report.failures = journal.filterMap Tried.failure?

/-- The journal lists what was started. -/
private theorem index_eq_startedIn {r : Reconciler σ} {cs : List Correction} {t : List Moment}
    {stopped : Bool} {journal : List Tried} (h : r.Through cs [] [] t stopped journal)
    (hascending : (journal.map Tried.index).Pairwise (· < ·)) :
    journal.map Tried.index = startedIn t := by
  -- both ascend, and what was started is joined by now
  apply List.Pairwise.eq_of_mem_iff (r := (· < ·)) hascending
  · rw [h.settled.legal.startedIn_eq_range]
    exact List.pairwise_lt_range
  · intro i
    rw [← h.settled.mem_joined_iff]
    constructor
    · intro hi
      obtain ⟨u, hu, rfl⟩ := List.mem_map.1 hi
      have hjoined := (h.joined u.ending).2 (.inr (List.mem_map_of_mem hu))
      exact List.mem_map_of_mem (f := (·.1)) hjoined
    · intro hi
      obtain ⟨e, he, rfl⟩ := List.mem_map.1 hi
      rcases (h.joined e).1 he with hnone | hjournal
      · cases hnone
      · obtain ⟨u, hu, rfl⟩ := List.mem_map.1 hjournal
        exact List.mem_map_of_mem hu

/-- The journal holds the outcomes that were joined. -/
theorem ending_perm_joinedIn {r : Reconciler σ} {cs : List Correction} {t : List Moment}
    {stopped : Bool} {journal : List Tried} (h : r.Through cs [] [] t stopped journal)
    (hascending : (journal.map Tried.index).Pairwise (· < ·)) :
    (journal.map Tried.ending).Perm (joinedIn t) := by
  have hjournal : (journal.map Tried.ending).Nodup := by
    refine List.Nodup.of_map (·.1) ?_
    rw [List.map_map]
    exact hascending.imp Nat.ne_of_lt
  have hjoined := List.Nodup.of_map _ h.settled.legal.nodup_joined
  refine (List.perm_ext_iff_of_nodup hjournal hjoined).2 (fun e => ?_)
  rw [h.joined]
  simp [joinedIn]

private theorem length_failures (journal : List Tried) :
    (journal.filterMap Tried.failure?).length =
      ((journal.map Tried.ending).filter (fun e => e.2.isFailure)).length := by
  have hfailed : ∀ u : Tried, u.failure?.isSome = u.outcome.isFailure := by
    rintro ⟨i, c, attempts, result⟩
    cases result <;> rfl
  rw [List.length_filterMap_eq_countP, ← List.countP_eq_length_filter, List.countP_map]
  exact List.countP_congr (fun u _ => by rw [hfailed]; rfl)

theorem maxParallel_pos {config : EngineConfig} (h : config.validate = .ok ()) :
    0 < config.maxParallel.toNat := by
  by_contra hnone
  have hzero : config.maxParallel = 0 := UInt64.toNat_inj.1 (Nat.eq_zero_of_not_pos hnone)
  simp [EngineConfig.validate, hzero] at h

/-- Whatever the order in which its calls are made, its tasks end and its outcomes are
joined, an application starts and reports its corrections as it should. -/
theorem apply_scheduled (r : Reconciler σ) (hconfig : r.config.validate = .ok ())
    (zone : String) (cs : List Correction) (s : Session σ) :
    Scheduled r.config cs (r.trace zone cs s) (r.apply zone cs s).1 := by
  obtain ⟨stopped, journal, told, hran, -, hthrough⟩ :=
    r.trace_through (maxParallel_pos hconfig) zone cs s
  have hlegal := hthrough.settled.legal
  have hascending := hran.ascending_index
  have hindex := index_eq_startedIn hthrough hascending
  have hending := ending_perm_joinedIn hthrough hascending
  refine ⟨?_, ?_, ?_, ?_, ?_, ?_, journal, hindex, hran.sublist, hending, hran.applied,
    hran.failures⟩
  · rintro before ⟨after, hsplit⟩
    rw [← hsplit] at hlegal
    exact hlegal.of_append.underWay_le
  · rintro before ⟨after, hsplit⟩
    rw [← hsplit] at hlegal
    have hbefore := hlegal.of_append
    rw [hbefore.startedIn_eq_range, ← Nat.min_eq_left hbefore.startedIn_le, ← List.take_range]
    exact List.take_prefix _ _
  · intro before j after hsplit
    obtain ⟨-, -, -, hearly, -⟩ := hlegal before _ after hsplit
    exact hearly
  · intro hpolicy before j after hsplit
    obtain ⟨-, -, -, -, hclean⟩ := hlegal before _ after hsplit
    exact hclean hpolicy
  · intro hpolicy
    have hfew := hlegal.failed_le hpolicy
    rw [failedIn, ← (hending.filter _).length_eq, ← length_failures, ← hran.failures] at hfew
    exact hfew
  · intro hpolicy
    have hstopped : stopped = false := by
      rw [hran.stops, List.any_eq_false]
      intro u _
      simp [stopsOn, hpolicy]
    have hall := congrArg (List.map (·.1)) (hran.complete hstopped)
    rw [List.map_map, map_fst_indexed, ← List.range_eq_range'] at hall
    exact hindex.symm.trans hall

private def deletionOf (name : String) : Correction :=
  ⟨s!"delete {name}", ⟨"example.com.", name, .a, .delete⟩⟩

private def threeRuns : List Correction :=
  [deletionOf "a.example.com.",
    ⟨"update b", ⟨"example.com.", "b.example.com.", .a, .update ⟨300, []⟩⟩⟩,
    deletionOf "c.example.com.", deletionOf "d.example.com.", deletionOf "e.example.com."]

/-- The task of the third correction dies, and the fourth fails. -/
private def dying : Injected Store :=
  (((Injected.start ((Store.empty.seed "example.com" "a.example.com" .a ⟨300, []⟩).seed
    "example.com" "b.example.com" .a ⟨300, []⟩)).plan "delete c.example.com. A" 1 .crash).plan
      "delete d.example.com. A" 5 (.error (.provider "memory" "down")))

/-- Starts what can be started, and lets the newest task make its attempt. -/
private def newestTaskFirst : Scheduler (Injected Store) := fun pool =>
  if pool.canStart then .start
  else match pool.active.getLast?, pool.finished with
    | some t, _ => .advance t.index
    | none, f :: _ => .join f.task.index
    | none, [] => .start

private def twoAtOnce : Reconciler (Injected Store) where
  provider := Injected.provider "memory" {} (Store.provider [])
  config := { maxParallel := 2, maxRetries := 1 }
  scheduler := newestTaskFirst

/-- Of two deletions that are under way one fails and the task of the other dies, and
the third is not started. -/
theorem apply_scheduled_dying_task :
    twoAtOnce.config.validate = .ok () ∧
      startedIn (twoAtOnce.trace "example.com." threeRuns (.start dying)) = [0, 1, 2, 3] ∧
      (joinedIn (twoAtOnce.trace "example.com." threeRuns (.start dying))).map (·.1) =
        [0, 1, 3, 2] ∧
      (twoAtOnce.apply "example.com." threeRuns (.start dying)).1.applied = 2 ∧
      (twoAtOnce.apply "example.com." threeRuns (.start dying)).1.failures =
        [⟨2, "delete c.example.com.",
            "Correction failed: delete c.example.com.: task aborted"⟩,
          ⟨3, "delete d.example.com.",
            "Correction failed: delete d.example.com.: Provider error (memory): down"⟩] ∧
      Scheduled twoAtOnce.config threeRuns
        (twoAtOnce.trace "example.com." threeRuns (.start dying))
        (twoAtOnce.apply "example.com." threeRuns (.start dying)).1 :=
  ⟨rfl, by decide +kernel, by decide +kernel, by decide +kernel, by decide +kernel,
    apply_scheduled twoAtOnce rfl "example.com." threeRuns (.start dying)⟩

end DnsReconcile
