import Mathlib.Data.List.Perm.Basic
import DnsReconcile.Engine
import DnsReconcile.Proofs.Journal
import DnsReconcile.Proofs.Moments
import DnsReconcile.Proofs.PoolRun

/-!
What a pool shows.

Each step of a pool shows one moment at most (`Pool.moment?`). A history of moments
tells where the corrections of the pool are (`Pool.Shows`). Every step keeps it legal
(`Pool.Shows.step`), and so does a whole run, under any scheduler (`Pool.shows_drain`).
Schedulers are general enough to ask for every sequence of moves that is possible
(`Pool.run_follow`).
-/

namespace DnsReconcile

open Reconciler (indexed)

variable {σ : Type}

/-- A part of the list stands where the part before it ends. -/
theorem place_of_drop {cs : List Correction} {pass rest : List (Nat × Correction)} {n k : Nat}
    {e : Nat × Correction} (h : (indexed 0 cs).drop n = pass ++ rest) (he : pass[k]? = some e) :
    e.1 = n + k ∧ cs[n + k]? = some e.2 := by
  have hk : k < pass.length := (List.getElem?_eq_some_iff.1 he).1
  have hplace : (indexed 0 cs)[n + k]? = some e := by
    rw [← List.getElem?_drop, h, List.getElem?_append_left hk, he]
  rw [Reconciler.getElem?_indexed, Nat.zero_add] at hplace
  obtain ⟨c, hc, rfl⟩ := Option.map_eq_some_iff.1 hplace
  exact ⟨rfl, hc⟩

theorem head_of_drop {cs : List Correction} {rest : List (Nat × Correction)} {n i : Nat}
    {c : Correction} (h : (indexed 0 cs).drop n = (i, c) :: rest) : i = n ∧ n < cs.length := by
  have hfirst : ((i, c) :: rest)[0]? = some (i, c) := rfl
  obtain ⟨hplace, hcs⟩ := place_of_drop (h.trans (List.append_nil _).symm) hfirst
  exact ⟨hplace, (List.getElem?_eq_some_iff.1 hcs).1⟩

/-- What a pass begins with: what was started is joined, the corrections of `rest` are
the ones that are left, and no failure stops the application. -/
structure Ready (config : EngineConfig) (cs : List Correction) (rest : List (Nat × Correction))
    (t : List Moment) : Prop where
  settled : Settled config cs t
  next : (indexed 0 cs).drop (startedIn t).length = rest
  clean : config.failurePolicy = .failFast → failedIn t = []

/-- Before a pass, everything outside the run of one of its corrections has finished. -/
theorem Ready.outside {config : EngineConfig} {cs : List Correction}
    {pass rest : List (Nat × Correction)} {t : List Moment}
    (h : Ready config cs (pass ++ rest) t) (hsame : ∀ e ∈ pass, ∀ f ∈ pass, e.2.pass = f.2.pass)
    {e : Nat × Correction} (he : e ∈ pass) {i : Nat} (hother : ¬ SameRun cs i e.1) :
    ∃ o, .finished i o ∈ t := by
  apply h.settled.finished
  by_contra hlate
  -- from a place that was not reached up to `e` there are corrections of this pass only
  refine hother (fun k hik hke => ?_)
  obtain ⟨j, hj⟩ := List.mem_iff_getElem?.1 he
  obtain ⟨hplace, hcs⟩ := place_of_drop h.next hj
  obtain ⟨l, rfl⟩ : ∃ l, k = (startedIn t).length + l := ⟨k - (startedIn t).length, by omega⟩
  have hl : l < pass.length := by
    have hless := (List.getElem?_eq_some_iff.1 hj).1
    omega
  obtain ⟨-, hk⟩ := place_of_drop h.next (List.getElem?_eq_getElem hl)
  rw [hplace, hcs, hk, Option.map_some, Option.map_some, hsame _ (List.getElem_mem hl) e he]

namespace Pool

/-- What a step from a pool to the next one shows. An attempt that is to be repeated
shows nothing. -/
def moment? (pool next : Pool σ) : Option Moment :=
  match next.history with
  | .start :: _ => pool.waiting.head?.map (fun e => .started e.1)
  | .advance _ :: _ =>
    if pool.finished.length < next.finished.length then
      next.finished.getLast?.map (fun f => .finished f.task.index f.outcome)
    else none
  | .join i :: _ => (next.outcomes.get? i).map (.joined i)
  | [] => none

/-- What a run of at most `fuel` moves shows. -/
def trace (p : Provider σ) (scheduler : Scheduler σ) : Nat → Pool σ → List Moment
  | 0, _ => []
  | fuel + 1, pool =>
    if pool.isDone then []
    else match pool.next? p scheduler with
      | some next => (pool.moment? next).toList ++ trace p scheduler fuel next
      | none => []

def drainTrace (p : Provider σ) (scheduler : Scheduler σ) (pool : Pool σ) : List Moment :=
  pool.trace p scheduler (pool.waiting.length * movesPerCorrection pool.config)

variable {p : Provider σ} {pool next : Pool σ} {pass : List (Nat × Correction)}

/-- What every step keeps, together with the moments that it shows, holds at the end of
a run. -/
theorem trace_induction (hpass : (pass.map (·.1)).Nodup) {P : List Moment → Pool σ → Prop}
    (hstep : ∀ (t : List Moment) (pool next : Pool σ) (m : Move), pool.WorksOn pass →
      P t pool → Step p pool m next → P (t ++ (pool.moment? next).toList) next)
    (scheduler : Scheduler σ) (fuel : Nat) {t : List Moment} (hpool : pool.WorksOn pass)
    (hP : P t pool) :
    P (t ++ pool.trace p scheduler fuel) (pool.run p scheduler fuel) := by
  induction fuel generalizing pool t with
  | zero =>
    rw [trace, run, List.append_nil]
    exact hP
  | succ fuel ih =>
    rw [trace, run]
    cases hdone : pool.isDone with
    | true =>
      simp only [if_true, List.append_nil]
      exact hP
    | false =>
      obtain ⟨next, hnext⟩ := exists_next p scheduler hdone
      obtain ⟨m, hm⟩ := hpool.step_of_next? hpass hnext
      simp only [hnext, Bool.false_eq_true, if_false]
      rw [← List.append_assoc]
      exact ih (hpool.step hpass hm) (hstep t pool next m hpool hP hm)

/-- The history `t`, which goes on from `before`, tells where the corrections of a pool
are: those that wait are the next ones of the list, those that are active or finished
are under way, and the outcomes are those that were joined since. -/
structure Shows (cs : List Correction) (rest : List (Nat × Correction))
    (before t : List Moment) (pool : Pool σ) : Prop where
  legal : Legal pool.config cs t
  goesOn : before <+: t
  waiting : (indexed 0 cs).drop (startedIn t).length = pool.waiting ++ rest
  placed : (underWay t).Perm
    (pool.active.map (·.index) ++ pool.finished.map (·.task.index))
  unfinished : ∀ u ∈ pool.active, ∀ o, .finished u.index o ∉ t
  finished : ∀ f ∈ pool.finished, .finished f.task.index f.outcome ∈ t
  joined : ∀ e, e ∈ joinedIn t ↔ e ∈ joinedIn before ∨ pool.outcomes.get? e.1 = some e.2

section Shows

variable {cs : List Correction} {rest : List (Nat × Correction)} {before t : List Moment}

/-- Before a correction can be started, no failure has been joined that stops the
application. -/
private theorem Shows.clean (h : pool.Shows cs rest before t) (hworks : pool.WorksOn pass)
    (hready : Ready pool.config cs (pass ++ rest) before)
    (hcan : pool.canStart = true) (hpolicy : pool.config.failurePolicy = .failFast) :
    failedIn t = [] := by
  have hunseen : pool.failureSeen = false := by
    simp only [canStart, isStopped, hpolicy, Bool.and_eq_true] at hcan
    simpa using hcan.2
  apply List.filter_eq_nil_iff.2
  intro e he hfail
  rcases (h.joined e).1 he with hbefore | hjoined
  · exact List.filter_eq_nil_iff.1 (hready.clean hpolicy) e hbefore hfail
  · have hseen := hworks.seen.2 ⟨e.2, SortedMap.mem_values_iff.2 ⟨e.1, hjoined⟩, hfail⟩
    rw [hunseen] at hseen
    cases hseen

/-- The place of the next correction to be started. -/
private theorem Shows.next_place (h : pool.Shows cs rest before t) {i : Nat} {c : Correction}
    {others : List (Nat × Correction)} (hwaiting : pool.waiting = (i, c) :: others) :
    i = (startedIn t).length ∧ (startedIn t).length < cs.length := by
  have hnext := h.waiting
  rw [hwaiting] at hnext
  exact head_of_drop hnext

private theorem Shows.allowed_started (h : pool.Shows cs rest before t)
    (hworks : pool.WorksOn pass)
    (hready : Ready pool.config cs (pass ++ rest) before)
    (hsame : ∀ e ∈ pass, ∀ f ∈ pass, e.2.pass = f.2.pass)
    {i : Nat} {c : Correction} {others : List (Nat × Correction)}
    (hwaiting : pool.waiting = (i, c) :: others) (hcan : pool.canStart = true) :
    Allowed pool.config cs t (.started i) := by
  obtain ⟨hplace, hless⟩ := h.next_place hwaiting
  have hmem : (i, c) ∈ pass := hworks.waiting.subset (by simp [hwaiting])
  refine ⟨hplace, hplace ▸ hless, ?_, fun j _ hother => ?_, h.clean hworks hready hcan⟩
  · have hroom : pool.unjoined < pool.config.maxParallel.toNat := by
      simp only [canStart, Bool.and_eq_true, decide_eq_true_iff] at hcan
      exact hcan.1.2
    rw [h.placed.length_eq, List.length_append, List.length_map, List.length_map]
    exact hroom
  · obtain ⟨o, ho⟩ := hready.outside hsame hmem hother
    exact ⟨o, h.goesOn.subset ho⟩

private theorem Shows.allowed_finished (h : pool.Shows cs rest before t) {u : Task}
    (hu : u ∈ pool.active) (o : Outcome) : Allowed pool.config cs t (.finished u.index o) := by
  have hunder : u.index ∈ underWay t :=
    h.placed.mem_iff.2 (List.mem_append.2 (.inl (List.mem_map_of_mem hu)))
  exact ⟨(mem_underWay.1 hunder).1, h.unfinished u hu⟩

private theorem Shows.allowed_joined (h : pool.Shows cs rest before t) {f : FinishedTask}
    (hf : f ∈ pool.finished) : Allowed pool.config cs t (.joined f.task.index f.outcome) :=
  ⟨h.finished f hf,
    h.placed.mem_iff.2 (List.mem_append.2 (.inr (List.mem_map_of_mem hf)))⟩

private theorem Shows.start (h : pool.Shows cs rest before t) (hworks : pool.WorksOn pass)
    (hready : Ready pool.config cs (pass ++ rest) before)
    (hsame : ∀ e ∈ pass, ∀ f ∈ pass, e.2.pass = f.2.pass)
    {i : Nat} {c : Correction} {others : List (Nat × Correction)}
    (hwaiting : pool.waiting = (i, c) :: others) (hcan : pool.canStart = true) :
    Shows cs rest before (t ++ [.started i]) { pool with
      waiting := others
      active := pool.active ++ [⟨i, c, 0, pool.clock⟩]
      history := .start :: pool.history } := by
  have hplace := (h.next_place hwaiting).1
  have hunjoined : i ∉ (joinedIn t).map (·.1) := hplace ▸ h.legal.not_joined_of_length
  have hunfinished : ∀ o, .finished i o ∉ t := hplace ▸ h.legal.not_finished_of_length
  refine ⟨Legal.concat_iff.2 ⟨h.legal, h.allowed_started hworks hready hsame hwaiting hcan⟩,
    h.goesOn.trans (List.prefix_append _ _), ?_, ?_, ?_, ?_, ?_⟩
  · have hdrop := congrArg List.tail h.waiting
    rw [List.tail_drop, hwaiting] at hdrop
    rw [startedIn_concat, List.length_append]
    exact hdrop
  · rw [underWay_started hunjoined, List.map_append, List.append_assoc]
    refine (h.placed.append_right [i]).trans ?_
    rw [List.append_assoc]
    exact List.perm_append_comm.append_left _
  · refine List.forall_mem_append.2 ⟨fun u hu o ho => ?_, List.forall_mem_singleton.2 ?_⟩
    · exact h.unfinished u hu o (by simpa using ho)
    · exact fun o ho => hunfinished o (by simpa using ho)
  · exact fun f hf => List.mem_append.2 (.inl (h.finished f hf))
  · rw [joinedIn_concat]
    simpa [Moment.joined?] using h.joined

private theorem Shows.retry (h : pool.Shows cs rest before t) {early late : List Task} {u v : Task}
    (hactive : pool.active = early ++ u :: late) (hindex : v.index = u.index) (s : σ)
    (clock : Nat) (history : List Move) :
    Shows cs rest before t { pool with
      active := early ++ v :: late, provider := s, clock, history } := by
  have hplaced := h.placed
  have hunfinished := h.unfinished
  rw [hactive] at hplaced hunfinished
  refine ⟨h.legal, h.goesOn, h.waiting, ?_, ?_, h.finished, h.joined⟩
  · simpa [hindex] using hplaced
  · obtain ⟨hearly, hrest⟩ := List.forall_mem_append.1 hunfinished
    obtain ⟨hu, hlate⟩ := List.forall_mem_cons.1 hrest
    exact List.forall_mem_append.2 ⟨hearly, List.forall_mem_cons.2 ⟨hindex ▸ hu, hlate⟩⟩

private theorem Shows.finish (h : pool.Shows cs rest before t) (hworks : pool.WorksOn pass)
    (hpass : (pass.map (·.1)).Nodup) {early late : List Task} {u : Task}
    (hactive : pool.active = early ++ u :: late) (o : Outcome) (s : σ) (clock : Nat)
    (history : List Move) :
    Shows cs rest before (t ++ [.finished u.index o]) { pool with
      active := early ++ late, provider := s, clock, history
      finished := pool.finished ++ [⟨u, o⟩] } := by
  obtain ⟨-, hothers, -, -⟩ := hworks.elsewhere hpass hactive
  have hu : u ∈ pool.active := by simp [hactive]
  refine ⟨Legal.concat_iff.2 ⟨h.legal, h.allowed_finished hu o⟩,
    h.goesOn.trans (List.prefix_append _ _), ?_, ?_, ?_, ?_, ?_⟩
  · rw [startedIn_concat]
    simpa [Moment.started?] using h.waiting
  · rw [underWay_finished]
    refine h.placed.trans (List.perm_iff_count.2 fun j => ?_)
    simp only [hactive, List.map_append, List.map_cons, List.map_nil, List.count_append,
      List.count_cons, List.count_nil]
    omega
  · intro v hv o' ho'
    rcases List.mem_append.1 ho' with hold | hnew
    · exact h.unfinished v (by rw [hactive]; exact mem_append_cons_of_mem hv) o' hold
    · obtain ⟨hindex, -⟩ := Moment.finished.inj (List.mem_singleton.1 hnew)
      exact hothers v hv hindex
  · refine List.forall_mem_append.2 ⟨fun f hf => ?_, List.forall_mem_singleton.2 ?_⟩
    · exact List.mem_append.2 (.inl (h.finished f hf))
    · exact List.mem_append.2 (.inr (List.mem_singleton.2 rfl))
  · rw [joinedIn_concat]
    simpa [Moment.joined?] using h.joined

private theorem Shows.join (h : pool.Shows cs rest before t) {early late : List FinishedTask}
    {f : FinishedTask} (hfinished : pool.finished = early ++ f :: late) (failureSeen : Bool)
    (history : List Move) :
    Shows cs rest before (t ++ [.joined f.task.index f.outcome]) { pool with
      failureSeen, history
      finished := early ++ late
      outcomes := pool.outcomes.insert f.task.index f.outcome } := by
  have hf : f ∈ pool.finished := by simp [hfinished]
  have hallowed := h.allowed_joined hf
  have hunjoined : f.task.index ∉ (joinedIn t).map (·.1) := (mem_underWay.1 hallowed.2).2
  have hothers : (underWay t).Perm (f.task.index ::
      (pool.active.map (·.index) ++ (early ++ late).map (·.task.index))) := by
    refine h.placed.trans (List.perm_iff_count.2 fun j => ?_)
    simp only [hfinished, List.map_append, List.map_cons, List.count_append, List.count_cons]
    omega
  refine ⟨Legal.concat_iff.2 ⟨h.legal, hallowed⟩,
    h.goesOn.trans (List.prefix_append _ _), ?_, ?_, ?_, ?_, ?_⟩
  · rw [startedIn_concat]
    simpa [Moment.started?] using h.waiting
  · have hfresh := (List.nodup_cons.1 (hothers.nodup_iff.1 h.legal.nodup_underWay)).1
    have hself : (pool.active.map (·.index) ++ (early ++ late).map (·.task.index)).filter
        (fun j => j ≠ f.task.index) =
          pool.active.map (·.index) ++ (early ++ late).map (·.task.index) :=
      List.filter_eq_self.2 (fun j hj => decide_eq_true (fun heq => hfresh (heq ▸ hj)))
    have hfilter := hothers.filter (fun j => j ≠ f.task.index)
    rw [List.filter_cons_of_neg (by simp), hself] at hfilter
    rw [underWay_joined]
    exact hfilter
  · exact fun v hv o' ho' => h.unfinished v hv o' (by simpa using ho')
  · intro g hg
    have hold : g ∈ pool.finished := by
      rw [hfinished]
      exact mem_append_cons_of_mem hg
    exact List.mem_append.2 (.inl (h.finished g hold))
  · rintro ⟨i, o⟩
    have hnew : (i, o) ∈ joinedIn (t ++ [.joined f.task.index f.outcome]) ↔
        (i, o) ∈ joinedIn t ∨ i = f.task.index ∧ o = f.outcome := by
      rw [joinedIn_concat, List.mem_append]
      simp [Moment.joined?]
    rw [hnew, SortedMap.get?_insert]
    by_cases hi : i = f.task.index
    · subst hi
      have hold : (f.task.index, o) ∉ joinedIn t :=
        fun hmem => hunjoined (List.mem_map_of_mem (f := (·.1)) hmem)
      have hbefore : (f.task.index, o) ∉ joinedIn before :=
        fun hmem => hold ((h.joined _).2 (.inl hmem))
      simp [hold, hbefore, eq_comm]
    · simp [hi, h.joined]

/-- What a step shows is allowed, and tells where the corrections are behind it. -/
theorem Shows.step (h : pool.Shows cs rest before t) (hworks : pool.WorksOn pass)
    (hpass : (pass.map (·.1)).Nodup)
    (hready : Ready pool.config cs (pass ++ rest) before)
    (hsame : ∀ e ∈ pass, ∀ f ∈ pass, e.2.pass = f.2.pass)
    {m : Move} (hstep : Step p pool m next) :
    next.Shows cs rest before (t ++ (pool.moment? next).toList) := by
  cases hstep with
  | @start i c others hwaiting hcan =>
    simpa [moment?, hwaiting] using h.start hworks hready hsame hwaiting hcan
  | @retry early late u e s hactive halive happly hleft =>
    -- the attempt ends nothing, so it shows nothing
    have hv : pool.moment? { pool with
        active := early ++ { u with
          attempts := u.attempts + 1
          readyAt := max pool.clock u.readyAt + pool.config.wait } :: late
        provider := s
        clock := max pool.clock u.readyAt
        history := .advance u.index :: pool.history } = none := by
      simp [moment?]
    rw [hv, Option.toList_none, List.append_nil]
    exact h.retry hactive (by rfl) s _ _
  | @finish early late u o s hactive hends =>
    simpa [moment?] using h.finish hworks hpass hactive o s _ _
  | @join early late f hfinished hcan =>
    simpa [moment?] using h.join hfinished _ _

/-- A pool that begins shows nothing yet. -/
private theorem shows_new {config : EngineConfig} (h : Ready config cs (pass ++ rest) before)
    (s : σ) (clock : Nat) : (new config pass s clock).Shows cs rest before before where
  legal := h.settled.legal
  goesOn := List.prefix_rfl
  waiting := h.next
  placed := by
    rw [h.settled.nothing]
    exact .nil
  unfinished := by simp [new]
  finished := by simp [new]
  joined := by simp [new]

/-- What a whole pass shows. -/
theorem shows_drain {config : EngineConfig} (h : Ready config cs (pass ++ rest) before)
    (hpass : (pass.map (·.1)).Nodup) (hsame : ∀ e ∈ pass, ∀ f ∈ pass, e.2.pass = f.2.pass)
    (scheduler : Scheduler σ) (s : σ) (clock : Nat) :
    ((new config pass s clock).drain p scheduler).Shows cs rest before
      (before ++ (new config pass s clock).drainTrace p scheduler) := by
  unfold drain drainTrace
  refine (trace_induction hpass
    (P := fun t pool => pool.config = config ∧ pool.Shows cs rest before t) ?_ scheduler _
    (worksOn_new config pass s clock) ⟨rfl, shows_new h s clock⟩).2
  rintro t pool next m hworks ⟨rfl, hshows⟩ hstep
  exact ⟨hstep.config_eq, hshows.step hworks hpass h hsame hstep⟩

end Shows

/-- A possible move means that there is something left to do. -/
private theorem not_isDone_of_step? {m : Move} (h : pool.step? p m = some next) :
    pool.isDone = false := by
  obtain ⟨moved, hmove, -⟩ := Option.map_eq_some_iff.1 h
  cases m with
  | start =>
    cases hcan : pool.canStart with
    | false => simp [move?, hcan] at hmove
    | true => simp [isDone, hcan]
  | advance i =>
    obtain ⟨t, ht, -⟩ := Option.map_eq_some_iff.1 hmove
    have hactive := List.ne_nil_of_mem (List.mem_of_find?_eq_some ht)
    simp [isDone, hactive]
  | join i =>
    cases hcan : pool.canStart with
    | true => simp [isDone, hcan]
    | false =>
      rw [move?, hcan] at hmove
      obtain ⟨f, hf, -⟩ := Option.map_eq_some_iff.1 hmove
      have hfinished := List.ne_nil_of_mem (List.mem_of_find?_eq_some hf)
      simp [isDone, hfinished]

private theorem history_of_step? {m : Move} (h : pool.step? p m = some next) :
    next.history.length = pool.history.length + 1 := by
  obtain ⟨moved, hmove, rfl⟩ := Option.map_eq_some_iff.1 h
  rfl

end Pool

def Scheduler.follow (moves : List Move) : Scheduler σ := fun pool =>
  (moves[pool.history.length]?).getD .start

namespace Pool

/-- Every sequence of moves that is possible is the run of some scheduler, whatever was
done `earlier`. A statement about all schedulers is therefore one about all
interleavings. -/
theorem run_follow (p : Provider σ) {moves : List Move} {pool last : Pool σ}
    (h : moves.foldlM (step? p) pool = some last) {earlier : List Move}
    (hpool : pool.history.length = earlier.length) :
    pool.run p (.follow (earlier ++ moves)) moves.length = last := by
  induction moves generalizing pool earlier with
  | nil => exact Option.some.inj h
  | cons m rest ih =>
    obtain ⟨next, hnext, hrest⟩ := Option.bind_eq_some_iff.1 h
    have hpicked : Scheduler.follow (earlier ++ m :: rest) pool = m := by
      simp [Scheduler.follow, hpool]
    have hmade : pool.next? p (.follow (earlier ++ m :: rest)) = some next := by
      simp only [next?, hpicked, hnext]
    have hlength : next.history.length = (earlier ++ [m]).length := by
      rw [history_of_step? hnext, hpool, List.length_append, List.length_singleton]
    rw [List.length_cons, run, not_isDone_of_step? hnext, hmade]
    simpa using ih hrest hlength

end Pool

end DnsReconcile
