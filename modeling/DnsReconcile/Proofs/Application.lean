import Mathlib.Data.List.SplitBy
import DnsReconcile.Proofs.Keeping

/-!
What the application of a list keeps.

What every single attempt keeps is kept by all passes together
(`applyPasses_keeps`) and by the application of a list, of which the report and
the events tell the whole journal (`apply_keeps`). Where no attempt can fail once
the passes before it are applied, the whole list is applied (`apply_succeeds`).
-/

namespace DnsReconcile

variable {σ : Type}

namespace Reconciler

variable {Inv : Set Nat → σ → Prop} {Q : Except Error Unit → Prop}

/-- The application with the mark of an early end, if something was left out. -/
def cut (a : Application σ) : Application σ :=
  { a with report := { a.report with
    aborted := a.report.applied + a.report.failures.length < a.report.planned } }

/-- What every single attempt keeps is kept by all passes together. -/
theorem applyPasses_keeps (r : Reconciler σ) {passes : List (List (Nat × Correction))}
    (hpasses : (passes.flatten.map (·.1)).Nodup)
    (hkeeps : ∀ e ∈ passes.flatten, Keeps r.provider Inv Q e.1 e.2)
    {A : Set Nat} (hA : ∀ e ∈ passes.flatten, e.1 ∉ A) {a : Application σ}
    (ha : Inv A a.session.provider) :
    ∃ b stopped journal, r.Tries passes.flatten a b stopped journal ∧
      r.applyPasses passes a = (if stopped then cut b else b) ∧
      (∀ t ∈ journal, Q t.outcome.result) ∧
      Inv (A ∪ appliedIn journal) b.session.provider := by
  induction passes generalizing a A with
  | nil =>
    refine ⟨a, false, [], .nil r a, rfl, by simp, ?_⟩
    rw [appliedIn_nil, Set.union_empty]
    exact ha
  | cons pass rest ih =>
    rw [List.flatten_cons] at hpasses hkeeps hA ⊢
    obtain ⟨hfirst, hrest⟩ := List.forall_mem_append.1 hkeeps
    have hnodup := hpasses
    rw [List.map_append, List.nodup_append] at hnodup
    obtain ⟨journal, htries, hQ, hInv⟩ := r.applyPass_keeps hnodup.1 hfirst
      (fun e he => hA e (List.mem_append.2 (.inl he))) ha
    have hfresh := fresh_after pass hpasses hA htries.sublist
    rw [applyPasses]
    cases hrun : r.applyPass pass a with
    | mk stopped b =>
      rw [hrun] at htries hInv
      cases stopped with
      | true => exact ⟨b, true, journal, htries.stop _, rfl, hQ, hInv⟩
      | false =>
        obtain ⟨c, stopped, later, htries', hpassed, hQ', hInv'⟩ :=
          ih hnodup.2.1 hrest hfresh hInv
        refine ⟨c, stopped, journal ++ later, htries.append htries', hpassed, ?_, ?_⟩
        · exact List.forall_mem_append.2 ⟨hQ, hQ'⟩
        · rw [appliedIn_append, ← Set.union_assoc]
          exact hInv'

theorem applySequentially_append (r : Reconciler σ) (xs ys : List (Nat × Correction))
    (a : Application σ) :
    r.applySequentially (xs ++ ys) a =
      if (r.applySequentially xs a).1 then r.applySequentially xs a
      else r.applySequentially ys (r.applySequentially xs a).2 := by
  induction xs generalizing a with
  | nil => rfl
  | cons e rest ih =>
    obtain ⟨i, c⟩ := e
    rw [List.cons_append, applySequentially, applySequentially]
    simp only
    split
    · rfl
    · exact ih _

/-- With one correction under way at a time, passes are no different from one list. -/
theorem applyPasses_eq {r : Reconciler σ} (hone : ¬ 1 < r.config.maxParallel)
    (passes : List (List (Nat × Correction))) (a : Application σ) :
    r.applyPasses passes a =
      if (r.applySequentially passes.flatten a).1 then cut (r.applySequentially passes.flatten a).2
      else (r.applySequentially passes.flatten a).2 := by
  induction passes generalizing a with
  | nil => rfl
  | cons pass rest ih =>
    rw [applyPasses, applyPass, if_neg hone, List.flatten_cons, applySequentially_append]
    cases hrun : r.applySequentially pass a with
    | mk stopped b =>
      cases stopped with
      | true => rfl
      | false => exact ih b

theorem flatten_passes (cs : List Correction) : (passes cs).flatten = indexed 0 cs :=
  List.flatten_splitBy _ _

/-- The report and the events of an application, when its journal has an entry
for each correction that was tried. -/
structure Ran (r : Reconciler σ) (zone : String) (cs : List Correction) (stopped : Bool)
    (journal : List Tried) (report : Report) (told : List Event) : Prop where
  sublist : (journal.map Tried.entry).Sublist (indexed 0 cs)
  stops : stopped = journal.any (fun t => r.stopsOn t.outcome)
  complete : stopped = false → journal.map Tried.entry = indexed 0 cs
  told : told = journal.map (Tried.event zone) ++
    [.finished zone report.applied report.failures.length report.aborted]
  place : report.zone = zone
  planned : report.planned = cs.length
  applied : report.applied = (journal.filter Tried.isApplied).length
  failures : report.failures = journal.filterMap Tried.failure?
  aborted : report.aborted =
    (stopped && decide (report.applied + report.failures.length < cs.length))

/-- The places in the journal of an application ascend. -/
theorem Ran.ascending_index {r : Reconciler σ} {zone : String} {cs : List Correction}
    {stopped : Bool} {journal : List Tried} {report : Report} {told : List Event}
    (h : r.Ran zone cs stopped journal report told) :
    (journal.map Tried.index).Pairwise (· < ·) := by
  have hsublist := h.sublist.map (·.1)
  rw [List.map_map, map_fst_indexed] at hsublist
  exact List.Pairwise.sublist hsublist List.pairwise_lt_range'

/-- What the passes of a list leave is told by the report and the events. -/
theorem Tries.ran {r : Reconciler σ} {zone : String} {cs : List Correction} {s : Session σ}
    {b : Application σ} {stopped : Bool} {journal : List Tried}
    (h : r.Tries (indexed 0 cs) ⟨s, { zone, planned := cs.length }⟩ b stopped journal)
    (hpassed : r.applyPasses (passes cs) ⟨s, { zone, planned := cs.length }⟩ =
      if stopped then cut b else b) :
    ∃ told, r.Ran zone cs stopped journal (r.apply zone cs s).1 told ∧
      (r.apply zone cs s).2.events = s.events ++ told ∧
      (r.apply zone cs s).2.provider = b.session.provider := by
  have happly : r.apply zone cs s = ((if stopped then cut b else b).report,
      (if stopped then cut b else b).session.emit (.finished zone
        (if stopped then cut b else b).report.applied
        (if stopped then cut b else b).report.failures.length
        (if stopped then cut b else b).report.aborted)) := by
    rw [← hpassed]
    rfl
  have hrecorded := h.recorded
  refine ⟨_, ⟨h.sublist, h.stops, h.complete, rfl, ?_, ?_, ?_, ?_, ?_⟩, ?_, ?_⟩
  all_goals rw [happly]
  · cases stopped <;> exact hrecorded.zone
  · cases stopped <;> exact hrecorded.planned
  · cases stopped <;> simp [cut, hrecorded.applied]
  · cases stopped <;> simp [cut, hrecorded.failures]
  · cases stopped <;> simp [cut, hrecorded.aborted, hrecorded.planned]
  · cases stopped <;> simp [cut, Session.events_emit, hrecorded.events]
  · cases stopped <;> rfl

/-- What every single attempt keeps is kept by the application of a list. -/
theorem apply_keeps (r : Reconciler σ) {cs : List Correction}
    (hkeeps : ∀ e ∈ indexed 0 cs, Keeps r.provider Inv Q e.1 e.2) (zone : String)
    {s : Session σ} (hs : Inv ∅ s.provider) :
    ∃ stopped journal told, r.Ran zone cs stopped journal (r.apply zone cs s).1 told ∧
      (r.apply zone cs s).2.events = s.events ++ told ∧
      (∀ t ∈ journal, Q t.outcome.result) ∧
      Inv (appliedIn journal) (r.apply zone cs s).2.provider := by
  have hflatten := flatten_passes cs
  have hnodup : ((passes cs).flatten.map (·.1)).Nodup := by
    rw [hflatten]
    exact nodup_indexed cs
  obtain ⟨b, stopped, journal, htries, hpassed, hQ, hInv⟩ := r.applyPasses_keeps
    (a := ⟨s, { zone, planned := cs.length }⟩) (A := ∅) hnodup (by rw [hflatten]; exact hkeeps)
    (fun _ _ => Set.notMem_empty _) hs
  rw [hflatten] at htries
  rw [Set.empty_union] at hInv
  obtain ⟨told, hran, hevents, hprovider⟩ := htries.ran hpassed
  exact ⟨stopped, journal, told, hran, hevents, hQ, hprovider ▸ hInv⟩

/-- Every application leaves a journal that its report and its events tell. -/
theorem exists_ran (r : Reconciler σ) (zone : String) (cs : List Correction) (s : Session σ) :
    ∃ stopped journal told, r.Ran zone cs stopped journal (r.apply zone cs s).1 told ∧
      (r.apply zone cs s).2.events = s.events ++ told := by
  obtain ⟨stopped, journal, told, hran, hevents, -, -⟩ :=
    r.apply_keeps (fun e _ => .nothing r.provider e.1 e.2) zone (s := s) trivial
  exact ⟨stopped, journal, told, hran, hevents⟩

theorem appliedIn_eq_of_success {cs : List (Nat × Correction)} {journal : List Tried}
    (hjournal : journal.map Tried.entry = cs)
    (hok : ∀ t ∈ journal, t.outcome.result = .ok ()) :
    appliedIn journal = {i | ∃ e ∈ cs, e.1 = i} := by
  subst hjournal
  ext i
  simp only [appliedIn, Set.mem_ofPred_eq, List.mem_map, exists_exists_and_eq_and]
  constructor
  · rintro ⟨t, ht, rfl, -⟩
    exact ⟨t, ht, rfl⟩
  · rintro ⟨t, ht, rfl⟩
    exact ⟨t, ht, rfl, hok t ht⟩

private theorem any_stopsOn_eq_false (r : Reconciler σ) {journal : List Tried}
    (hok : ∀ t ∈ journal, t.outcome.result = .ok ()) :
    journal.any (fun t => r.stopsOn t.outcome) = false := by
  rw [List.any_eq_false]
  intro t ht
  simp [stopsOn, Outcome.isFailure, hok t ht]

/-- In a run without failures every correction is applied. -/
theorem Ran.applied_of_isSuccess {r : Reconciler σ} {zone : String} {cs : List Correction}
    {stopped : Bool} {journal : List Tried} {report : Report} {told : List Event}
    (h : r.Ran zone cs stopped journal report told) (hsuccess : report.isSuccess = true) :
    ∀ e ∈ indexed 0 cs, e.1 ∈ appliedIn journal := by
  have hfailures : journal.filterMap Tried.failure? = [] := by
    rw [← h.failures]
    simpa [Report.isSuccess] using (Bool.and_eq_true_iff.1 hsuccess).1
  have hok : ∀ t ∈ journal, t.outcome.result = .ok () :=
    fun t ht => Tried.failure?_eq_none_iff.1 (List.filterMap_eq_nil_iff.1 hfailures t ht)
  have hstopped : stopped = false := h.stops.trans (any_stopsOn_eq_false r hok)
  rw [appliedIn_eq_of_success (h.complete hstopped) hok]
  exact fun e he => ⟨e, he, rfl⟩

private theorem applyPasses_cons (r : Reconciler σ) {pass : List (Nat × Correction)}
    {rest : List (List (Nat × Correction))} {a : Application σ}
    (h : (r.applyPass pass a).1 = false) :
    r.applyPasses (pass :: rest) a = r.applyPasses rest (r.applyPass pass a).2 := by
  rw [applyPasses]
  cases hrun : r.applyPass pass a with
  | mk stopped b =>
    rw [hrun] at h
    obtain rfl : stopped = false := h
    rfl

/-- Passes whose attempts all succeed, once everything in the passes before them
is applied, are applied completely. -/
theorem applyPasses_succeeds (r : Reconciler σ) {passes : List (List (Nat × Correction))}
    (hpasses : (passes.flatten.map (·.1)).Nodup)
    (hkeeps : ∀ before pass after, passes = before ++ pass :: after → ∀ e ∈ pass,
      Keeps r.provider (fun A s => (∀ d ∈ before.flatten, d.1 ∈ A) ∧ Inv A s) (· = .ok ())
        e.1 e.2)
    {A : Set Nat} (hA : ∀ e ∈ passes.flatten, e.1 ∉ A) {a : Application σ}
    (ha : Inv A a.session.provider) :
    ∃ journal, r.Tries passes.flatten a (r.applyPasses passes a) false journal ∧
      (∀ t ∈ journal, t.outcome.result = .ok ()) ∧
      Inv (A ∪ appliedIn journal) (r.applyPasses passes a).session.provider := by
  induction passes generalizing Inv a A with
  | nil =>
    refine ⟨[], .nil r a, by simp, ?_⟩
    rw [appliedIn_nil, Set.union_empty]
    exact ha
  | cons pass rest ih =>
    rw [List.flatten_cons] at hpasses hA ⊢
    have hnodup := hpasses
    rw [List.map_append, List.nodup_append] at hnodup
    obtain ⟨journal, htries, hok, -, hInv⟩ := r.applyPass_keeps hnodup.1
      (hkeeps [] pass rest rfl) (fun e he => hA e (List.mem_append.2 (.inl he)))
      ⟨fun d hd => by simp at hd, ha⟩
    have hrun : (r.applyPass pass a).1 = false :=
      htries.stops.trans (any_stopsOn_eq_false r hok)
    have hpass := appliedIn_eq_of_success (htries.complete hrun) hok
    have hkeeps' : ∀ before pass' after, rest = before ++ pass' :: after → ∀ e ∈ pass',
        Keeps r.provider (fun A s => (∀ d ∈ before.flatten, d.1 ∈ A) ∧
          (∀ d ∈ pass, d.1 ∈ A) ∧ Inv A s) (· = .ok ()) e.1 e.2 := by
      intro before pass' after hsplit e he
      have hkept := hkeeps (pass :: before) pass' after (by rw [hsplit]; rfl) e he
      have hsame : (fun A s => (∀ d ∈ before.flatten, d.1 ∈ A) ∧ (∀ d ∈ pass, d.1 ∈ A) ∧ Inv A s) =
          (fun A s => (∀ d ∈ (pass :: before).flatten, d.1 ∈ A) ∧ Inv A s) := by
        funext A s
        rw [List.flatten_cons, List.forall_mem_append, ← and_assoc,
          and_comm (a := ∀ d ∈ before.flatten, d.1 ∈ A)]
      rw [hsame]
      exact hkept
    obtain ⟨later, htries', hok', -, hInv'⟩ := ih hnodup.2.1 hkeeps'
      (fresh_after pass hpasses hA htries.sublist)
      ⟨fun d hd => .inr (hpass ▸ ⟨d, hd, rfl⟩), hInv⟩
    rw [hrun] at htries
    rw [applyPasses_cons r hrun]
    refine ⟨journal ++ later, htries.append htries', List.forall_mem_append.2 ⟨hok, hok'⟩, ?_⟩
    rw [appliedIn_append, ← Set.union_assoc]
    exact hInv'

/-- A list whose attempts all succeed, once everything in the passes before them
is applied, is applied completely. -/
theorem apply_succeeds (r : Reconciler σ) {cs : List Correction}
    (hkeeps : ∀ before pass after, passes cs = before ++ pass :: after → ∀ e ∈ pass,
      Keeps r.provider (fun A s => (∀ d ∈ before.flatten, d.1 ∈ A) ∧ Inv A s) (· = .ok ())
        e.1 e.2)
    (zone : String) {s : Session σ} (hs : Inv ∅ s.provider) :
    (r.apply zone cs s).1.isSuccess = true ∧
      Inv {i | ∃ e ∈ indexed 0 cs, e.1 = i} (r.apply zone cs s).2.provider := by
  have hflatten := flatten_passes cs
  obtain ⟨journal, htries, hok, hInv⟩ := r.applyPasses_succeeds
    (a := ⟨s, { zone, planned := cs.length }⟩) (A := ∅)
    (by rw [hflatten]; exact nodup_indexed cs) hkeeps (fun _ _ => Set.notMem_empty _) hs
  rw [Set.empty_union, appliedIn_eq_of_success (htries.complete rfl) hok, hflatten] at hInv
  refine ⟨?_, hInv⟩
  have hfailures : journal.filterMap Tried.failure? = [] :=
    List.filterMap_eq_nil_iff.2 (fun t ht => Tried.failure?_eq_none_iff.2 (hok t ht))
  have hreport : (r.apply zone cs s).1 =
      (r.applyPasses (passes cs) ⟨s, { zone, planned := cs.length }⟩).report := rfl
  rw [hreport, Report.isSuccess, htries.recorded.failures, htries.recorded.aborted, hfailures]
  rfl

/-- The corrections of one run of the list belong to one pass. -/
theorem pass_eq_of_mem_passes {cs : List Correction} {pass : List (Nat × Correction)}
    (h : pass ∈ passes cs) {e f : Nat × Correction} (he : e ∈ pass) (hf : f ∈ pass) :
    e.2.pass = f.2.pass := by
  have hchain : pass.IsChain (fun a b => a.2.pass = b.2.pass) :=
    (List.isChain_of_mem_splitBy h).imp (fun a b hab => beq_iff_eq.1 hab)
  have htrans : IsTrans (Nat × Correction) (fun a b => a.2.pass = b.2.pass) :=
    ⟨fun _ _ _ => Eq.trans⟩
  have hsymm : Std.Symm (fun a b : Nat × Correction => a.2.pass = b.2.pass) :=
    ⟨fun _ _ => Eq.symm⟩
  exact List.Pairwise.forall_of_forall (R := fun a b : Nat × Correction => a.2.pass = b.2.pass)
    (fun _ _ => rfl) (List.isChain_iff_pairwise.1 hchain) he hf

end Reconciler

end DnsReconcile
