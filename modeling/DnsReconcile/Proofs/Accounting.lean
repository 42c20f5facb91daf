import DnsReconcile.Proofs.Application

/-!
What a report adds up to.

Every correction of a list is applied, failed or skipped, and each failure tells which
correction it was. Corrections are skipped only behind a failure that stopped the run, so
a report without failures is one of a list that was applied completely
(`apply_accounted`).
-/

namespace DnsReconcile

variable {σ : Type}

/-- A report that accounts for every correction of a list. -/
structure Accounted (policy : FailurePolicy) (cs : List Correction) (report : Report) :
    Prop where
  planned : report.planned = cs.length
  /-- No more corrections were tried than planned, so none is counted as skipped that
  was tried. -/
  fits : report.applied + report.failures.length ≤ report.planned
  inOrder : (report.failures.map CorrectionFailure.index).Pairwise (· < ·)
  named : ∀ f ∈ report.failures, ∃ h : f.index < cs.length, f.message = cs[f.index].message
  aborted : report.aborted = true ↔ 0 < report.skipped
  stopped : report.aborted = true → policy = .failFast ∧ report.failures ≠ []
  success : report.isSuccess = true ↔ report.applied = report.planned
  result : report.result = .ok () ↔ report.applied = report.planned

theorem Report.result_eq_ok_iff (report : Report) :
    report.result = .ok () ↔ report.failures = [] := by
  unfold result
  cases report.failures <;> simp

/-- An entry of the journal is an application or a failure. -/
theorem Tried.length_applied_add_length_failures (journal : List Tried) :
    (journal.filter isApplied).length + (journal.filterMap failure?).length =
      journal.length := by
  induction journal with
  | nil => rfl
  | cons t rest ih =>
    obtain ⟨i, c, attempts, result⟩ := t
    cases result with
    | ok u =>
      simp only [List.filter_cons, List.filterMap_cons, isApplied, failure?, Outcome.isFailure,
        Bool.not_false, if_true, List.length_cons]
      omega
    | error e =>
      simp only [List.filter_cons, List.filterMap_cons, isApplied, failure?, Outcome.isFailure,
        Bool.not_true, Bool.false_eq_true, if_false, List.length_cons]
      omega

namespace Reconciler

/-- The correction at a place of the list. -/
theorem getElem?_of_mem_indexed {cs : List Correction} {e : Nat × Correction}
    (h : e ∈ indexed 0 cs) : cs[e.1]? = some e.2 := by
  obtain ⟨k, hk⟩ := List.mem_iff_getElem?.1 h
  rw [getElem?_indexed, Nat.zero_add] at hk
  obtain ⟨c, hc, rfl⟩ := Option.map_eq_some_iff.1 hk
  exact hc

namespace Ran

variable {r : Reconciler σ} {zone : String} {cs : List Correction} {stopped : Bool}
  {journal : List Tried} {report : Report} {told : List Event}

theorem length_journal (h : r.Ran zone cs stopped journal report told) :
    report.applied + report.failures.length = journal.length := by
  rw [h.applied, h.failures, Tried.length_applied_add_length_failures]

theorem length_le (h : r.Ran zone cs stopped journal report told) :
    journal.length ≤ cs.length := by
  have hle := h.sublist.length_le
  rwa [List.length_map, length_indexed] at hle

theorem length_eq (h : r.Ran zone cs false journal report told) :
    journal.length = cs.length := by
  have hall := congrArg List.length (h.complete rfl)
  rwa [List.length_map, length_indexed] at hall

theorem skipped (h : r.Ran zone cs stopped journal report told) :
    report.skipped = cs.length - journal.length := by
  rw [Report.skipped, Nat.sub_sub, h.length_journal, h.planned]

/-- The failures of a journal are those of entries that ascend in the list. -/
theorem ascending_failures (h : r.Ran zone cs stopped journal report told) :
    (report.failures.map CorrectionFailure.index).Pairwise (· < ·) := by
  have hindex : ∀ t f, Tried.failure? t = some f → f.index = t.index := by
    rintro ⟨i, c, attempts, _ | e⟩ f hf
    all_goals cases hf
    rfl
  have hascending := List.pairwise_map.1 h.ascending_index
  rw [h.failures, List.pairwise_map, List.pairwise_filterMap]
  refine hascending.imp (fun {t u} hlt f hf g hg => ?_)
  rw [hindex t f hf, hindex u g hg]
  exact hlt

/-- A failure carries the message of the correction at its place. -/
theorem message_of_mem_failures (h : r.Ran zone cs stopped journal report told)
    {f : CorrectionFailure} (hf : f ∈ report.failures) :
    ∃ hless : f.index < cs.length, f.message = cs[f.index].message := by
  rw [h.failures, List.mem_filterMap] at hf
  obtain ⟨t, ht, hfailure⟩ := hf
  have hplace := getElem?_of_mem_indexed (h.sublist.subset (List.mem_map_of_mem ht))
  obtain ⟨hless, hc⟩ := List.getElem?_eq_some_iff.1 hplace
  unfold Tried.failure? at hfailure
  split at hfailure
  · cases hfailure
  · cases hfailure
    exact ⟨hless, congrArg Correction.message hc.symm⟩

/-- A run is stopped by a failure, under the policy that stops at failures. -/
theorem failFast_of_stopped (h : r.Ran zone cs true journal report told) :
    r.config.failurePolicy = .failFast ∧ report.failures ≠ [] := by
  obtain ⟨t, ht, hstops⟩ := List.any_eq_true.1 h.stops.symm
  simp only [stopsOn, Bool.and_eq_true, decide_eq_true_iff] at hstops
  refine ⟨hstops.1, fun hnone => ?_⟩
  rw [h.failures, List.filterMap_eq_nil_iff] at hnone
  have hok := Tried.failure?_eq_none_iff.1 (hnone t ht)
  rw [Outcome.isFailure, hok] at hstops
  exact absurd hstops.2 Bool.false_ne_true

theorem aborted_iff (h : r.Ran zone cs stopped journal report told) :
    report.aborted = true ↔ 0 < report.skipped := by
  rw [h.aborted, h.skipped, h.length_journal]
  cases stopped with
  | false => simp [h.length_eq]
  | true =>
    simp only [Bool.true_and, decide_eq_true_iff]
    omega

/-- Without failures everything is applied, and the other way round. -/
theorem failures_eq_nil_iff (h : r.Ran zone cs stopped journal report told) :
    report.failures = [] ↔ report.applied = report.planned := by
  have hcount := h.length_journal
  have hle := h.length_le
  rw [h.planned, ← List.length_eq_zero_iff]
  constructor
  · intro hnone
    cases stopped with
    | false =>
      have hall := h.length_eq
      omega
    | true => exact absurd (List.length_eq_zero_iff.1 hnone) h.failFast_of_stopped.2
  · intro hall
    omega

end Ran

/-- Every report accounts for its list, whatever the provider, the settings and the
interleaving. -/
theorem apply_accounted (r : Reconciler σ) (zone : String) (cs : List Correction)
    (s : Session σ) : Accounted r.config.failurePolicy cs (r.apply zone cs s).1 := by
  obtain ⟨stopped, journal, told, hran, -⟩ := r.exists_ran zone cs s
  have haborted := hran.aborted_iff
  have hfailures := hran.failures_eq_nil_iff
  generalize (r.apply zone cs s).1 = report at hran haborted hfailures
  have hfits : report.applied + report.failures.length ≤ report.planned := by
    rw [hran.length_journal, hran.planned]
    exact hran.length_le
  refine ⟨hran.planned, hfits, hran.ascending_failures, fun f => hran.message_of_mem_failures,
    haborted, fun hmark => ?_, ?_, ?_⟩
  · cases stopped with
    | false =>
      rw [hran.aborted] at hmark
      exact absurd hmark Bool.false_ne_true
    | true => exact hran.failFast_of_stopped
  · rw [Report.isSuccess, Bool.and_eq_true, List.isEmpty_iff, Bool.not_eq_true',
      ← Bool.not_eq_true, haborted, ← hfailures]
    refine and_iff_left_of_imp (fun hnone => ?_)
    have hall := hfailures.1 hnone
    rw [Report.skipped, hall]
    omega
  · rw [Report.result_eq_ok_iff, hfailures]

end Reconciler

end DnsReconcile
