import Mathlib.Data.List.Basic
import Mathlib.Data.List.Induction
import Mathlib.Data.List.Nodup
import DnsReconcile.Engine.Pool

/-!
The moments of an application, and what each of them is allowed after.

A correction is started, makes its last attempt, and is joined. Which moment is allowed
depends on those before it (`Allowed`), and a history is legal if each of its moments
was allowed when it came (`Legal`). In a legal history corrections start in the order
of the list (`Legal.startedIn_eq_range`), no more are under way than the limit allows
(`Legal.underWay_le`), each is joined at most once (`Legal.nodup_joined`), and a run that
is to stop on a failure joins few of them (`Legal.failed_le`).
-/

namespace DnsReconcile

/-- What can be noticed of the application of corrections. -/
inductive Moment where
  /-- The correction at a place is started. -/
  | started (index : Nat)
  /-- It has made its last attempt, or its task has died. -/
  | finished (index : Nat) (outcome : Outcome)
  /-- Its outcome is taken. -/
  | joined (index : Nat) (outcome : Outcome)

def Moment.started? : Moment → Option Nat
  | .started i => some i
  | _ => none

def Moment.joined? : Moment → Option (Nat × Outcome)
  | .joined i o => some (i, o)
  | _ => none

def startedIn (t : List Moment) : List Nat := t.filterMap Moment.started?

def joinedIn (t : List Moment) : List (Nat × Outcome) := t.filterMap Moment.joined?

def failedIn (t : List Moment) : List (Nat × Outcome) :=
  (joinedIn t).filter (fun e => e.2.isFailure)

/-- The places that were started and not joined yet. -/
def underWay (t : List Moment) : List Nat :=
  (startedIn t).filter (fun i => i ∉ (joinedIn t).map (·.1))

/-- No correction from `i` to `j` belongs to another pass than `j`. -/
def SameRun (cs : List Correction) (i j : Nat) : Prop :=
  ∀ k, i ≤ k → k ≤ j → (cs[k]?).map Correction.pass = (cs[j]?).map Correction.pass

/-- What a moment is allowed after. The correction that starts is the next one of the
list, there is room for it, what stands before its own run of the list has finished,
and no failure has been seen that stops the application. A started correction finishes
once, and is joined once with the outcome it finished with. -/
def Allowed (config : EngineConfig) (cs : List Correction) (t : List Moment) : Moment → Prop
  | .started j => j = (startedIn t).length ∧ j < cs.length ∧
      (underWay t).length < config.maxParallel.toNat ∧
      (∀ i < j, ¬ SameRun cs i j → ∃ o, .finished i o ∈ t) ∧
      (config.failurePolicy = .failFast → failedIn t = [])
  | .finished i _ => i ∈ startedIn t ∧ ∀ o, .finished i o ∉ t
  | .joined i o => .finished i o ∈ t ∧ i ∈ underWay t

/-- Every moment was allowed when it came. -/
def Legal (config : EngineConfig) (cs : List Correction) (t : List Moment) : Prop :=
  ∀ before m after, t = before ++ m :: after → Allowed config cs before m

section Append

variable {s t : List Moment} {m : Moment}

theorem startedIn_append : startedIn (s ++ t) = startedIn s ++ startedIn t :=
  List.filterMap_append

theorem joinedIn_append : joinedIn (s ++ t) = joinedIn s ++ joinedIn t :=
  List.filterMap_append

theorem failedIn_append : failedIn (s ++ t) = failedIn s ++ failedIn t := by
  rw [failedIn, joinedIn_append, List.filter_append]
  rfl

theorem mem_joinedIn {e : Nat × Outcome} : e ∈ joinedIn t ↔ .joined e.1 e.2 ∈ t := by
  unfold joinedIn
  rw [List.mem_filterMap]
  constructor
  · rintro ⟨m, hm, hjoined⟩
    cases m with
    | joined i o =>
      cases hjoined
      exact hm
    | started i => cases hjoined
    | finished i o => cases hjoined
  · exact fun h => ⟨_, h, rfl⟩

theorem mem_underWay {i : Nat} :
    i ∈ underWay t ↔ i ∈ startedIn t ∧ i ∉ (joinedIn t).map (·.1) := by
  rw [underWay, List.mem_filter, decide_eq_true_iff]

theorem startedIn_concat (t : List Moment) (m : Moment) :
    startedIn (t ++ [m]) = startedIn t ++ m.started?.toList := by
  rw [startedIn_append]
  cases m <;> rfl

theorem joinedIn_concat (t : List Moment) (m : Moment) :
    joinedIn (t ++ [m]) = joinedIn t ++ m.joined?.toList := by
  rw [joinedIn_append]
  cases m <;> rfl

/-- A join takes its own place from those that are under way. -/
theorem underWay_joined (t : List Moment) (i : Nat) (o : Outcome) :
    underWay (t ++ [.joined i o]) = (underWay t).filter (fun j => j ≠ i) := by
  rw [underWay, underWay, startedIn_concat, joinedIn_concat, List.filter_filter]
  simp only [Moment.started?, Moment.joined?, Option.toList, List.append_nil, List.map_append]
  apply List.filter_congr
  intro j _
  by_cases hji : j = i <;> simp [hji]

theorem underWay_finished (t : List Moment) (i : Nat) (o : Outcome) :
    underWay (t ++ [.finished i o]) = underWay t := by
  rw [underWay, underWay, startedIn_concat, joinedIn_concat]
  simp only [Moment.started?, Moment.joined?, Option.toList, List.append_nil]

theorem underWay_started {i : Nat} (h : i ∉ (joinedIn t).map (·.1)) :
    underWay (t ++ [.started i]) = underWay t ++ [i] := by
  rw [underWay, underWay, startedIn_concat, joinedIn_concat]
  simp only [Moment.started?, Moment.joined?, Option.toList, List.append_nil, List.filter_append]
  simp [h]

end Append

namespace Legal

variable {config : EngineConfig} {cs : List Correction} {s t : List Moment} {m : Moment}

theorem nil : Legal config cs [] := by
  intro before m after h
  simp at h

theorem of_append (h : Legal config cs (s ++ t)) : Legal config cs s := by
  intro before m after hs
  refine h before m (after ++ t) ?_
  rw [hs, List.append_assoc, List.cons_append]

theorem concat_iff : Legal config cs (t ++ [m]) ↔ Legal config cs t ∧ Allowed config cs t m := by
  constructor
  · exact fun h => ⟨h.of_append, h t m [] rfl⟩
  · rintro ⟨ht, hm⟩ before m' after h
    rcases List.eq_nil_or_concat after with rfl | ⟨init, last, rfl⟩
    · obtain ⟨rfl, hlast⟩ := List.append_inj' h rfl
      cases hlast
      exact hm
    · rw [List.concat_eq_append, ← List.cons_append, ← List.append_assoc] at h
      exact ht before m' init (List.append_inj' h rfl).1

theorem started_of_finished (h : Legal config cs t) {i : Nat} {o : Outcome}
    (hfinished : .finished i o ∈ t) : i ∈ startedIn t := by
  obtain ⟨before, after, rfl⟩ := List.append_of_mem hfinished
  have hallowed := h before _ after rfl
  rw [startedIn_append]
  exact List.mem_append.2 (.inl hallowed.1)

theorem finished_of_joined (h : Legal config cs t) {e : Nat × Outcome} (he : e ∈ joinedIn t) :
    .finished e.1 e.2 ∈ t := by
  obtain ⟨before, after, rfl⟩ := List.append_of_mem (mem_joinedIn.1 he)
  have hallowed := h before _ after rfl
  exact List.mem_append.2 (.inl hallowed.1)

theorem started_of_joined (h : Legal config cs t) {i : Nat}
    (hi : i ∈ (joinedIn t).map (·.1)) : i ∈ startedIn t := by
  obtain ⟨e, he, rfl⟩ := List.mem_map.1 hi
  exact h.started_of_finished (h.finished_of_joined he)

/-- Corrections start in the order of the list, each at most once. -/
theorem startedIn_eq_range (h : Legal config cs t) :
    startedIn t = List.range (startedIn t).length := by
  induction t using List.reverseRecOn with
  | nil => rfl
  | append_singleton t m ih =>
    obtain ⟨ht, hm⟩ := concat_iff.1 h
    rw [startedIn_concat]
    cases m with
    | started j =>
      obtain ⟨rfl, -⟩ := hm
      rw [List.length_append]
      change startedIn t ++ [_] = List.range (_ + 1)
      rw [List.range_succ, ← ih ht]
    | finished i o => simpa [Moment.started?] using ih ht
    | joined i o => simpa [Moment.started?] using ih ht

theorem nodup_underWay (h : Legal config cs t) : (underWay t).Nodup := by
  have hstarted : (startedIn t).Nodup := by
    rw [h.startedIn_eq_range]
    exact List.nodup_range
  exact hstarted.sublist List.filter_sublist

/-- The next correction is not started yet. -/
theorem not_started_of_length (h : Legal config cs t) : (startedIn t).length ∉ startedIn t := by
  intro hstarted
  rw [h.startedIn_eq_range, List.mem_range, List.length_range] at hstarted
  omega

theorem not_finished_of_length (h : Legal config cs t) (o : Outcome) :
    .finished (startedIn t).length o ∉ t :=
  fun hfinished => h.not_started_of_length (h.started_of_finished hfinished)

theorem not_joined_of_length (h : Legal config cs t) :
    (startedIn t).length ∉ (joinedIn t).map (·.1) :=
  fun hjoined => h.not_started_of_length (h.started_of_joined hjoined)

theorem startedIn_le (h : Legal config cs t) : (startedIn t).length ≤ cs.length := by
  induction t using List.reverseRecOn with
  | nil => exact Nat.zero_le _
  | append_singleton t m ih =>
    obtain ⟨ht, hm⟩ := concat_iff.1 h
    have hle := ih ht
    rw [startedIn_concat, List.length_append]
    cases m with
    | started j =>
      obtain ⟨rfl, hless, -⟩ := hm
      exact hless
    | finished i o => exact hle
    | joined i o => exact hle

/-- At no time are more corrections under way than the limit allows. -/
theorem underWay_le (h : Legal config cs t) :
    (underWay t).length ≤ config.maxParallel.toNat := by
  induction t using List.reverseRecOn with
  | nil => exact Nat.zero_le _
  | append_singleton t m ih =>
    obtain ⟨ht, hm⟩ := concat_iff.1 h
    have hle := ih ht
    cases m with
    | started j =>
      obtain ⟨rfl, -, hroom, -⟩ := hm
      rw [underWay_started ht.not_joined_of_length, List.length_append]
      exact hroom
    | finished i o =>
      rw [underWay_finished]
      exact hle
    | joined i o =>
      rw [underWay_joined]
      exact Nat.le_trans (List.length_filter_le _ _) hle

/-- Each correction is joined at most once. -/
theorem nodup_joined (h : Legal config cs t) : ((joinedIn t).map (·.1)).Nodup := by
  induction t using List.reverseRecOn with
  | nil => exact List.nodup_nil
  | append_singleton t m ih =>
    obtain ⟨ht, hm⟩ := concat_iff.1 h
    rw [joinedIn_concat]
    cases m with
    | joined i o =>
      change ((joinedIn t ++ [(i, o)]).map (·.1)).Nodup
      rw [List.map_append, List.nodup_append]
      refine ⟨ih ht, List.nodup_singleton i, ?_⟩
      rintro j hj k hk rfl
      obtain rfl := List.mem_singleton.1 hk
      exact (mem_underWay.1 hm.2).2 hj
    | started j => simpa [Moment.joined?] using ih ht
    | finished i o => simpa [Moment.joined?] using ih ht

/-- Once a failure is seen that stops the application nothing is started any more, so
the failures were all under way at one time. -/
private theorem failed_add_underWay_le (h : Legal config cs t)
    (hpolicy : config.failurePolicy = .failFast) :
    (failedIn t).length + (underWay t).length ≤ config.maxParallel.toNat := by
  induction t using List.reverseRecOn with
  | nil => exact Nat.zero_le _
  | append_singleton t m ih =>
    obtain ⟨ht, hm⟩ := concat_iff.1 h
    have hle := ih ht
    rw [failedIn_append, List.length_append]
    cases m with
    | started j =>
      obtain ⟨rfl, -, hroom, -, hclean⟩ := hm
      rw [underWay_started ht.not_joined_of_length, hclean hpolicy, List.length_append]
      change 0 + 0 + (_ + 1) ≤ _
      omega
    | finished i o =>
      rw [underWay_finished]
      exact hle
    | joined i o =>
      -- a join that adds a failure takes one from those under way
      have hless : ((underWay t).filter (fun j => j ≠ i)).length < (underWay t).length :=
        List.length_filter_lt_length_iff_exists.2 ⟨i, hm.2, by simp⟩
      have hone : (failedIn [.joined i o]).length ≤ 1 := List.length_filter_le _ _
      rw [underWay_joined]
      omega

theorem failed_le (h : Legal config cs t) (hpolicy : config.failurePolicy = .failFast) :
    (failedIn t).length ≤ config.maxParallel.toNat :=
  Nat.le_trans (Nat.le_add_right _ _) (h.failed_add_underWay_le hpolicy)

end Legal

/-- A legal history in which all that was started is joined. -/
structure Settled (config : EngineConfig) (cs : List Correction) (t : List Moment) : Prop where
  legal : Legal config cs t
  nothing : underWay t = []

namespace Settled

variable {config : EngineConfig} {cs : List Correction} {t : List Moment}

theorem nil : Settled config cs [] := ⟨Legal.nil, rfl⟩

theorem mem_joined_iff (h : Settled config cs t) {i : Nat} :
    i ∈ (joinedIn t).map (·.1) ↔ i ∈ startedIn t := by
  refine ⟨h.legal.started_of_joined, fun hi => ?_⟩
  by_contra hunjoined
  have hunder : i ∈ underWay t := mem_underWay.2 ⟨hi, hunjoined⟩
  rw [h.nothing] at hunder
  cases hunder

/-- Everything up to the place that is reached has finished. -/
theorem finished (h : Settled config cs t) {i : Nat} (hi : i < (startedIn t).length) :
    ∃ o, .finished i o ∈ t := by
  have hstarted : i ∈ startedIn t := by
    rw [h.legal.startedIn_eq_range]
    exact List.mem_range.2 hi
  obtain ⟨e, he, rfl⟩ := List.mem_map.1 (h.mem_joined_iff.2 hstarted)
  exact ⟨e.2, h.legal.finished_of_joined he⟩

end Settled

end DnsReconcile
