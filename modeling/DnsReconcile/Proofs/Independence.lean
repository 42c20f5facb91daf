import Mathlib.Logic.Function.Iterate
import DnsReconcile.Engine.Pool

/-!
Attempts that do not depend on one another.

Two attempts are independent if neither changes what the other comes to and their
order does not matter for the state (`Attempt.Independent`). Among independent
attempts a correction ends as if it were tried alone (`alone_iterate`), and the state
depends on how often each was made and not on their order: it can be told as a replay
that takes them one correction after the other (`replay_result`, `replay_after`).
-/

namespace DnsReconcile

/-- The outcome of a correction that failed some times before. -/
def Outcome.later (o : Outcome) (failed : Nat) : Outcome :=
  { o with attempts := o.attempts + failed }

theorem Outcome.later_later (o : Outcome) (m n : Nat) :
    (o.later m).later n = o.later (m + n) := by
  simp [later, Nat.add_assoc]

/-- What an attempt of a correction comes to in a state, and the state behind it. -/
abbrev Attempt (V : Type) : Type := V → Except Error Unit × V

namespace Attempt

variable {V : Type} {a b : Attempt V}

def after (a : Attempt V) (v : V) : V := (a v).2

def alone (a : Attempt V) : Nat → V → Outcome
  | 0, v => ⟨1, (a v).1⟩
  | retries + 1, v =>
    match (a v).1 with
    | .ok () => ⟨1, .ok ()⟩
    | .error _ => (alone a retries (a.after v)).later 1

theorem alone_of_ok {v : V} (h : (a v).1 = .ok ()) (retries : Nat) :
    a.alone retries v = ⟨1, .ok ()⟩ := by
  cases retries with
  | zero => rw [alone, h]
  | succ retries => simp only [alone, h]

theorem alone_of_error {v : V} {e : Error} (h : (a v).1 = .error e) (retries : Nat) :
    a.alone (retries + 1) v = (a.alone retries (a.after v)).later 1 := by
  simp only [alone, h]

/-- How the attempts of a correction that is tried alone go: each but the last one fails, and
the last one succeeds or is the last that is allowed. -/
structure Ends (a : Attempt V) (retries : Nat) (v : V) (o : Outcome) : Prop where
  pos : 0 < o.attempts
  le : o.attempts ≤ retries + 1
  result : (a (a.after^[o.attempts - 1] v)).1 = o.result
  early : ∀ n, n + 1 < o.attempts → (a (a.after^[n] v)).1 ≠ .ok ()
  exhausted : o.result ≠ .ok () → o.attempts = retries + 1

theorem ends_alone (a : Attempt V) (retries : Nat) (v : V) :
    a.Ends retries v (a.alone retries v) := by
  induction retries generalizing v with
  | zero => exact ⟨Nat.one_pos, Nat.le_refl _, rfl, fun n hn => by simp [alone] at hn, fun _ => rfl⟩
  | succ retries ih =>
    cases hresult : (a v).1 with
    | ok u =>
      rw [alone_of_ok hresult]
      exact ⟨Nat.one_pos, by simp, hresult, fun n hn => by simp at hn, fun h => absurd rfl h⟩
    | error e =>
      rw [alone_of_error hresult]
      have hlater := ih (a.after v)
      refine ⟨Nat.succ_pos _, Nat.succ_le_succ hlater.le, ?_, ?_, ?_⟩
      · change (a (a.after^[((a.alone retries (a.after v)).attempts)] v)).1 = _
        rw [← Nat.sub_add_cancel hlater.pos, Function.iterate_succ_apply]
        exact hlater.result
      · intro n hn
        cases n with
        | zero => simp [hresult]
        | succ n => exact hlater.early n (Nat.lt_of_succ_lt_succ hn)
      · exact fun hfailed => congrArg (· + 1) (hlater.exhausted hfailed)

/-- Attempts that come to the same on what a map shows of the states. -/
theorem alone_project {W : Type} {f : V → W} {b : Attempt W}
    (h : ∀ v, b (f v) = ((a v).1, f (a v).2)) (retries : Nat) (v : V) :
    b.alone retries (f v) = a.alone retries v := by
  induction retries generalizing v with
  | zero => rw [alone, alone, h]
  | succ retries ih =>
    have hafter : b.after (f v) = f (a.after v) := congrArg Prod.snd (h v)
    rw [alone, alone, h, hafter, ih]

/-- Neither of two attempts changes what the other comes to, and it does not matter
which of them is made first. -/
structure Independent (a b : Attempt V) : Prop where
  left : ∀ v, (a (b.after v)).1 = (a v).1
  right : ∀ v, (b (a.after v)).1 = (b v).1
  commute : Function.Commute a.after b.after

theorem Independent.symm (h : Independent a b) : Independent b a :=
  ⟨h.right, h.left, h.commute.symm⟩

private theorem alone_after (h : Independent a b) (retries : Nat) (v : V) :
    a.alone retries (b.after v) = a.alone retries v := by
  induction retries generalizing v with
  | zero => rw [alone, alone, h.left]
  | succ retries ih =>
    cases hresult : (a v).1 with
    | ok u => rw [alone_of_ok hresult, alone_of_ok ((h.left v).trans hresult)]
    | error e =>
      rw [alone_of_error hresult, alone_of_error ((h.left v).trans hresult)]
      rw [h.commute v, ih]

/-- A correction ends as if independent attempts had not been made before it. -/
theorem alone_iterate (h : Independent a b) (retries n : Nat) (v : V) :
    a.alone retries (b.after^[n] v) = a.alone retries v := by
  induction n generalizing v with
  | zero => rfl
  | succ n ih => rw [Function.iterate_succ_apply, ih, alone_after h]

private theorem result_iterate (h : Independent a b) (n : Nat) (v : V) :
    (a (b.after^[n] v)).1 = (a v).1 := by
  induction n generalizing v with
  | zero => rfl
  | succ n ih => rw [Function.iterate_succ_apply, ih, h.left]

section Replay

variable {ι : Type} {attempt : ι → Attempt V} {n n' : ι → Nat} {x : ι} {xs ys : List ι}

/-- The state once each of some corrections has made a number of attempts, one
correction after the other. -/
def replay (attempt : ι → Attempt V) (n : ι → Nat) : List ι → V → V
  | [], v => v
  | x :: rest, v => replay attempt n rest ((attempt x).after^[n x] v)

theorem replay_congr (h : ∀ x ∈ xs, n x = n' x) (v : V) :
    replay attempt n xs v = replay attempt n' xs v := by
  induction xs generalizing v with
  | nil => rfl
  | cons x rest ih =>
    obtain ⟨hx, hrest⟩ := List.forall_mem_cons.1 h
    rw [replay, replay, hx, ih hrest]

theorem replay_zero (h : ∀ x ∈ xs, n x = 0) (v : V) : replay attempt n xs v = v := by
  induction xs generalizing v with
  | nil => rfl
  | cons x rest ih =>
    obtain ⟨hx, hrest⟩ := List.forall_mem_cons.1 h
    rw [replay, hx, ih hrest, Function.iterate_zero_apply]

/-- Attempts that are independent of a replay can be made before it or after it. -/
private theorem iterate_replay (h : ∀ y ∈ xs, Independent a (attempt y)) (k : Nat) (v : V) :
    a.after^[k] (replay attempt n xs v) = replay attempt n xs (a.after^[k] v) := by
  induction xs generalizing v with
  | nil => rfl
  | cons y rest ih =>
    obtain ⟨hy, hrest⟩ := List.forall_mem_cons.1 h
    rw [replay, replay, ih hrest, (hy.commute.iterate_iterate k (n y)) v]

private theorem result_replay (h : ∀ y ∈ xs, Independent a (attempt y)) (v : V) :
    (a (replay attempt n xs v)).1 = (a v).1 := by
  induction xs generalizing v with
  | nil => rfl
  | cons y rest ih =>
    obtain ⟨hy, hrest⟩ := List.forall_mem_cons.1 h
    rw [replay, ih hrest, result_iterate hy]

/-- In a replay the attempts of any one correction can be taken first. -/
private theorem replay_first (h : ∀ y ∈ xs, Independent (attempt x) (attempt y)) (v : V) :
    replay attempt n (xs ++ x :: ys) v =
      replay attempt n (xs ++ ys) ((attempt x).after^[n x] v) := by
  induction xs generalizing v with
  | nil => rfl
  | cons y rest ih =>
    obtain ⟨hy, hrest⟩ := List.forall_mem_cons.1 h
    rw [List.cons_append, List.cons_append, replay, replay, ih hrest,
      (hy.commute.iterate_iterate (n x) (n y)) v]

/-- After a replay, an attempt comes to what it would come to after the attempts of
its own correction alone. -/
theorem replay_result (h : ∀ y ∈ xs ++ ys, Independent (attempt x) (attempt y)) (v : V) :
    (attempt x (replay attempt n (xs ++ x :: ys) v)).1 =
      (attempt x ((attempt x).after^[n x] v)).1 := by
  rw [replay_first (fun y hy => h y (List.mem_append.2 (.inl hy))), result_replay h]

/-- One more attempt leads to the replay in which it is counted. -/
theorem replay_after (h : ∀ y ∈ xs ++ ys, Independent (attempt x) (attempt y))
    (hx : n' x = n x + 1) (hothers : ∀ y ∈ xs ++ ys, n' y = n y) (v : V) :
    (attempt x).after (replay attempt n (xs ++ x :: ys) v) =
      replay attempt n' (xs ++ x :: ys) v := by
  have hleft : ∀ y ∈ xs, Independent (attempt x) (attempt y) :=
    fun y hy => h y (List.mem_append.2 (.inl hy))
  have hone := iterate_replay (n := n) h 1 ((attempt x).after^[n x] v)
  rw [Function.iterate_one] at hone
  rw [replay_first hleft, replay_first hleft, hone, hx, Function.iterate_succ_apply',
    replay_congr hothers]

end Replay

end Attempt

end DnsReconcile
