/-!
Computations that may fail.

A chain of checks and readings succeeds if every link does, and fails with the error of the
first that does not. These lemmas take a chain apart one link at a time.
-/

namespace DnsReconcile

namespace Except

variable {ε α β : Type} {e : ε} {b : β}

theorem bind_eq_ok_iff {x : Except ε α} {f : α → Except ε β} :
    x >>= f = .ok b ↔ ∃ a, x = .ok a ∧ f a = .ok b := by
  cases x with
  | error e => simp [bind, Except.bind]
  | ok a => simp [bind, Except.bind]

theorem bind_eq_error_iff {x : Except ε α} {f : α → Except ε β} :
    x >>= f = .error e ↔ x = .error e ∨ ∃ a, x = .ok a ∧ f a = .error e := by
  cases x with
  | error e => simp [bind, Except.bind]
  | ok a => simp [bind, Except.bind]

/-- A check comes to nothing but that it was passed. -/
theorem check_eq_ok_iff {x : Except ε Unit} {f : Unit → Except ε β} :
    x >>= f = .ok b ↔ x = .ok () ∧ f () = .ok b :=
  bind_eq_ok_iff.trans ⟨fun ⟨_, h⟩ => h, fun h => ⟨(), h⟩⟩

/-- What goes on unless a condition holds. -/
theorem guard_eq_ok_iff {p : Prop} [Decidable p] {f : Unit → Except ε β} :
    (if p then throw e >>= f else f ()) = .ok b ↔ ¬ p ∧ f () = .ok b := by
  split
  · exact ⟨nofun, fun h => absurd ‹p› h.1⟩
  · exact ⟨fun h => ⟨‹¬ p›, h⟩, fun h => h.2⟩

theorem last_guard_eq_ok_iff {p : Prop} [Decidable p] :
    (if p then throw e else pure () : Except ε Unit) = .ok () ↔ ¬ p := by
  split
  · exact ⟨nofun, fun h => absurd ‹p› h⟩
  · exact ⟨fun _ => ‹¬ p›, fun _ => rfl⟩

end Except

end DnsReconcile
