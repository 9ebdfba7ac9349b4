import Mathlib.Init

/-! When a chain of steps that may fail has a result, and what it fails with. -/
namespace AgentSpec

variable {ε α β : Type}

/-- A chain has a result if its first step has one and the rest has one from there. -/
theorem bind_eq_ok_iff {x : Except ε α} {f : α → Except ε β} {b : β} :
    x >>= f = .ok b ↔ ∃ a, x = .ok a ∧ f a = .ok b := by
  cases x <;> simp [bind, Except.bind]

theorem throw_ne_ok {e : ε} {a : α} : (throw e : Except ε α) ≠ .ok a := nofun

/-- A chain that is broken off in one case has a result in the other case only. -/
theorem guard_eq_ok_iff {p : Prop} [Decidable p] {e : ε} {f : α → Except ε β} {x : Except ε β}
    {b : β} : (if p then throw e >>= f else x) = .ok b ↔ ¬ p ∧ x = .ok b := by
  split
  · rename_i h
    exact iff_of_false nofun fun hp => hp.1 h
  · rename_i h
    exact (and_iff_right h).symm

/-- What a chain fails with, if it has no result. -/
def failure? : Except ε α → Option ε
  | .ok _ => none
  | .error e => some e

theorem failure?_eq_none_iff {x : Except ε α} : failure? x = none ↔ ∃ a, x = .ok a := by
  cases x <;> simp [failure?]

theorem failure?_eq_some_iff {x : Except ε α} {e : ε} : failure? x = some e ↔ x = .error e := by
  cases x <;> simp [failure?]

/-- A chain fails with its first step, or else with the rest, if that fails the same from all
results of the first step. -/
theorem failure?_bind {x : Except ε α} {f : α → Except ε β} {rest : Option ε}
    (h : ∀ a, failure? (f a) = rest) : failure? (x >>= f) = (failure? x).or rest := by
  cases x with
  | error e => rfl
  | ok a => exact h a

theorem failure?_map {x : Except ε α} (f : α → β) : failure? (f <$> x) = failure? x := by
  cases x <;> rfl

end AgentSpec
