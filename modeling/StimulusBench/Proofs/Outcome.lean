/-!
# `StimulusBench.Proofs.Outcome` — results that may be faults, taken apart

A chain of steps in `Except` succeeds exactly if every step does. The equations here take a chain apart
without opening the monad.

## Contents
- **Chains.** `bind_eq_ok_iff`, `map_eq_ok_iff`, `mapError_eq_ok_iff`.
- **Values.** `eq_ok_of_toOption`.
-/

namespace StimulusBench

variable {ε ε' α β : Type} {x : Except ε α}

/-- **A chain of two steps** succeeds exactly if both do. -/
theorem bind_eq_ok_iff {f : α → Except ε β} {b : β} :
    (x >>= f) = .ok b ↔ ∃ a, x = .ok a ∧ f a = .ok b := by
  cases x with
  | error e =>
      constructor
      · intro h
        cases h
      · rintro ⟨a, h, -⟩
        cases h
  | ok a =>
      constructor
      · intro h
        exact ⟨a, rfl, h⟩
      · rintro ⟨a', h, hf⟩
        cases h
        exact hf

theorem map_eq_ok_iff {f : α → β} {b : β} : x.map f = .ok b ↔ ∃ a, x = .ok a ∧ f a = b := by
  cases x <;> simp [Except.map]

/-- A fault in other words is a fault still. -/
theorem mapError_eq_ok_iff {f : ε → ε'} {a : α} : x.mapError f = .ok a ↔ x = .ok a := by
  cases x with
  | error e =>
      constructor
      · intro h
        cases h
      · intro h
        cases h
  | ok b =>
      constructor
      · intro h
        cases h
        rfl
      · intro h
        cases h
        rfl

/-- A result is known by its value, which can be compared where faults cannot. -/
theorem eq_ok_of_toOption {a : α} (h : x.toOption = some a) : x = .ok a := by
  cases x with
  | error e => cases h
  | ok b =>
      cases h
      rfl

end StimulusBench
