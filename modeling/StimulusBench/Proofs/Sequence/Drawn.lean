import StimulusBench.Proofs.Random.Endless

/-!
# `StimulusBench.Proofs.Sequence.Drawn` — one mutation after the other

A key stream gives one mutation after the other, as many as are asked for. How many these are does not
change which they are, so that a longer run begins with the mutations of a shorter one.

## Contents
- `Mutation.drawn`, the mutations of a stream; `Mutation.take_drawn` and `Mutation.times_drawn`.
-/

namespace StimulusBench

namespace Mutation

/-- So many mutations of a key stream. -/
def drawn : Nat → KeyStream → List Mutation
  | 0, _ => []
  | n + 1, s => (s.draw Mutation.draw total_draw).1 :: drawn n (s.draw Mutation.draw total_draw).2

variable {m n : Nat}

theorem length_drawn (n : Nat) (s : KeyStream) : (drawn n s).length = n := by
  induction n generalizing s with
  | zero => rfl
  | succ n ih => rw [drawn, List.length_cons, ih]

/-- **More draws** begin with the same mutations. -/
theorem take_drawn (h : m ≤ n) (s : KeyStream) : (drawn n s).take m = drawn m s := by
  induction m generalizing n s with
  | zero => rfl
  | succ m ih =>
      obtain ⟨n, rfl⟩ := Nat.exists_eq_add_of_le' (Nat.le_trans (Nat.succ_pos m) h)
      rw [drawn, drawn, List.take_succ_cons, ih (Nat.le_of_succ_le_succ h)]

/-- **The mutations of a stream** are what it gives when it is asked for so many of them. -/
theorem times_drawn (n : Nat) (s : KeyStream) :
    ∃ t, Draw.times Mutation.draw n (.keyStream s) = some (drawn n s, .keyStream t) := by
  induction n generalizing s with
  | zero => exact ⟨s, rfl⟩
  | succ n ih =>
      obtain ⟨t, ht⟩ := ih (s.draw Mutation.draw total_draw).2
      exact ⟨t, Draw.times_succ_eq_some_iff.mpr ⟨_, _, KeyStream.apply_eq_draw s, _, ht, rfl⟩⟩

end Mutation

end StimulusBench
