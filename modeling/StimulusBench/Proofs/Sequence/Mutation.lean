import StimulusBench.Proofs.Filler.Inert
import StimulusBench.Proofs.Random.Draw
import StimulusBench.Sequence.Mutation

/-!
# `StimulusBench.Proofs.Sequence.Mutation` — which mutated sequences are wrong

A mask is drawn until it selects a position, and a corrupted sequence holds a sentinel value at every
selected position. One sentinel value is enough to spoil a sequence, so that a drawn corruption is always
wrong; noise is whatever was drawn, and may be the accepted sequence.

## Contents
- **Masks.** `Mask.draw_isEmpty`: a drawn mask is not empty.
- **Corruption.** `References.isCorrect_corrupt`.
- **Mutations.** `Mutation.isCorrect_apply_iff`: the one drawn mutation that is correct.
-/

namespace StimulusBench

variable {source rest : RandomSource} {mask : Mask}

/-! ## Masks -/

/-- **A mask that is not empty** selects a position. -/
theorem Mask.exists_contains (h : mask.isEmpty = false) :
    ∃ i, i < sequenceLength ∧ mask.contains i = true := by
  have hany : mask.selected.any id = true := by simpa [Mask.isEmpty] using h
  obtain ⟨i, hi, hselected⟩ := Vector.any_eq_true.mp hany
  refine ⟨i, hi, ?_⟩
  rw [Mask.contains, Vector.getElem?_eq_getElem hi]
  exact hselected

/-- Whatever the bound on the tries, the mask that is drawn in the end is not empty. -/
theorem Mask.drawWithin_isEmpty {tries : Nat} (h : Mask.drawWithin tries source = some (mask, rest)) :
    mask.isEmpty = false := by
  induction tries generalizing source with
  | zero => cases h
  | succ tries ih =>
      obtain ⟨flipped, between, -, h⟩ := Draw.bind_eq_some_iff.mp h
      split at h
      next => exact ih h
      next hsome =>
        rw [← (Draw.pure_eq_some_iff.mp h).1]
        exact Bool.eq_false_iff.mpr hsome

theorem Mask.draw_isEmpty (h : Mask.draw source = some (mask, rest)) : mask.isEmpty = false :=
  Mask.drawWithin_isEmpty h

/-! ## Corruption -/

/-- **A corrupted sequence is wrong** if any position is selected: a sentinel value stands there. -/
theorem References.isCorrect_corrupt (refs : References) (h : mask.isEmpty = false) :
    refs.isCorrect (refs.corrupt mask).toList = false := by
  obtain ⟨i, hi, hselected⟩ := Mask.exists_contains h
  have hvalue : (refs.corrupt mask)[i] = refs.sentinel[i] := by
    rw [References.corrupt, Vector.getElem_ofFn, if_pos hselected]
    rfl
  have hmem : refs.sentinel[i] ∈ (refs.corrupt mask).toList :=
    Vector.mem_toList_iff.mpr (hvalue ▸ Vector.getElem_mem hi)
  exact refs.isCorrect_eq_false (Vector.getElem_mem hi) hmem

/-! ## Mutations -/

/-- The mask of a drawn corruption is not empty. -/
theorem Mutation.draw_partialCorruption
    (h : Mutation.draw source = some (.partialCorruption mask, rest)) : mask.isEmpty = false := by
  obtain ⟨corrupts, between, -, h⟩ := Draw.bind_eq_some_iff.mp h
  split at h
  · obtain ⟨drawn, behind, hdrawn, h⟩ := Draw.bind_eq_some_iff.mp h
    cases (Draw.pure_eq_some_iff.mp h).1
    exact Mask.draw_isEmpty hdrawn
  · obtain ⟨values, behind, -, h⟩ := Draw.bind_eq_some_iff.mp h
    cases (Draw.pure_eq_some_iff.mp h).1

/-- **The one drawn mutation that is correct** is noise that happens to be the accepted sequence. -/
theorem Mutation.isCorrect_apply_iff (refs : References) {mutation : Mutation}
    (h : Mutation.draw source = some (mutation, rest)) :
    refs.isCorrect (mutation.apply refs).toList = true ↔ mutation = .noise refs.correct := by
  cases mutation with
  | partialCorruption mask =>
      have hwrong : refs.isCorrect (refs.corrupt mask).toList = false :=
        refs.isCorrect_corrupt (Mutation.draw_partialCorruption h)
      constructor
      · intro hcorrect
        cases hwrong.symm.trans hcorrect
      · intro hnoise
        cases hnoise
  | noise values =>
      rw [Mutation.apply, ReferencePair.isCorrect, beq_iff_eq, Vector.toList_inj, Mutation.noise.injEq]

end StimulusBench
