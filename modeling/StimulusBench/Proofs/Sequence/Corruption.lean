import StimulusBench.Proofs.Sequence.Mutation

/-!
# `StimulusBench.Proofs.Sequence.Corruption` — corruption happens where the mask says, and nowhere else

A reference pair is accepted if no sentinel value occurs anywhere in the accepted sequence. That is more
than a comparison position by position would give: whatever position a sentinel value is written to, it is
never the value that stands there. So the positions at which a corrupted sequence differs from the
accepted one are the positions of the mask, and the mask can be read off the sequence again.

## Contents
- **Collisions.** `Collision.IsFirst`, the collision that is reported; `References.ofSequences_eq_ok_iff`
  and `References.ofSequences_eq_error_iff` say when there is a reference pair and when there is none.
- **Masks.** One position after the other is selected: `Mask.contains_of_select?` for a single one,
  `Mask.contains_of_foldlM` for a list of them. `Mask.Selects` is what comes out.
- **Corruption.** `References.corrupt_ne_iff`, `References.corrupt_injective`, and all of it together in
  `corruption_exact`.
-/

namespace StimulusBench

/-! ## Collisions -/

/-- **The collision that is reported**: the first sentinel value that occurs in the accepted sequence, and
    the first place where it occurs. -/
structure Collision.IsFirst (correct sentinel : Sequence) (c : Collision) : Prop where
  value : ∃ before after, sentinel.toList = before ++ c.value :: after ∧ ∀ v ∈ before, v ∉ correct
  position : correct.toList[c.position]? = some c.value ∧
    ∀ i < c.position, correct.toList[i]? ≠ some c.value

/-- The first place of a value in a list. -/
theorem findIdx?_value_eq_some_iff {values : List Value} {v : Value} {i : Nat} :
    values.findIdx? (· == v) = some i ↔ values[i]? = some v ∧ ∀ j < i, values[j]? ≠ some v := by
  rw [List.findIdx?_eq_some_iff_getElem]
  constructor
  · rintro ⟨hi, hv, hfirst⟩
    refine ⟨List.getElem?_eq_some_iff.mpr ⟨hi, by simpa using hv⟩, fun j hj hjv => ?_⟩
    obtain ⟨hj', hjv⟩ := List.getElem?_eq_some_iff.mp hjv
    exact hfirst j hj (by simp [hjv])
  · rintro ⟨hv, hfirst⟩
    obtain ⟨hi, hv⟩ := List.getElem?_eq_some_iff.mp hv
    refine ⟨hi, by simp [hv], fun j hj hjv => hfirst j hj ?_⟩
    have hj' : values[j] = v := by simpa using hjv
    exact List.getElem?_eq_some_iff.mpr ⟨_, hj'⟩

namespace References

variable {correct sentinel : Sequence}

theorem findIdx?_correct_eq_none_iff {v : Value} :
    correct.toList.findIdx? (· == v) = none ↔ v ∉ correct := by
  rw [List.findIdx?_eq_none_iff, ← Vector.mem_toList_iff]
  constructor
  · intro h hmem
    simpa using h v hmem
  · intro h w hmem
    simpa using fun heq : w = v => h (heq ▸ hmem)

/-- **No collision** is reported exactly if the two sequences have no value in common. -/
theorem collision?_eq_none_iff :
    collision? correct sentinel = none ↔ ∀ v ∈ sentinel, v ∉ correct := by
  rw [collision?, List.findSome?_eq_none_iff]
  simp only [Option.map_eq_none_iff, findIdx?_correct_eq_none_iff, Vector.mem_toList_iff]

/-- **A collision** is reported exactly if it is the first one. -/
theorem collision?_eq_some_iff {c : Collision} :
    collision? correct sentinel = some c ↔ c.IsFirst correct sentinel := by
  rw [collision?, List.findSome?_eq_some_iff]
  simp only [Option.map_eq_some_iff, Option.map_eq_none_iff, findIdx?_correct_eq_none_iff,
    findIdx?_value_eq_some_iff]
  constructor
  · rintro ⟨before, v, after, hsplit, ⟨position, hposition, rfl⟩, hfirst⟩
    exact ⟨⟨before, after, hsplit, hfirst⟩, hposition⟩
  · rintro ⟨⟨before, after, hsplit, hfirst⟩, hposition⟩
    exact ⟨before, c.value, after, hsplit, ⟨c.position, hposition, rfl⟩, hfirst⟩

/-- The second sentinel value is the first that occurs, as the last of the accepted ones. -/
example : collision? defaultCorrect #v[1, 73, 36, 2, 3] = some ⟨73, 4⟩ := by decide

/-- **A reference pair** is the pair of its sequences, and any such pair is accepted. -/
theorem ofSequences_eq_ok_iff {refs : References} :
    ofSequences correct sentinel = .ok refs ↔ refs.correct = correct ∧ refs.sentinel = sentinel := by
  unfold ofSequences
  split
  next hnone =>
    constructor
    · rintro ⟨rfl⟩
      exact ⟨rfl, rfl⟩
    · rintro ⟨rfl, rfl⟩
      rfl
  next c hsome =>
    constructor
    · rintro ⟨⟩
    · rintro ⟨rfl, rfl⟩
      have hnone := collision?_eq_none_iff.mpr refs.disjoint
      exact absurd (hsome.symm.trans hnone) (by simp)

theorem ofSequences_eq_error_iff {c : Collision} :
    ofSequences correct sentinel = .error c ↔ c.IsFirst correct sentinel := by
  rw [← collision?_eq_some_iff]
  unfold ofSequences
  split
  next hnone => simp [hnone]
  next found hsome => simp [hsome]

/-- **Two sequences are a reference pair** exactly if they have no value in common. -/
theorem exists_ofSequences_iff :
    (∃ refs, ofSequences correct sentinel = .ok refs) ↔ ∀ v ∈ sentinel, v ∉ correct := by
  constructor
  · rintro ⟨refs, hrefs⟩
    obtain ⟨rfl, rfl⟩ := ofSequences_eq_ok_iff.mp hrefs
    exact refs.disjoint
  · intro hdisjoint
    exact ⟨⟨⟨correct, sentinel⟩, hdisjoint⟩, ofSequences_eq_ok_iff.mpr ⟨rfl, rfl⟩⟩

end References

/-! ## Masks -/

namespace Mask

variable {mask next : Mask} {positions : List Nat} {p q : Nat}

theorem contains_empty (p : Nat) : empty.contains p = false := by
  unfold contains empty
  by_cases hp : p < sequenceLength
  · rw [Vector.getElem?_eq_getElem hp, Vector.getElem_replicate]
    rfl
  · rw [Vector.getElem?_eq_none (Nat.le_of_not_lt hp)]
    rfl

theorem lt_of_contains (h : mask.contains p = true) : p < sequenceLength := by
  refine Decidable.byContradiction fun hp => ?_
  rw [contains, Vector.getElem?_eq_none (Nat.le_of_not_lt hp)] at h
  cases h

theorem contains_of_isEmpty (h : mask.isEmpty = true) (p : Nat) : mask.contains p = false := by
  have hany : mask.selected.any id = false := by simpa [isEmpty] using h
  rw [Bool.eq_false_iff]
  intro hcontains
  have hp : p < sequenceLength := lt_of_contains hcontains
  have hdown : mask.selected[p] = false := by simpa using Vector.any_eq_false.mp hany p hp
  rw [contains, Vector.getElem?_eq_getElem hp, hdown] at hcontains
  cases hcontains

theorem select?_eq_none_iff : mask.select? p = none ↔ sequenceLength ≤ p := by
  unfold select?
  split
  next hp => simp [hp]
  next hp => simp [Nat.le_of_not_lt hp]

/-- **One more position** is selected, and the others stay as they were. -/
theorem contains_of_select? (h : mask.select? p = some next) (q : Nat) :
    next.contains q = true ↔ q = p ∨ mask.contains q = true := by
  unfold select? at h
  split at h
  next hp =>
    cases h
    unfold contains
    rw [Vector.getElem?_set]
    by_cases hq : q = p
    · subst hq
      simp
    · simp [Ne.symm hq, hq]
  next => cases h

/-- **Position after position.** The selection fails exactly if it comes to one that is out of range. -/
theorem foldlM_select?_eq_none_iff :
    positions.foldlM select? mask = none ↔ ∃ p ∈ positions, sequenceLength ≤ p := by
  induction positions generalizing mask with
  | nil => simp
  | cons p ps ih =>
      rw [List.foldlM_cons]
      cases hp : mask.select? p with
      | none =>
          have hout : sequenceLength ≤ p := select?_eq_none_iff.mp hp
          simp [hout]
      | some next =>
          have hin : ¬ sequenceLength ≤ p := by
            intro hout
            rw [select?_eq_none_iff.mpr hout] at hp
            cases hp
          show ps.foldlM select? next = none ↔ _
          rw [ih]
          simp [hin]

/-- **Position after position**, each of the list is selected in the end, besides those selected before
    it. Order and repetitions do not matter. -/
theorem contains_of_foldlM (h : positions.foldlM select? mask = some next) (q : Nat) :
    next.contains q = true ↔ q ∈ positions ∨ mask.contains q = true := by
  induction positions generalizing mask with
  | nil =>
      cases h
      simp
  | cons p ps ih =>
      rw [List.foldlM_cons] at h
      obtain ⟨first, hfirst, hrest⟩ := Option.bind_eq_some_iff.mp h
      rw [ih hrest, contains_of_select? hfirst, List.mem_cons, or_left_comm, or_assoc]

theorem mem_positions_iff : p ∈ mask.positions ↔ mask.contains p = true := by
  rw [positions, List.mem_filter, List.mem_range]
  exact ⟨fun h => h.2, fun h => ⟨lt_of_contains h, h⟩⟩

/-- The positions of a mask come in ascending order, each of them once. -/
theorem pairwise_positions (mask : Mask) : mask.positions.Pairwise (· < ·) :=
  List.Pairwise.filter _ List.pairwise_lt_range

/-- **A mask selects** certain positions: its list of positions holds them and no others, in ascending order
    and without repetition, and no other position counts as selected. -/
structure Selects (mask : Mask) (positions : List Nat) : Prop where
  ascending : mask.positions.Pairwise (· < ·)
  listed : ∀ p, p ∈ mask.positions ↔ p ∈ positions
  contained : ∀ p, mask.contains p = true ↔ p ∈ positions

theorem selects_of_ofPositions? (h : ofPositions? positions = some mask) : mask.Selects positions := by
  have hcontains : ∀ p, mask.contains p = true ↔ p ∈ positions := by
    intro p
    rw [contains_of_foldlM h, contains_empty]
    simp
  exact ⟨mask.pairwise_positions, fun p => mem_positions_iff.trans (hcontains p), hcontains⟩

/-- Masks that select the same positions are the same. -/
theorem eq_of_contains (h : ∀ p, p < sequenceLength → (mask.contains p = true ↔ next.contains p = true)) :
    mask = next := by
  obtain ⟨selected⟩ := mask
  obtain ⟨selected'⟩ := next
  congr 1
  ext i hi
  have hi' := h i hi
  simp only [contains, Vector.getElem?_eq_getElem hi, Option.getD_some] at hi'
  exact Bool.eq_iff_iff.mpr hi'

end Mask

/-! ## Corruption -/

namespace References

variable (refs : References) (mask : Mask)

theorem getElem_corrupt {i : Nat} (hi : i < sequenceLength) :
    (refs.corrupt mask)[i] = if mask.contains i then refs.sentinel[i] else refs.correct[i] := by
  rw [corrupt, Vector.getElem_ofFn]
  rfl

/-- The sentinel is wrong at every position. -/
theorem sentinel_ne_correct {i : Nat} (hi : i < sequenceLength) : refs.sentinel[i] ≠ refs.correct[i] := by
  intro heq
  have hmem : refs.sentinel[i] ∈ refs.correct := heq ▸ Vector.getElem_mem hi
  exact refs.disjoint _ (Vector.getElem_mem hi) hmem

/-- **A corrupted sequence differs** from the accepted one at the selected positions and at no other. -/
theorem corrupt_ne_iff {i : Nat} (hi : i < sequenceLength) :
    (refs.corrupt mask)[i] ≠ refs.correct[i] ↔ mask.contains i = true := by
  rw [getElem_corrupt]
  split
  next hsel => simp [hsel, refs.sentinel_ne_correct hi]
  next hsel => simp [hsel]

/-- **The mask can be read off** the corrupted sequence. -/
theorem corrupt_injective : Function.Injective refs.corrupt := by
  intro mask next h
  apply Mask.eq_of_contains
  intro i hi
  rw [← refs.corrupt_ne_iff mask hi, ← refs.corrupt_ne_iff next hi, h]

theorem isCorrect_corrupt_iff :
    refs.isCorrect (refs.corrupt mask).toList = true ↔ mask.isEmpty = true := by
  cases hempty : mask.isEmpty with
  | false => simp [refs.isCorrect_corrupt hempty]
  | true =>
      have hsame : refs.corrupt mask = refs.correct := by
        ext i hi
        rw [getElem_corrupt, Mask.contains_of_isEmpty hempty]
        simp
      rw [hsame, refs.isCorrect_correct]

end References

/-- **Corruption is exact.** Two sequences are a reference pair if they have no value in common, and
    otherwise the first collision is reported. A list of positions gives a mask unless one of them is out
    of range; the mask selects the positions of the list, and the corrupted sequence differs from the
    accepted one there and nowhere else, with the sentinel's value of the same position. Different masks
    give different sequences, and only the empty mask gives the accepted one. -/
theorem corruption_exact :
    (∀ correct sentinel : Sequence,
      ((∃ refs, References.ofSequences correct sentinel = .ok refs) ↔ ∀ v ∈ sentinel, v ∉ correct) ∧
      (∀ refs, References.ofSequences correct sentinel = .ok refs ↔
        refs.correct = correct ∧ refs.sentinel = sentinel) ∧
      ∀ c, References.ofSequences correct sentinel = .error c ↔ c.IsFirst correct sentinel) ∧
    ∀ refs : References,
      (∀ positions : List Nat,
        (Mask.ofPositions? positions = none ↔ ∃ p ∈ positions, sequenceLength ≤ p) ∧
        ∀ mask, Mask.ofPositions? positions = some mask →
          mask.Selects positions ∧
          ∀ i (hi : i < sequenceLength),
            ((refs.corrupt mask)[i] ≠ refs.correct[i] ↔ i ∈ positions) ∧
            (i ∈ positions → (refs.corrupt mask)[i] = refs.sentinel[i])) ∧
      Function.Injective refs.corrupt ∧
      ∀ mask, refs.isCorrect (refs.corrupt mask).toList = true ↔ mask.isEmpty = true := by
  constructor
  · intro correct sentinel
    exact ⟨References.exists_ofSequences_iff, fun _ => References.ofSequences_eq_ok_iff,
      fun _ => References.ofSequences_eq_error_iff⟩
  intro refs
  refine ⟨fun positions => ⟨Mask.foldlM_select?_eq_none_iff, ?_⟩, refs.corrupt_injective,
    refs.isCorrect_corrupt_iff⟩
  intro mask hmask
  have hselects := Mask.selects_of_ofPositions? hmask
  refine ⟨hselects, fun i hi => ⟨?_, fun hmem => ?_⟩⟩
  · rw [refs.corrupt_ne_iff mask hi, hselects.contained]
  · rw [refs.getElem_corrupt mask hi, if_pos ((hselects.contained i).mpr hmem)]

/-- A sentinel of five different values, and positions given out of order and more than once. -/
theorem corruption_exact_repeated :
    let refs : References := ⟨⟨References.defaultCorrect, #v[1, 2, 3, 4, 5]⟩,
      References.disjoint_of_collision?_eq_none (by decide)⟩
    let mask : Mask := ⟨#v[false, true, false, true, false]⟩
    References.ofSequences References.defaultCorrect #v[1, 2, 3, 4, 5] = .ok refs ∧
      Mask.ofPositions? [3, 1, 3] = some mask ∧ mask.Selects [3, 1, 3] ∧
      refs.corrupt mask = #v[36, 2, 56, 4, 73] ∧ refs.isCorrect (refs.corrupt mask).toList = false := by
  intro refs mask
  obtain ⟨hpairs, hmasks⟩ := corruption_exact
  have hmask : Mask.ofPositions? [3, 1, 3] = some mask := by decide
  have hrefs : References.ofSequences References.defaultCorrect #v[1, 2, 3, 4, 5] = .ok refs :=
    ((hpairs _ _).2.1 refs).mpr ⟨rfl, rfl⟩
  have hselects : mask.Selects [3, 1, 3] := (((hmasks refs).1 [3, 1, 3]).2 mask hmask).1
  have hwrong : refs.isCorrect (refs.corrupt mask).toList = false := by
    rw [Bool.eq_false_iff, Ne, (hmasks refs).2.2 mask]
    simp [mask, Mask.isEmpty]
  exact ⟨hrefs, hmask, hselects, by decide, hwrong⟩

end StimulusBench
