import StimulusBench.Random.Source

/-!
# `StimulusBench.Proofs.Random.Draw` — draws taken apart

A draw that succeeds has drawn its parts one after the other, each from the source that the part before
it left. The two equations here take a draw apart without opening the monad.

## Contents
- **Parts.** `Draw.pure_eq_some_iff`, `Draw.bind_eq_some_iff`.
- **Ranges.** `Draw.between_mem`: a number drawn from a range lies in it.
-/

namespace StimulusBench

namespace Draw

/-! ## Parts -/

variable {α β : Type} {source rest : RandomSource}

/-- A value that is not drawn leaves the source alone. -/
theorem pure_eq_some_iff {a b : α} :
    (pure a : Draw α) source = some (b, rest) ↔ a = b ∧ source = rest := by
  show some (a, source) = some (b, rest) ↔ _
  rw [Option.some.injEq, Prod.mk.injEq]

/-- **A draw in two parts** succeeds exactly if both parts do. -/
theorem bind_eq_some_iff {x : Draw α} {f : α → Draw β} {b : β} :
    (x >>= f) source = some (b, rest) ↔
      ∃ a between, x source = some (a, between) ∧ f a between = some (b, rest) := by
  show ((x source).bind fun p => f p.1 p.2) = some (b, rest) ↔ _
  rw [Option.bind_eq_some_iff]
  exact ⟨fun ⟨p, hx, hf⟩ => ⟨p.1, p.2, hx, hf⟩, fun ⟨a, s, hx, hf⟩ => ⟨(a, s), hx, hf⟩⟩

/-! ## Ranges -/

/-- How many numbers a word can be, one of 64 bits or one of 32. -/
def wordSpan (wide : Bool) : Nat := if wide then 1 <<< 64 else 1 <<< 32

theorem wordOf_lt {wide : Bool} {w : Nat} (h : wordOf wide source = some (w, rest)) :
    w < wordSpan wide := by
  cases wide with
  | true =>
      obtain ⟨word, between, -, h⟩ := bind_eq_some_iff.mp h
      rw [← (pure_eq_some_iff.mp h).1]
      exact word.toNat_lt
  | false =>
      obtain ⟨word, between, -, h⟩ := bind_eq_some_iff.mp h
      rw [← (pure_eq_some_iff.mp h).1]
      exact word.toNat_lt

variable {w size span : Nat}

/-- Scaled to a size, a word stays below the size. -/
theorem scaled_lt (hw : w < span) (hsize : 0 < size) : w * size / span < size :=
  Nat.div_lt_of_lt_mul (Nat.mul_lt_mul_of_pos_right hw hsize)

/-- **Room for the carry.** Where a second word decides, the fraction is so large that the result is
    below the last number of the range, and may grow by one. -/
theorem scaled_succ_lt (hw : w < span) (hsize : size < span)
    (hfraction : span - size < w * size % span) : w * size / span + 1 < size := by
  have hproduct : span * (w * size / span) + w * size % span = w * size := Nat.div_add_mod _ _
  have hbelow : (w + 1) * size ≤ span * size := Nat.mul_le_mul_right size hw
  have hlt : span * (w * size / span + 1) < span * size := by
    rw [Nat.mul_succ]
    rw [Nat.succ_mul] at hbelow
    omega
  exact Nat.lt_of_mul_lt_mul_left hlt

/-- The number of a range of a size that a word stands for; a second word decides where the first
    falls into what is left over. -/
def scale (wide : Bool) (low size w : Nat) : Draw Nat :=
  let span := wordSpan wide
  if size = 0 then return w
  else if (span - size) % span < w * size % span then do
    let w' ← wordOf wide
    return low + w * size / span + if span ≤ w * size % span + w' * size / span then 1 else 0
  else return low + w * size / span

theorem between_eq (low high : Nat) :
    between low high =
      let wide := decide (1 <<< 32 ≤ high)
      wordOf wide >>= scale wide low ((high - low + 1) % wordSpan wide) := rfl

theorem scale_mem {wide : Bool} {low n : Nat} (hw : w < wordSpan wide) (hpos : 0 < size)
    (hsize : size < wordSpan wide) (h : scale wide low size w source = some (n, rest)) :
    low ≤ n ∧ n < low + size := by
  have hscaled := scaled_lt hw hpos
  unfold scale at h
  rw [if_neg (Nat.ne_of_gt hpos), Nat.mod_eq_of_lt (Nat.sub_lt_of_pos_le hpos (Nat.le_of_lt hsize))] at h
  split at h
  · have hroom := scaled_succ_lt hw hsize ‹_›
    obtain ⟨w', between, -, h⟩ := bind_eq_some_iff.mp h
    have hn := (pure_eq_some_iff.mp h).1
    generalize w * size / wordSpan wide = scaled at hscaled hroom hn
    split at hn <;> omega
  · have hn := (pure_eq_some_iff.mp h).1
    generalize w * size / wordSpan wide = scaled at hscaled hn
    omega

/-- **A number of a range** lies in it, for ranges within the words of 64 bits. -/
theorem between_mem {low high n : Nat} (hle : low ≤ high) (hhigh : high < 1 <<< 64)
    (h : between low high source = some (n, rest)) : low ≤ n ∧ n ≤ high := by
  have hspan : high < wordSpan (decide (1 <<< 32 ≤ high)) := by
    unfold wordSpan
    split <;> simp_all
  rw [between_eq] at h
  obtain ⟨w, between, hw, h⟩ := bind_eq_some_iff.mp h
  have hword := wordOf_lt hw
  have hfits : high - low + 1 ≤ wordSpan (decide (1 <<< 32 ≤ high)) := by omega
  rcases Nat.lt_or_eq_of_le hfits with hsize | hsize
  · rw [Nat.mod_eq_of_lt hsize] at h
    have hmem := scale_mem hword (Nat.succ_pos _) hsize h
    omega
  · -- the range holds all numbers of its word, and the word is taken as it is
    rw [hsize, Nat.mod_self] at h
    have hn := (pure_eq_some_iff.mp h).1
    omega

end Draw

end StimulusBench
