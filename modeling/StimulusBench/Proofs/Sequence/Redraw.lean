import StimulusBench.Proofs.Sequence.FirstBlock
import StimulusBench.Proofs.Sequence.Mutation

/-!
# `StimulusBench.Proofs.Sequence.Redraw` — which coins a drawn mask takes

The coins of a source are cut into blocks of five, and the first block with a coin that came up is the mask
that is drawn; exactly the coins up to the end of that block are gone from the source. On a stream without
an end a mask is therefore drawn as soon as any coin comes up.

## Contents
- **Streams without an end.** `Mask.exists_draw_endless_iff`.
- **Mutations.** The coins and bytes of a drawn mutation, and all of it together in `draw_takes_blocks`.
-/

namespace StimulusBench

variable {source rest : RandomSource} {mask : Mask}

/-! ## Streams without an end -/

/-- The first words of a stream without an end, as a script. -/
def RandomSource.firstWords (words : Nat → UInt64) (n : Nat) : RandomSource :=
  .script ((List.range n).map words)

theorem Draw.times_coin_firstWords (words : Nat → UInt64) {m n : Nat} {coins : List Bool}
    (h : Draw.times Draw.coin m (.firstWords words n) = some (coins, rest)) :
    coins = (List.range m).map fun i => Draw.coinOf (words i) := by
  rw [RandomSource.firstWords, Draw.times_coin_script] at h
  split at h
  next hle =>
    rw [List.length_map, List.length_range] at hle
    cases h
    rw [← List.map_take, List.take_range, Nat.min_eq_left hle, List.map_map]
    rfl
  next => cases h

theorem Draw.times_coin_firstWords_self (words : Nat → UInt64) (n : Nat) :
    Draw.times Draw.coin n (.firstWords words n) =
      some ((List.range n).map fun i => Draw.coinOf (words i), .script []) := by
  have hlen : ((List.range n).map words).length = n := by simp
  rw [RandomSource.firstWords, Draw.times_coin_script, if_pos (Nat.le_of_eq hlen.symm),
    List.take_of_length_le (Nat.le_of_eq hlen), List.drop_of_length_le (Nat.le_of_eq hlen), List.map_map]
  rfl

/-- **On a stream without an end** a mask is drawn exactly if any coin at all comes up. -/
theorem Mask.exists_draw_endless_iff (words : Nat → UInt64) :
    (∃ n mask rest, Mask.draw (.firstWords words n) = some (mask, rest)) ↔
      ∃ i, Draw.coinOf (words i) = true := by
  constructor
  · rintro ⟨n, hdrawn⟩
    obtain ⟨k, coins, rest, hcoins, hup⟩ := Mask.exists_draw_iff.mp hdrawn
    rw [Draw.times_coin_firstWords words hcoins] at hup
    obtain ⟨i, -, hi⟩ := List.mem_map.mp (List.mem_of_mem_drop hup)
    exact ⟨i, hi⟩
  · rintro ⟨i, hi⟩
    -- the block in which the coin lies
    refine ⟨sequenceLength * (i / sequenceLength + 1), Mask.exists_draw_iff.mpr ?_⟩
    exact ⟨i / sequenceLength, _, _, Draw.times_coin_firstWords_self words _, Mask.mem_block_of_coin hi⟩

/-! ## Mutations -/

/-- **A drawn corruption** takes a coin that came up, and then the coins of its mask. -/
theorem Mutation.draw_partialCorruption_iff :
    Mutation.draw source = some (.partialCorruption mask, rest) ↔
      ∃ between, Draw.coin source = some (true, between) ∧ ∃ k, FirstBlock between k mask rest := by
  rw [Mutation.draw, Draw.bind_eq_some_iff]
  constructor
  · rintro ⟨corrupts, between, hcoin, h⟩
    split at h
    next hup =>
      obtain ⟨drawn, behind, hdrawn, h⟩ := Draw.bind_eq_some_iff.mp h
      obtain ⟨hmutation, rfl⟩ := Draw.pure_eq_some_iff.mp h
      cases hmutation
      exact ⟨between, hup ▸ hcoin, Mask.draw_eq_some_iff.mp hdrawn⟩
    next =>
      obtain ⟨values, behind, -, h⟩ := Draw.bind_eq_some_iff.mp h
      cases (Draw.pure_eq_some_iff.mp h).1
  · rintro ⟨between, hcoin, hblock⟩
    refine ⟨true, between, hcoin, ?_⟩
    rw [if_pos rfl, Draw.bind_eq_some_iff]
    exact ⟨mask, rest, Mask.draw_eq_some_iff.mpr hblock, Draw.pure_eq_some_iff.mpr ⟨rfl, rfl⟩⟩

/-- **Drawn noise** takes a coin that did not come up, and then five bytes. -/
theorem Mutation.draw_noise_iff {values : Sequence} :
    Mutation.draw source = some (.noise values, rest) ↔
      ∃ between, Draw.coin source = some (false, between) ∧
        Draw.times Draw.byte sequenceLength between = some (values.toList, rest) := by
  rw [Mutation.draw, Draw.bind_eq_some_iff]
  constructor
  · rintro ⟨corrupts, between, hcoin, h⟩
    split at h
    next =>
      obtain ⟨drawn, behind, -, h⟩ := Draw.bind_eq_some_iff.mp h
      cases (Draw.pure_eq_some_iff.mp h).1
    next hdown =>
      obtain ⟨drawn, behind, hdrawn, h⟩ := Draw.bind_eq_some_iff.mp h
      obtain ⟨hmutation, rfl⟩ := Draw.pure_eq_some_iff.mp h
      cases hmutation
      rw [Bool.not_eq_true] at hdown
      exact ⟨between, hdown ▸ hcoin, Draw.five_eq_some_iff.mp hdrawn⟩
  · rintro ⟨between, hcoin, hbytes⟩
    refine ⟨false, between, hcoin, ?_⟩
    rw [if_neg Bool.false_ne_true, Draw.bind_eq_some_iff]
    exact ⟨values, rest, Draw.five_eq_some_iff.mpr hbytes, Draw.pure_eq_some_iff.mpr ⟨rfl, rfl⟩⟩

/-- **Masks and mutations take whole blocks of coins.** A mask is drawn exactly if a block of five coins with
    one that came up is complete before the source runs out, on a stream without an end if any coin comes up;
    the first such block is the mask, and the coins up to its end are taken. A drawn corruption takes one
    coin more, in front, and is never the accepted sequence; drawn noise takes one coin and five bytes. -/
theorem draw_takes_blocks :
    (∀ source,
      ((∃ mask rest, Mask.draw source = some (mask, rest)) ↔
        ∃ k coins rest, Draw.times Draw.coin (sequenceLength * (k + 1)) source = some (coins, rest) ∧
          true ∈ coins.drop (sequenceLength * k)) ∧
      ∀ mask rest, Mask.draw source = some (mask, rest) ↔ ∃ k, FirstBlock source k mask rest) ∧
    (∀ words : Nat → UInt64,
      (∃ n mask rest, Mask.draw (.firstWords words n) = some (mask, rest)) ↔
        ∃ i, Draw.coinOf (words i) = true) ∧
    ∀ source rest,
      (∀ mask, Mutation.draw source = some (.partialCorruption mask, rest) ↔
        ∃ between, Draw.coin source = some (true, between) ∧ ∃ k, FirstBlock between k mask rest) ∧
      (∀ values, Mutation.draw source = some (.noise values, rest) ↔
        ∃ between, Draw.coin source = some (false, between) ∧
          Draw.times Draw.byte sequenceLength between = some (values.toList, rest)) ∧
      ∀ mask, Mutation.draw source = some (.partialCorruption mask, rest) →
        ∀ refs : References, (Mutation.partialCorruption mask).apply refs ≠ refs.correct := by
  refine ⟨fun source => ⟨Mask.exists_draw_iff, fun _ _ => Mask.draw_eq_some_iff⟩,
    Mask.exists_draw_endless_iff, fun source rest => ⟨fun _ => Mutation.draw_partialCorruption_iff,
      fun _ => Mutation.draw_noise_iff, ?_⟩⟩
  intro mask hdrawn refs hcorrect
  have hwrong : refs.isCorrect (refs.corrupt mask).toList = false :=
    refs.isCorrect_corrupt (Mutation.draw_partialCorruption hdrawn)
  rw [show refs.corrupt mask = refs.correct from hcorrect, refs.isCorrect_correct] at hwrong
  cases hwrong

/-- A corruption whose first five coins stay down: the next block is the mask, and one word is left. -/
theorem draw_takes_blocks_secondBlock :
    let tails : UInt64 := 0xffffffffffffffff
    let coins : RandomSource := .script [tails, tails, tails, tails, tails, 0, tails, tails, tails, 0, 7]
    let source : RandomSource :=
      .script [0, tails, tails, tails, tails, tails, 0, tails, tails, tails, 0, 7]
    let mask : Mask := ⟨#v[true, false, false, false, true]⟩
    Draw.coin source = some (true, coins) ∧ FirstBlock coins 1 mask (.script [7]) ∧
      Mask.draw coins = some (mask, .script [7]) ∧
      Mutation.draw source = some (.partialCorruption mask, .script [7]) ∧
      (Mutation.partialCorruption mask).apply .default ≠ References.default.correct := by
  intro tails coins source mask
  have hcoin : Draw.coin source = some (true, coins) := by decide
  have hblock : FirstBlock coins 1 mask (.script [7]) := ⟨by simp [mask, Mask.isEmpty], by decide⟩
  obtain ⟨hmasks, -, hmutations⟩ := draw_takes_blocks
  have hmask : Mask.draw coins = some (mask, .script [7]) := ((hmasks coins).2 mask _).mpr ⟨1, hblock⟩
  obtain ⟨hcorruption, -, hwrong⟩ := hmutations source (.script [7])
  have hdrawn : Mutation.draw source = some (.partialCorruption mask, .script [7]) :=
    (hcorruption mask).mpr ⟨coins, hcoin, 1, hblock⟩
  exact ⟨hcoin, hblock, hmask, hdrawn, hwrong mask hdrawn .default⟩

end StimulusBench
