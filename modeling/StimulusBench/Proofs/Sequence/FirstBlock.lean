import StimulusBench.Proofs.Random.KeyStream

/-!
# `StimulusBench.Proofs.Sequence.FirstBlock` — the loop that draws a mask

A mask is drawn by flipping five coins, again and again until one of them comes up. What the loop does can
be said about the coins alone: they are cut into blocks of five, and the first block with a coin that came
up is the mask. The bound on the tries that `Mask.draw` sets never counts. A script has run out behind its
horizon, and the coins of a key stream come again there, so that the first block lies in front of it
(`FirstBlock.le_horizon`) and the loop obeys its own equation (`Mask.draw_eq`).

## Contents
- **Flips.** What a mask without a position is, and which coins a flip takes.
- **Blocks.** `FirstBlock`, the first block with a coin that came up, and where it lies.
- **The loop.** `Mask.draw_eq_some_iff`, `Mask.draw_eq` and `Mask.exists_draw_iff`.
-/

namespace StimulusBench

variable {source rest : RandomSource} {mask : Mask}

/-! ## Flips -/

namespace Mask

theorem isEmpty_eq_false_iff : mask.isEmpty = false ↔ true ∈ mask.selected.toList := by
  rw [isEmpty, Bool.not_eq_false', Vector.any_eq_true']
  simp

theorem isEmpty_iff : mask.isEmpty = true ↔ mask.selected.toList = List.replicate sequenceLength false := by
  rw [← Bool.not_eq_false, isEmpty_eq_false_iff, List.eq_replicate_iff]
  constructor
  · intro h
    refine ⟨Vector.length_toList, fun b hb => ?_⟩
    cases b with
    | false => rfl
    | true => exact absurd hb h
  · rintro ⟨-, hall⟩ hmem
    exact absurd (hall true hmem) (by decide)

/-- **A flip** takes five coins, one for each position. -/
theorem flip_eq_some_iff :
    flip source = some (mask, rest) ↔
      Draw.times Draw.coin sequenceLength source = some (mask.selected.toList, rest) := by
  rw [← Draw.five_eq_some_iff, flip, Draw.bind_eq_some_iff]
  constructor
  · rintro ⟨selected, between, hfive, h⟩
    obtain ⟨rfl, rfl⟩ := Draw.pure_eq_some_iff.mp h
    exact hfive
  · intro hfive
    exact ⟨mask.selected, rest, hfive, Draw.pure_eq_some_iff.mpr ⟨rfl, rfl⟩⟩

theorem exists_flip {coins : List Bool}
    (h : Draw.times Draw.coin sequenceLength source = some (coins, rest)) :
    ∃ flipped, flip source = some (flipped, rest) ∧ flipped.selected.toList = coins := by
  have hlen : coins.length = sequenceLength := Draw.length_of_times h
  refine ⟨⟨⟨coins.toArray, hlen⟩⟩, flip_eq_some_iff.mpr h, rfl⟩

end Mask

/-! ## Blocks -/

/-- **The first block with a coin that came up**: the source gives `k` blocks of five coins none of which
    came up, then a block that is the mask, and the rest of the source is what is left behind it. -/
structure FirstBlock (source : RandomSource) (k : Nat) (mask : Mask) (rest : RandomSource) : Prop where
  isEmpty : mask.isEmpty = false
  coins : Draw.times Draw.coin (sequenceLength * (k + 1)) source =
    some (List.replicate (sequenceLength * k) false ++ mask.selected.toList, rest)

theorem mul_succ_block (k : Nat) :
    sequenceLength * (k + 1 + 1) = sequenceLength + sequenceLength * (k + 1) := by
  rw [Nat.mul_succ, Nat.add_comm]

theorem replicate_block (k : Nat) :
    List.replicate sequenceLength false ++ List.replicate (sequenceLength * k) false =
      List.replicate (sequenceLength * (k + 1)) false := by
  rw [List.replicate_append_replicate, Nat.mul_succ, Nat.add_comm]

/-- The block in front is the mask. -/
theorem firstBlock_zero_iff :
    FirstBlock source 0 mask rest ↔ mask.isEmpty = false ∧ Mask.flip source = some (mask, rest) := by
  rw [Mask.flip_eq_some_iff]
  exact ⟨fun h => ⟨h.isEmpty, h.coins⟩, fun h => ⟨h.1, h.2⟩⟩

/-- A block in front in which no coin came up. -/
theorem firstBlock_succ_iff {k : Nat} :
    FirstBlock source (k + 1) mask rest ↔
      ∃ flipped between, Mask.flip source = some (flipped, between) ∧ flipped.isEmpty = true ∧
        FirstBlock between k mask rest := by
  constructor
  · rintro ⟨hsome, hcoins⟩
    rw [mul_succ_block, Draw.times_add_eq_some_iff] at hcoins
    obtain ⟨first, between, hfirst, others, hothers, happend⟩ := hcoins
    obtain ⟨flipped, hflip, rfl⟩ := Mask.exists_flip hfirst
    rw [← replicate_block, List.append_assoc] at happend
    obtain ⟨hnone, rfl⟩ := List.append_inj happend (by simp)
    exact ⟨flipped, between, hflip, Mask.isEmpty_iff.mpr hnone.symm, hsome, hothers⟩
  · rintro ⟨flipped, between, hflip, hnone, hsome, hcoins⟩
    refine ⟨hsome, ?_⟩
    have hfirst := Mask.flip_eq_some_iff.mp hflip
    rw [Mask.isEmpty_iff.mp hnone] at hfirst
    rw [mul_succ_block, Draw.times_add_eq_some_iff]
    refine ⟨_, between, hfirst, _, hcoins, ?_⟩
    rw [← replicate_block, List.append_assoc]

/-- The coins in front of the first block of a key stream, and one of the block. -/
theorem FirstBlock.coinAt {s : KeyStream} {k : Nat} (h : FirstBlock (.keyStream s) k mask rest) :
    (∀ i < sequenceLength * k, s.coinAt i = false) ∧
      ∃ j < sequenceLength, s.coinAt (sequenceLength * k + j) = true := by
  have hcoins := h.coins
  rw [Draw.times_coin_keyStream, Nat.mul_succ, List.range_add, List.map_append, List.map_map] at hcoins
  obtain ⟨hdown, hblock⟩ := List.append_inj (congrArg Prod.fst (Option.some.inj hcoins)) (by simp)
  constructor
  · intro i hi
    exact (List.eq_replicate_iff.mp hdown).2 _ (List.mem_map_of_mem (List.mem_range.mpr hi))
  · have hup := Mask.isEmpty_eq_false_iff.mp h.isEmpty
    rw [← hblock] at hup
    obtain ⟨j, hj, hcoin⟩ := List.mem_map.mp hup
    exact ⟨j, List.mem_range.mp hj, hcoin⟩

/-- **The first block lies in front of the horizon.** A script has run out behind it; a coin of a key stream
    behind it is one of those in front of it, none of which came up. -/
theorem FirstBlock.le_horizon {k : Nat} (h : FirstBlock source k mask rest) : k ≤ source.horizon := by
  cases source with
  | script words =>
      have hcoins := h.coins
      rw [Draw.times_coin_script] at hcoins
      split at hcoins
      next hle =>
        simp only [sequenceLength] at hle
        show k ≤ words.length
        omega
      next => cases hcoins
  | keyStream s =>
      refine Nat.le_of_not_lt fun hfar => ?_
      have hbehind : KeyStream.period < k := hfar
      have hblock : sequenceLength ≤ KeyStream.period := by decide
      obtain ⟨hdown, j, hj, hup⟩ := h.coinAt
      simp only [sequenceLength] at hblock hdown hj hup
      -- the coin that came up, one period before
      have hbefore := hdown (5 * k + j - KeyStream.period) (by omega)
      rw [← KeyStream.coinAt_add_period, Nat.sub_add_cancel (by omega), hup] at hbefore
      cases hbefore

/-! ## The loop -/

namespace Mask

/-- **So many tries** find the first block if it is one of them. -/
theorem drawWithin_eq_some_iff {tries : Nat} :
    drawWithin tries source = some (mask, rest) ↔ ∃ k < tries, FirstBlock source k mask rest := by
  induction tries generalizing source with
  | zero =>
      constructor
      · intro h
        cases h
      · rintro ⟨k, hk, -⟩
        exact absurd hk (Nat.not_lt_zero k)
  | succ tries ih =>
      rw [drawWithin, Draw.bind_eq_some_iff]
      constructor
      · rintro ⟨flipped, between, hflip, h⟩
        split at h
        next hnone =>
          obtain ⟨k, hk, hblock⟩ := ih.mp h
          exact ⟨k + 1, Nat.succ_lt_succ hk, firstBlock_succ_iff.mpr ⟨flipped, between, hflip, hnone, hblock⟩⟩
        next hsome =>
          obtain ⟨rfl, rfl⟩ := Draw.pure_eq_some_iff.mp h
          exact ⟨0, Nat.succ_pos tries, firstBlock_zero_iff.mpr ⟨Bool.eq_false_iff.mpr hsome, hflip⟩⟩
      · rintro ⟨k, hk, hblock⟩
        cases k with
        | zero =>
            obtain ⟨hsome, hflip⟩ := firstBlock_zero_iff.mp hblock
            refine ⟨mask, rest, hflip, ?_⟩
            rw [hsome]
            rfl
        | succ k =>
            obtain ⟨flipped, between, hflip, hnone, hblock⟩ := firstBlock_succ_iff.mp hblock
            refine ⟨flipped, between, hflip, ?_⟩
            rw [if_pos hnone]
            exact ih.mpr ⟨k, Nat.lt_of_succ_lt_succ hk, hblock⟩

/-- **The drawn mask** is the first block of five coins with one that came up, and the coins up to the end
    of that block are taken. -/
theorem draw_eq_some_iff : draw source = some (mask, rest) ↔ ∃ k, FirstBlock source k mask rest := by
  rw [draw, drawWithin_eq_some_iff]
  constructor
  · rintro ⟨k, -, hblock⟩
    exact ⟨k, hblock⟩
  · rintro ⟨k, hblock⟩
    exact ⟨k, Nat.lt_succ_of_le hblock.le_horizon, hblock⟩

theorem draw_of_flip (h : flip source = some (mask, rest)) (hsome : mask.isEmpty = false) :
    draw source = some (mask, rest) :=
  draw_eq_some_iff.mpr ⟨0, firstBlock_zero_iff.mpr ⟨hsome, h⟩⟩

theorem draw_of_flip_empty (h : flip source = some (mask, rest)) (hnone : mask.isEmpty = true) :
    draw source = draw rest := by
  refine Option.ext fun ⟨drawn, behind⟩ => ?_
  rw [draw_eq_some_iff, draw_eq_some_iff]
  constructor
  · rintro ⟨k, hblock⟩
    cases k with
    | zero =>
        obtain ⟨hsome, hflip⟩ := firstBlock_zero_iff.mp hblock
        cases h.symm.trans hflip
        cases hnone.symm.trans hsome
    | succ k =>
        obtain ⟨flipped, between, hflip, -, hblock⟩ := firstBlock_succ_iff.mp hblock
        cases h.symm.trans hflip
        exact ⟨k, hblock⟩
  · rintro ⟨k, hblock⟩
    exact ⟨k + 1, firstBlock_succ_iff.mpr ⟨mask, rest, h, hnone, hblock⟩⟩

theorem draw_of_flip_none (h : flip source = none) : draw source = none := by
  rw [draw, drawWithin, Draw.bind_apply, h]
  rfl

/-- **The loop**: flip, and if no coin came up, start over. -/
theorem draw_eq : draw = do
    let flipped ← flip
    if flipped.isEmpty then draw else return flipped := by
  funext source
  rw [Draw.bind_apply]
  cases hflip : flip source with
  | none => exact draw_of_flip_none hflip
  | some flipped =>
      rw [Option.bind_some]
      cases hempty : flipped.1.isEmpty with
      | true => exact draw_of_flip_empty hflip hempty
      | false => exact draw_of_flip hflip hempty

/-- **A mask is drawn** exactly if some block of five coins has one that came up before the source runs
    out. -/
theorem exists_draw_iff :
    (∃ mask rest, draw source = some (mask, rest)) ↔
      ∃ k coins rest, Draw.times Draw.coin (sequenceLength * (k + 1)) source = some (coins, rest) ∧
        true ∈ coins.drop (sequenceLength * k) := by
  constructor
  · rintro ⟨mask, rest, h⟩
    obtain ⟨k, hk⟩ := draw_eq_some_iff.mp h
    refine ⟨k, _, rest, hk.coins, ?_⟩
    rw [List.drop_left' List.length_replicate]
    exact isEmpty_eq_false_iff.mp hk.isEmpty
  · rintro ⟨k, coins, rest, hcoins, hup⟩
    -- among the blocks up to this one the first with a coin that came up is drawn
    induction k generalizing source coins with
    | zero =>
        obtain ⟨flipped, hflip, rfl⟩ := exists_flip hcoins
        exact ⟨flipped, rest, draw_of_flip hflip (isEmpty_eq_false_iff.mpr hup)⟩
    | succ k ih =>
        rw [mul_succ_block, Draw.times_add_eq_some_iff] at hcoins
        obtain ⟨first, between, hfirst, others, hothers, rfl⟩ := hcoins
        obtain ⟨flipped, hflip, rfl⟩ := exists_flip hfirst
        cases hempty : flipped.isEmpty with
        | false => exact ⟨flipped, between, draw_of_flip hflip hempty⟩
        | true =>
            rw [draw_of_flip_empty hflip hempty]
            refine ih others hothers ?_
            rwa [Nat.mul_succ, Nat.add_comm, ← List.drop_drop,
              List.drop_left' Vector.length_toList] at hup

/-- A coin that comes up lies in the block that its number says. -/
theorem mem_block_of_coin {coins : Nat → Bool} {i : Nat} (hi : coins i = true) :
    true ∈ ((List.range (sequenceLength * (i / sequenceLength + 1))).map coins).drop
      (sequenceLength * (i / sequenceLength)) := by
  have hfront : sequenceLength * (i / sequenceLength) + i % sequenceLength = i := Nat.div_add_mod _ _
  have hbehind : i < sequenceLength * (i / sequenceLength + 1) := by
    simp only [sequenceLength]
    omega
  apply List.mem_of_getElem? (i := i % sequenceLength)
  rw [List.getElem?_drop, hfront, List.getElem?_map, List.getElem?_range hbehind, Option.map_some, hi]

/-- **A key stream gives a mask** if any of its coins comes up, and goes on as a key stream. -/
theorem exists_draw_keyStream {s : KeyStream} {i : Nat} (hi : s.coinAt i = true) :
    ∃ mask t, draw (.keyStream s) = some (mask, .keyStream t) := by
  obtain ⟨mask, rest, hdrawn⟩ := exists_draw_iff.mpr
    ⟨i / sequenceLength, _, _, Draw.times_coin_keyStream _ s, mem_block_of_coin hi⟩
  obtain ⟨k, hblock⟩ := draw_eq_some_iff.mp hdrawn
  have hcoins := hblock.coins
  rw [Draw.times_coin_keyStream] at hcoins
  cases congrArg Prod.snd (Option.some.inj hcoins)
  exact ⟨mask, _, hdrawn⟩

end Mask

end StimulusBench
