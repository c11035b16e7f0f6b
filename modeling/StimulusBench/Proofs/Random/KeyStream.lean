import StimulusBench.Proofs.Random.Repeated

/-!
# `StimulusBench.Proofs.Random.KeyStream` — a key stream comes again

A key stream gives a word whenever it is asked for one. Block after block is computed from a counter that
wraps around, so that behind `2 ^ 64` blocks the stream is where it was, whatever was taken of the block
that was begun. Each of its coins therefore comes again.

## Contents
- **Words.** `KeyStream.skip`, the stream behind some words; `KeyStream.skip_period`.
- **Coins.** `KeyStream.coinAt`, the coins of a stream, and `Draw.times_coin_keyStream`.
-/

namespace StimulusBench

namespace KeyStream

/-! ## Words -/

/-- The stream behind so many words. -/
def skip (s : KeyStream) : Nat → KeyStream
  | 0 => s
  | n + 1 => s.next.2.skip n

theorem skip_add (s : KeyStream) (m n : Nat) : s.skip (m + n) = (s.skip m).skip n := by
  induction m generalizing s with
  | zero => rw [Nat.zero_add, skip]
  | succ m ih => rw [Nat.succ_add, skip, skip, ih]

/-- **Words of the block that was begun** are taken from the front. -/
theorem skip_taken {s : KeyStream} {taken rest : List UInt32} (h : s.pending = taken ++ rest) :
    (s.skip taken.length).key = s.key ∧ (s.skip taken.length).nextBlock = s.nextBlock ∧
      (s.skip taken.length).pending = rest := by
  induction taken generalizing s with
  | nil => exact ⟨rfl, rfl, h⟩
  | cons w taken ih =>
      obtain ⟨key, nextBlock, pending, hsuffix⟩ := s
      subst h
      exact ih rfl

/-- The stream in front of a block. -/
def atBlock (key : Key) (counter : UInt64) : KeyStream := ⟨key, counter, [], List.nil_suffix⟩

theorem length_tail_block (key : Key) (counter : UInt64) : (block key counter).toList.tail.length = 15 := by
  rw [List.length_tail, Vector.length_toList]

/-- **Inside a block**, which the stream is in unless none of it was taken. -/
theorem skip_atBlock (s : KeyStream) :
    (atBlock s.key (s.nextBlock - 1)).skip (16 - s.pending.length) = s := by
  obtain ⟨taken, htaken⟩ := s.pending_suffix
  have hlength : taken.length + s.pending.length = 15 := by
    rw [← length_tail_block s.key (s.nextBlock - 1), ← htaken, List.length_append]
  obtain ⟨hkey, hnext, hpending⟩ := skip_taken (s := (atBlock s.key (s.nextBlock - 1)).next.2) htaken.symm
  have hwords : 16 - s.pending.length = taken.length + 1 := by omega
  rw [hwords, skip]
  exact KeyStream.ext hkey (hnext.trans (UInt64.sub_add_cancel _ _)) hpending

theorem skip_block (key : Key) (counter : UInt64) :
    (atBlock key counter).skip 16 = atBlock key (counter + 1) := by
  have hbehind := skip_atBlock (atBlock key (counter + 1))
  rwa [show (atBlock key (counter + 1)).nextBlock - 1 = counter from UInt64.add_sub_cancel _ _] at hbehind

theorem skip_blocks (key : Key) (counter : UInt64) (n : Nat) :
    (atBlock key counter).skip (16 * n) = atBlock key (counter + UInt64.ofNat n) := by
  induction n generalizing counter with
  | zero =>
      rw [show UInt64.ofNat 0 = 0 from rfl, UInt64.add_zero]
      rfl
  | succ n ih =>
      rw [Nat.mul_succ, Nat.add_comm, skip_add, skip_block, ih, UInt64.add_assoc, UInt64.ofNat_add,
        UInt64.add_comm 1]
      rfl

/-- **The counter wraps around**: behind so many words as there are in all blocks a stream is where it was. -/
theorem skip_period (s : KeyStream) : s.skip period = s := by
  have hwraps : UInt64.ofNat (1 <<< 64) = 0 := by decide
  have hblock : (atBlock s.key (s.nextBlock - 1)).skip period = atBlock s.key (s.nextBlock - 1) := by
    rw [period, skip_blocks, hwraps, UInt64.add_zero]
  calc s.skip period
      = ((atBlock s.key (s.nextBlock - 1)).skip (16 - s.pending.length)).skip period := by rw [skip_atBlock]
    _ = ((atBlock s.key (s.nextBlock - 1)).skip period).skip (16 - s.pending.length) := by
        rw [← skip_add, Nat.add_comm, skip_add]
    _ = s := by rw [hblock, skip_atBlock]

/-! ## Coins -/

/-- The coin that the next two words of a stream are. -/
def coin (s : KeyStream) : Bool :=
  Draw.coinOf ((s.next.2.next.1.toUInt64 <<< 32) ||| s.next.1.toUInt64)

/-- **The coins of a stream**, two words each. -/
def coinAt (s : KeyStream) (i : Nat) : Bool := (s.skip (2 * i)).coin

theorem coinAt_skip (s : KeyStream) (i : Nat) : (s.skip 2).coinAt i = s.coinAt (i + 1) := by
  rw [coinAt, coinAt, ← skip_add, Nat.mul_succ, Nat.add_comm]

/-- **Every coin comes again.** -/
theorem coinAt_add_period (s : KeyStream) (i : Nat) : s.coinAt (i + period) = s.coinAt i := by
  rw [coinAt, coinAt, Nat.mul_add, skip_add, Nat.two_mul period, skip_add, skip_period, skip_period]

end KeyStream

namespace Draw

theorem coin_keyStream (s : KeyStream) :
    Draw.coin (.keyStream s) = some (s.coin, .keyStream (s.skip 2)) := rfl

/-- **A key stream has a coin for every number.** -/
theorem times_coin_keyStream (n : Nat) (s : KeyStream) :
    times Draw.coin n (.keyStream s) =
      some ((List.range n).map s.coinAt, .keyStream (s.skip (2 * n))) := by
  induction n generalizing s with
  | zero => rfl
  | succ n ih =>
      rw [times, bind_apply, coin_keyStream, Option.bind_some, bind_apply, ih, Option.bind_some, pure_apply,
        List.range_succ_eq_map, List.map_cons, List.map_map, ← KeyStream.skip_add, Nat.mul_succ, Nat.add_comm]
      have hcoins : (List.range n).map (s.skip 2).coinAt = (List.range n).map (s.coinAt ∘ Nat.succ) :=
        List.map_congr_left fun i _ => s.coinAt_skip i
      rw [hcoins]
      rfl

end Draw

end StimulusBench
