/-!
# `StimulusBench.Random.KeyStream` — the twelve-round ChaCha key stream

A stream of 32-bit words that a key of eight words determines: block after block of sixteen words is
computed from the key and a 64-bit block counter. The counter wraps around, so a stream has no end,
and its words come again after `2 ^ 64` blocks. A seed of 64 bits is stretched to a key.

## Contents
- **Blocks.** `quarterRound`, `doubleRound`, `block`.
- **Seeds.** `seedKey` stretches a seed to a key.
- **Streams.** `KeyStream`, of a key or of a seed; `KeyStream.next` and its period.
-/

namespace StimulusBench

namespace KeyStream

/-- The sixteen words of a block. -/
abbrev Block := Vector UInt32 16

/-- The eight words of a key. -/
abbrev Key := Vector UInt32 8

/-- Rotation of a word to the left. -/
def rotate (x : UInt32) (k : UInt32) : UInt32 := (x <<< k) ||| (x >>> (32 - k))

/-- One quarter round on four words of a block. -/
def quarterRound (a b c d : Fin 16) (s : Block) : Block :=
  let s := s.set a (s[a] + s[b])
  let s := s.set d (rotate (s[d] ^^^ s[a]) 16)
  let s := s.set c (s[c] + s[d])
  let s := s.set b (rotate (s[b] ^^^ s[c]) 12)
  let s := s.set a (s[a] + s[b])
  let s := s.set d (rotate (s[d] ^^^ s[a]) 8)
  let s := s.set c (s[c] + s[d])
  s.set b (rotate (s[b] ^^^ s[c]) 7)

/-- A round on the columns and a round on the diagonals. -/
def doubleRound (s : Block) : Block :=
  s |> quarterRound 0 4 8 12 |> quarterRound 1 5 9 13
    |> quarterRound 2 6 10 14 |> quarterRound 3 7 11 15
    |> quarterRound 0 5 10 15 |> quarterRound 1 6 11 12
    |> quarterRound 2 7 8 13 |> quarterRound 3 4 9 14

/-- The block with the given counter under a key. -/
def block (key : Key) (counter : UInt64) : Block :=
  let start : Block :=
    #v[0x61707865, 0x3320646e, 0x79622d32, 0x6b206574,
      key[0], key[1], key[2], key[3], key[4], key[5], key[6], key[7],
      counter.toUInt32, (counter >>> 32).toUInt32, 0, 0]
  let mixed := Nat.repeat doubleRound 6 start
  Vector.zipWith (· + ·) mixed start

/-- The next state of the generator that stretches a seed. -/
def seedStep (s : UInt64) : UInt64 := s * 6364136223846793005 + 11634580027462260723

/-- The word that a state of the seed generator stands for. -/
def seedWord (s : UInt64) : UInt32 :=
  let x := (((s >>> 18) ^^^ s) >>> 27).toUInt32
  let r := (s >>> 59).toUInt32
  (x >>> r) ||| (x <<< ((32 - r) % 32))

/-- The key that a seed is stretched to. -/
def seedKey (seed : UInt64) : Key :=
  Vector.ofFn fun i => seedWord (Nat.repeat seedStep (i.val + 1) seed)

end KeyStream

/-- A key, the counter of the next block, and the words of the block before it that are not yet taken. -/
@[ext]
structure KeyStream where
  key : KeyStream.Key
  nextBlock : UInt64
  pending : List UInt32
  pending_suffix : pending <:+ (KeyStream.block key (nextBlock - 1)).toList.tail
  deriving Repr, DecidableEq

namespace KeyStream

/-- The stream of a key, from its first block on. -/
def ofKey (key : Key) : KeyStream := ⟨key, 0, [], List.nil_suffix⟩

/-- The stream that a seed determines. -/
def ofSeed (seed : UInt64) : KeyStream := ofKey (seedKey seed)

theorem tail_suffix_of_succ (key : Key) (counter : UInt64) :
    (block key counter).toList.tail <:+ (block key (counter + 1 - 1)).toList.tail := by
  have same : counter + 1 - 1 = counter := UInt64.add_sub_cancel counter 1
  simp only [same, List.suffix_refl]

/-- The next word and the stream behind it. -/
def next : KeyStream → UInt32 × KeyStream
  | ⟨key, nextBlock, w :: ws, h⟩ => (w, ⟨key, nextBlock, ws, (List.suffix_cons w ws).trans h⟩)
  | ⟨key, nextBlock, [], _⟩ =>
    let words := block key nextBlock
    (words[0], ⟨key, nextBlock + 1, words.toList.tail, tail_suffix_of_succ key nextBlock⟩)

/-- How many words a key has before they come again. -/
def period : Nat := 16 * (1 <<< 64)

end KeyStream

end StimulusBench
