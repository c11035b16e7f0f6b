import StimulusBench.Random.KeyStream

/-!
# `StimulusBench.Random.Source` — sources of random words and draws from them

A draw is a function of a source: it takes the words it needs and leaves the source behind them. A
source is either a key stream, which has no end, or a script, a fixed list of words that stands for
whatever any generator might answer and may run out.

## Contents
- **Sources.** `RandomSource` and its horizon; `Draw`.
- **Words.** `Draw.word32`, `Draw.word64`.
- **Values.** `Draw.coin`, `Draw.byte`, and `Draw.between`, a uniform number of a range.
-/

namespace StimulusBench

/-- Where random words come from. -/
inductive RandomSource
  | script (words : List UInt64)
  | keyStream (stream : KeyStream)
  deriving Repr, DecidableEq

namespace RandomSource

/-- The key stream of a key. -/
def ofKey (key : KeyStream.Key) : RandomSource := .keyStream (.ofKey key)

/-- The key stream of a seed. -/
def ofSeed (seed : UInt64) : RandomSource := .keyStream (.ofSeed seed)

/-- How many words can be taken before the source runs out or its words come again. -/
def horizon : RandomSource → Nat
  | .script words => words.length
  | .keyStream _ => KeyStream.period

end RandomSource

/-- A value drawn from a source, with the source behind it. There is none when a script runs out, or
    when a draw that is repeated until it fits never does. -/
abbrev Draw (α : Type) := StateT RandomSource Option α

namespace Draw

/-- A draw that gives nothing. -/
def exhausted {α : Type} : Draw α := fun _ => none

/-- A word of 32 bits. A script gives the low half of its next word. -/
def word32 : Draw UInt32 := fun source =>
  match source with
  | .script [] => none
  | .script (w :: ws) => some (w.toUInt32, .script ws)
  | .keyStream stream =>
    let (w, rest) := stream.next
    some (w, .keyStream rest)

/-- A word of 64 bits. A key stream gives two words, the low half first. -/
def word64 : Draw UInt64 := fun source =>
  match source with
  | .script [] => none
  | .script (w :: ws) => some (w, .script ws)
  | .keyStream stream =>
    let (low, rest) := stream.next
    let (high, rest) := rest.next
    some ((high.toUInt64 <<< 32) ||| low.toUInt64, .keyStream rest)

/-- A fair coin. -/
def coin : Draw Bool := do
  let w ← word64
  return w.toNat < 1 <<< 63

/-- A uniform byte. -/
def byte : Draw UInt8 := do
  let w ← word32
  return w.toUInt8

/-- A word of 32 or of 64 bits as a number. -/
def wordOf (wide : Bool) : Draw Nat :=
  if wide then do return (← word64).toNat else do return (← word32).toNat

/-- A number from `low` to `high`, both included, by scaling a word to the size of the range; a
    second word decides when the first falls where scaling would favour some numbers. Ranges up to
    `2 ^ 32 - 1` take words of 32 bits, others words of 64 bits. A range that holds all numbers of
    its word takes the word as it is. -/
def between (low high : Nat) : Draw Nat := do
  let wide := decide (1 <<< 32 ≤ high)
  let span := if wide then 1 <<< 64 else 1 <<< 32
  let size := (high - low + 1) % span
  let w ← wordOf wide
  if size = 0 then return w
  let product := w * size
  let result := product / span
  let fraction := product % span
  if (span - size) % span < fraction then
    let w' ← wordOf wide
    let carry := if span ≤ fraction + w' * size / span then 1 else 0
    return low + result + carry
  else return low + result

end Draw

end StimulusBench
