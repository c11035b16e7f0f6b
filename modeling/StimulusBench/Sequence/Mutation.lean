import StimulusBench.Random.Source
import StimulusBench.Sequence.Basic

/-!
# `StimulusBench.Sequence.Mutation` — masks, corruption and noise

A mutated sequence is either the accepted one with the sentinel's value put in at some positions, or
five uniform values.

## Contents
- **Masks.** `Mask` selects positions, `Mask.select?` one more; `Mask.ofPositions?` and `Mask.positions`
  convert.
- **Corruption.** `References.corrupt` takes the sentinel's value at every selected position.
- **Drawing.** `Mask.draw` flips one coin per position, again until one is set; `Mutation.draw`
  chooses between corruption and noise.
-/

namespace StimulusBench

/-! ## Masks -/

/-- Positions of a sequence selected for corruption. -/
structure Mask where
  selected : Vector Bool sequenceLength
  deriving Repr, DecidableEq

namespace Mask

/-- Whether a position is selected; positions past the end are not. -/
def contains (mask : Mask) (position : Nat) : Bool :=
  mask.selected[position]?.getD false

/-- The mask that selects no position. -/
def empty : Mask := ⟨Vector.replicate sequenceLength false⟩

/-- The mask with one more position selected; none if the position is out of range. -/
def select? (mask : Mask) (position : Nat) : Option Mask :=
  if h : position < sequenceLength then some ⟨mask.selected.set position true⟩ else none

/-- The mask of the given positions, selected one after the other; none if one of them is out of
    range. -/
def ofPositions? (positions : List Nat) : Option Mask := positions.foldlM select? empty

/-- The selected positions in ascending order. -/
def positions (mask : Mask) : List Nat :=
  (List.range sequenceLength).filter mask.contains

/-- Whether no position is selected. -/
def isEmpty (mask : Mask) : Bool := !mask.selected.any id

end Mask

/-- The accepted sequence with the sentinel's value at every selected position. -/
def References.corrupt (refs : References) (mask : Mask) : Sequence :=
  Vector.ofFn fun i => if mask.contains i.val then refs.sentinel[i] else refs.correct[i]

/-! ## Mutations -/

/-- How a mutated sequence came about. -/
inductive Mutation
  | partialCorruption (mask : Mask)
  | noise (values : Sequence)
  deriving Repr, DecidableEq

/-- The sequence that a mutation describes. -/
def Mutation.apply (refs : References) : Mutation → Sequence
  | .partialCorruption mask => refs.corrupt mask
  | .noise values => values

/-! ## Drawing -/

/-- Five independent draws, the first position first. -/
def Draw.five {α : Type} (draw : Draw α) : Draw (Vector α sequenceLength) := do
  let a ← draw
  let b ← draw
  let c ← draw
  let d ← draw
  let e ← draw
  return #v[a, b, c, d, e]

/-- One fair coin per position. -/
def Mask.flip : Draw Mask := do
  return ⟨← Draw.five Draw.coin⟩

/-- One fair coin per position, flipped anew at most `tries` times until one of them is set. -/
def Mask.drawWithin : Nat → Draw Mask
  | 0 => Draw.exhausted
  | tries + 1 => do
    let mask ← Mask.flip
    if mask.isEmpty then drawWithin tries else return mask

/-- One fair coin per position, flipped anew until one of them is set. Behind its horizon a source
    has run out or gives the same coins once more, so that more tries than that are of no use. -/
def Mask.draw : Draw Mask := fun source => Mask.drawWithin (source.horizon + 1) source

/-- A mutation: corruption or noise, each with probability one half. Noise may happen to be the
    accepted sequence. -/
def Mutation.draw : Draw Mutation := do
  if ← Draw.coin then return .partialCorruption (← Mask.draw)
  else return .noise (← Draw.five Draw.byte)

end StimulusBench
