/-!
# `StimulusBench.Sequence.Basic` — sequences of five values and the reference pair

The recognizer is fed one byte at a time and looks for one sequence of five bytes. Everything the
library generates is derived from a pair of reference sequences: the one the recognizer accepts, and
a sentinel that is wrong at every position.

## Contents
- **Sequences.** `Value`, `Sequence`.
- **References.** `ReferencePair` is all that the recognizer is given; `References` carries the proof
  that no sentinel value occurs in the accepted sequence, which `References.ofSequences` checks, and
  it reports the first `Collision`.
-/

namespace StimulusBench

/-- One input value on the data channel of the recognizer. -/
abbrev Value := UInt8

/-- Number of values in a sequence. -/
abbrev sequenceLength : Nat := 5

/-- Five values for the recognizer. -/
abbrev Sequence := Vector Value sequenceLength

/-- A sentinel value and the first position of the accepted sequence that holds it. -/
structure Collision where
  value : Value
  position : Nat
  deriving Repr, DecidableEq

/-- An accepted sequence and a sentinel, however the two relate. -/
structure ReferencePair where
  correct : Sequence
  sentinel : Sequence

/-- Whether values are exactly the accepted sequence. -/
def ReferencePair.isCorrect (refs : ReferencePair) (values : List Value) : Bool :=
  values == refs.correct.toList

/-- The accepted sequence and a sentinel none of whose values occurs in it. -/
structure References extends ReferencePair where
  /-- A sentinel write can never be mistaken for a good value. -/
  disjoint : ∀ v ∈ sentinel, v ∉ correct

instance : Coe References ReferencePair := ⟨References.toReferencePair⟩

namespace References

/-- The first sentinel value that occurs in the accepted sequence, with its first position there. -/
def collision? (correct sentinel : Sequence) : Option Collision :=
  sentinel.toList.findSome? fun v =>
    (correct.toList.findIdx? (· == v)).map fun position => ⟨v, position⟩

/-- Without a collision no sentinel value occurs in the accepted sequence. -/
theorem disjoint_of_collision?_eq_none {correct sentinel : Sequence}
    (h : collision? correct sentinel = none) : ∀ v ∈ sentinel, v ∉ correct := by
  intro v hv hc
  have hn := List.findSome?_eq_none_iff.1 h v (Vector.mem_toList_iff.2 hv)
  rw [Option.map_eq_none_iff, List.findIdx?_eq_none_iff] at hn
  have := hn v (Vector.mem_toList_iff.2 hc)
  simp at this

/-- The reference pair of two sequences, or the first collision between them. -/
def ofSequences (correct sentinel : Sequence) : Except Collision References :=
  match h : collision? correct sentinel with
  | none => .ok ⟨⟨correct, sentinel⟩, disjoint_of_collision?_eq_none h⟩
  | some c => .error c

/-- The reference pair whose sentinel repeats one value. -/
def ofValue (correct : Sequence) (sentinel : Value) : Except Collision References :=
  ofSequences correct (Vector.replicate sequenceLength sentinel)

/-- The accepted sequence unless configured otherwise. -/
def defaultCorrect : Sequence := #v[36, 19, 56, 101, 73]

/-- The value of the default sentinel. -/
def defaultSentinel : Value := 255

/-- The reference pair unless configured otherwise. -/
def default : References :=
  ⟨⟨defaultCorrect, Vector.replicate sequenceLength defaultSentinel⟩,
    disjoint_of_collision?_eq_none (by decide)⟩

instance : Inhabited References := ⟨default⟩

/-- The value of restart markers and filler writes: the first of the sentinel. -/
def sentinelValue (refs : References) : Value := refs.sentinel[0]

end References

end StimulusBench
