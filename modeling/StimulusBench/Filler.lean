import StimulusBench.Random.Source
import StimulusBench.Record

/-!
# `StimulusBench.Filler` — stimulus that leaves the warning output alone

Two fragments are derived from the reference pair: **A**, the accepted sequence followed by a restart
marker (a start-marked sentinel write), and **B**, one unmarked sentinel write. A run is any
concatenation of the two; replayed while no attempt is in progress it never changes the warning
output.

## Contents
- **Fragments.** `FragmentKind`, `Filler` and its fragments.
- **Runs.** `Run`, its records, and `Run.rebatched`, which encodes the payloads of each chunk anew.
- **Drawing.** `Filler.drawRun` draws how many fragments, then each of them.
-/

namespace StimulusBench

/-! ## Fragments -/

/-- Which fragment a chunk is a copy of. -/
inductive FragmentKind
  | A
  | B
  deriving Repr, DecidableEq

/-- The letter of a kind. -/
def FragmentKind.letter : FragmentKind → String
  | .A => "A"
  | .B => "B"

/-- The two fragments of a reference pair and how many fragments a run may have. -/
structure Filler where
  a : List Record
  b : List Record
  maxDraws : Nat
  deriving Repr, DecidableEq

namespace Filler

/-- The bound on the fragments of a run unless configured otherwise. -/
def defaultMaxDraws : Nat := 10

/-- The fragments of a reference pair. A run has at least one fragment, so a bound below one counts
    as one. -/
def ofReferences (refs : References) (maxDraws : Nat) : Filler where
  a := encode refs.correct.toList ++ [Record.data refs.sentinelValue true]
  b := [Record.data refs.sentinelValue false]
  maxDraws := max maxDraws 1

/-- The fragment of a kind. -/
def fragment (filler : Filler) : FragmentKind → List Record
  | .A => filler.a
  | .B => filler.b

end Filler

/-! ## Runs -/

/-- A copy of a fragment inside a run. -/
structure Chunk where
  kind : FragmentKind
  records : List Record
  deriving Repr, DecidableEq

/-- A concatenation of fragments. -/
structure Run where
  chunks : List Chunk
  deriving Repr, DecidableEq

/-- The run of the given kinds. -/
def Filler.run (filler : Filler) (kinds : List FragmentKind) : Run :=
  ⟨kinds.map fun kind => ⟨kind, filler.fragment kind⟩⟩

namespace Run

/-- The kinds of the chunks. -/
def kinds (run : Run) : List FragmentKind := run.chunks.map (·.kind)

/-- The records of the chunks, one chunk after the other. -/
def records (run : Run) : List Record := run.chunks.flatMap (·.records)

/-- How many records the chunks hold. -/
def length (run : Run) : Nat := run.chunks.foldl (fun n chunk => n + chunk.records.length) 0

/-- Each chunk's payloads encoded as a sequence of their own: an A chunk loses its restart marker, a
    B chunk gains a start marker. -/
def rebatched (run : Run) : List Record :=
  run.chunks.flatMap fun chunk => encode (payloads chunk.records)

/-- The re-encoded chunks with the same assertion on every record. -/
def rebatchedTagged (run : Run) (a : Assertion) : List Record := tagAll run.rebatched a

end Run

/-! ## Drawing -/

/-- One of the two kinds, each with probability one half. -/
def FragmentKind.draw : Draw FragmentKind := do
  let pick ← Draw.between 0 1
  return if pick = 0 then .A else .B

/-- So many kinds, put in front of the kinds drawn before, the last one first. -/
def FragmentKind.drawMany : Nat → List FragmentKind → Draw (List FragmentKind)
  | 0, drawn => return drawn.reverse
  | n + 1, drawn => do
    let kind ← FragmentKind.draw
    drawMany n (kind :: drawn)

/-- A run of at least one and at most `maxDraws` fragments, each of either kind. -/
def Filler.drawRun (filler : Filler) : Draw Run := do
  let count ← Draw.between 1 filler.maxDraws
  return filler.run (← FragmentKind.drawMany count [])

end StimulusBench
