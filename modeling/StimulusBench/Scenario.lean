import StimulusBench.Filler

/-!
# `StimulusBench.Scenario` — scenarios that drive the recognizer to an outcome

| scenario         | what it is made of                                                    |
|------------------|-----------------------------------------------------------------------|
| `go_to_warning1` | three wrong attempts, then filler tagged with a raised warning        |
| `go_to_warning2` | the accepted values with a misplaced start marker, then the same      |
|                  | filler twice, first tagged with a raised warning and then without tag |
| `reset`          | the reset pulse                                                       |

## Contents
- **Start markers.** `overrideStart` takes the first start marker away and sets a later one.
- **Scenarios.** `Scenario` holds what was drawn for a scenario; `Scenario.records` composes it.
- **Drawing.** `Composer` draws the scenarios of a reference pair.
-/

namespace StimulusBench

/-! ## Start markers -/

/-- The records with the marker at a position set. -/
def markStart (position : Nat) (records : List Record) : List Record :=
  records.modify position (·.withStart true)

/-- The records without their first start marker, and with one at `index` instead. The index is
    moved into the range from 1 to the last record; a single record only loses its marker. -/
def overrideStart (records : List Record) (index : Nat) : List Record :=
  let cleared := records.modify 0 (·.withStart false)
  if 1 < records.length then markStart (min (max index 1) (records.length - 1)) cleared
  else cleared

/-! ## Scenarios -/

/-- How many wrong attempts raise the warning. -/
def warningAttempts : Nat := 3

/-- A scenario: its kind and what was drawn for it. -/
inductive Scenario
  /-- Wrong attempts until the warning is raised, then filler. -/
  | lockout (filler : Run)
  /-- The accepted values with the start marker at an index, then filler. -/
  | misplacedStart (index : Nat) (filler : Run)
  /-- The reset pulse. -/
  | reset
  deriving Repr, DecidableEq

namespace Scenario

/-- The name of a scenario. -/
def name : Scenario → String
  | .lockout _ => "go_to_warning1"
  | .misplacedStart .. => "go_to_warning2"
  | .reset => "reset"

/-- The records of a scenario under a reference pair. -/
def records (refs : References) : Scenario → List Record
  | .lockout filler =>
    (List.replicate warningAttempts (encode refs.sentinel.toList)).flatten
      ++ filler.rebatchedTagged .warned
  | .misplacedStart index filler =>
    overrideStart (encode refs.correct.toList) index
      ++ filler.rebatchedTagged .warned ++ filler.rebatched
  | .reset => [Record.reset]

end Scenario

/-! ## Drawing -/

/-- A reference pair and the filler that its scenarios draw from. -/
structure Composer where
  references : References
  filler : Filler

namespace Composer

/-- The composer of a reference pair whose runs have at most `maxDraws` fragments. -/
def ofReferences (refs : References) (maxDraws : Nat) : Composer :=
  ⟨refs, .ofReferences refs maxDraws⟩

/-- Draws the scenario of three wrong attempts. -/
def drawLockout (composer : Composer) : Draw Scenario := do
  return .lockout (← composer.filler.drawRun)

/-- Draws the scenario with a start marker at the given index. -/
def drawMisplacedStartAt (composer : Composer) (index : Nat) : Draw Scenario := do
  return .misplacedStart index (← composer.filler.drawRun)

/-- Draws the index of the start marker first, then the rest of its scenario. -/
def drawMisplacedStart (composer : Composer) : Draw Scenario := do
  let index ← Draw.between 1 (sequenceLength - 1)
  composer.drawMisplacedStartAt index

end Composer

end StimulusBench
