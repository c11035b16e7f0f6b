import StimulusBench.Scenario
import StimulusBench.Stimulus

/-!
# `StimulusBench.Assembly` — the generated corpus

A generated corpus has four entries: the records of `go_to_warning1` as a group, the reset record,
the records of `go_to_warning2` as a group inside a group, and the reset record again. Whoever reads
it tells the entries apart by position only.

## Contents
- **Assemblies.** `Assembly` holds the two drawn scenarios; `Assembly.corpus` lays them out.
- **Drawing.** `Composer.drawAssembly` draws the scenarios in the order of the entries.
-/

namespace StimulusBench

/-- The scenarios that a generated corpus is made of. -/
structure Assembly where
  lockout : Scenario
  misplacedStart : Scenario
  deriving Repr, DecidableEq

namespace Assembly

/-- The generated corpus under a reference pair. -/
def corpus (refs : References) (assembly : Assembly) : Corpus :=
  ⟨[.ofRecords (assembly.lockout.records refs),
    .record Record.reset,
    .group [.ofRecords (assembly.misplacedStart.records refs)],
    .record Record.reset]⟩

end Assembly

/-- Draws the scenarios of a generated corpus in the order of its entries. -/
def Composer.drawAssembly (composer : Composer) : Draw Assembly := do
  let lockout ← composer.drawLockout
  let misplacedStart ← composer.drawMisplacedStart
  return ⟨lockout, misplacedStart⟩

/-- Draws a generated corpus. -/
def Composer.drawCorpus (composer : Composer) : Draw Corpus := do
  return (← composer.drawAssembly).corpus composer.references

end StimulusBench
