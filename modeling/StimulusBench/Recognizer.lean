import StimulusBench.Record

/-!
# `StimulusBench.Recognizer` — the reference recognizer

The machine that the stimulus is made for, one record per clock cycle:

- a record on any channel but the data channel resets it;
- once the warning is raised every other record is ignored;
- a start-marked write begins an attempt and drops a partial one; an unmarked write extends the
  attempt in progress and is ignored without one;
- the fifth value completes the attempt: a correct one raises the unlock output for that cycle and
  clears the failures, a wrong one counts a failure, and three failures raise the warning.

## Contents
- **State.** `Recognizer` and its start.
- **Steps.** `Recognizer.step` applies one record; `Recognizer.run` a list of them.
-/

namespace StimulusBench

/-- How many failures in a row raise the warning. -/
def lockoutFailures : Nat := 3

/-- Outputs of the recognizer in one cycle. -/
structure Outputs where
  unlock : Bool
  warning : Bool
  deriving Repr, DecidableEq

/-- The assertion that is met by the given outputs. -/
def Outputs.assertion (o : Outputs) : Assertion := ⟨o.unlock, o.warning⟩

/-- The state of the recognizer. -/
structure Recognizer where
  /-- The values collected since the last start marker; a completed attempt stays until then. -/
  attempt : List Value
  /-- Whether an attempt is in progress. -/
  inAttempt : Bool
  /-- Wrong attempts since the last correct one, in a counter of eight bits that saturates. -/
  failures : Nat
  /-- The latched warning output. -/
  warning : Bool
  deriving Repr, DecidableEq

namespace Recognizer

/-- The state after a reset. -/
def fresh : Recognizer := ⟨[], false, 0, false⟩

/-- No attempt is in progress. -/
def isQuiescent (m : Recognizer) : Bool := !m.inAttempt

/-- The outputs of a cycle that leaves the machine in a state. -/
def outputs (m : Recognizer) (unlock : Bool) : Outputs := ⟨unlock, m.warning⟩

/-- One more failure on a counter of eight bits. -/
def countFailure (failures : Nat) : Nat := min (failures + 1) 255

/-- The end of an attempt of five values. -/
def complete (refs : ReferencePair) (m : Recognizer) : Recognizer × Outputs :=
  let m := { m with inAttempt := false }
  if refs.isCorrect m.attempt then
    let m := { m with failures := 0 }
    (m, m.outputs true)
  else
    let failures := countFailure m.failures
    let m := { m with failures, warning := m.warning || decide (lockoutFailures ≤ failures) }
    (m, m.outputs false)

/-- One more value in the attempt in progress. -/
def extend (refs : ReferencePair) (m : Recognizer) (value : Value) : Recognizer × Outputs :=
  let m := { m with attempt := m.attempt ++ [value] }
  if m.attempt.length < sequenceLength then (m, m.outputs false) else complete refs m

/-- Applies one record; the outputs are those after the cycle. -/
def step (refs : ReferencePair) (m : Recognizer) (r : Record) : Recognizer × Outputs :=
  if r.isReset then (fresh, fresh.outputs false)
  else if m.warning then (m, m.outputs false)
  else if r.start then extend refs { m with attempt := [], inAttempt := true } r.value
  else if m.inAttempt then extend refs m r.value
  else (m, m.outputs false)

/-- Applies records one after the other; the outputs are those after each cycle. -/
def run (refs : ReferencePair) : Recognizer → List Record → Recognizer × List Outputs
  | m, [] => (m, [])
  | m, r :: rs =>
    let (m', o) := m.step refs r
    let (m'', os) := run refs m' rs
    (m'', o :: os)

end Recognizer

end StimulusBench
