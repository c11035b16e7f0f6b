import StimulusBench.Recognizer

/-!
# `StimulusBench.Replay` — checking assertions against the recognizer

A replay runs records through the recognizer and compares its outputs with every assertion on the
way.

## Contents
- **Reports.** `Mismatch`, `Report`, `Report.passed`.
- **Replays.** `Recognizer.replay`.
- **Printed reports.** `Report.plain` and `Report.json`.
-/

namespace StimulusBench

/-! ## Reports -/

/-- An assertion that was not met. -/
structure Mismatch where
  /-- Position of the record in the stream. -/
  index : Nat
  expected : Assertion
  actual : Assertion
  deriving Repr, DecidableEq

/-- What a replay found. -/
structure Report where
  steps : Nat
  assertions : Nat
  unlocks : Nat
  finalWarning : Bool
  mismatches : List Mismatch
  deriving Repr, DecidableEq

/-- Whether every assertion was met. -/
def Report.passed (report : Report) : Bool := report.mismatches.isEmpty

/-! ## Replays -/

/-- The mismatch of a record with the outputs after it, if there is one. -/
def Record.mismatch? (index : Nat) (r : Record) (o : Outputs) : Option Mismatch :=
  match r.extra with
  | none => none
  | some expected =>
    if o.assertion = expected then none else some ⟨index, expected, o.assertion⟩

/-- Replays records from a position of the stream on, with the counts so far. The mismatches so far
    stand in reverse order. -/
def Recognizer.replayFrom (refs : ReferencePair) :
    Recognizer → Nat → Report → List Record → Recognizer × Report
  | m, _, report, [] =>
    (m, { report with finalWarning := m.warning, mismatches := report.mismatches.reverse })
  | m, index, report, r :: rs =>
    let (m', o) := m.step refs r
    let report := { report with
      steps := report.steps + 1
      assertions := report.assertions + (if r.extra.isSome then 1 else 0)
      unlocks := report.unlocks + (if o.unlock then 1 else 0)
      mismatches := (r.mismatch? index o).toList ++ report.mismatches }
    replayFrom refs m' (index + 1) report rs

/-- Replays records; the report's final warning is that of the state at the end. -/
def Recognizer.replay (refs : ReferencePair) (m : Recognizer) (records : List Record) :
    Recognizer × Report :=
  m.replayFrom refs 0 ⟨0, 0, 0, false, []⟩ records

/-! ## Printed reports -/

namespace Report

/-- A truth value in words. -/
def boolText (b : Bool) : String := if b then "true" else "false"

/-- A pair of flags in brackets. -/
def pairText (a : Assertion) : String :=
  "[" ++ Numeral.decimalText a.flags.1.toNat ++ ", " ++ Numeral.decimalText a.flags.2.toNat ++ "]"

/-- The line of a mismatch. -/
def mismatchLine (m : Mismatch) : String :=
  "  record " ++ Numeral.decimalText m.index ++ ": expected " ++ pairText m.expected
    ++ ", got " ++ pairText m.actual ++ "\n"

/-- The report in lines, with the verdict on the last one. -/
def plain (report : Report) : String :=
  "steps:         " ++ Numeral.decimalText report.steps ++ "\n"
    ++ "assertions:    " ++ Numeral.decimalText report.assertions ++ "\n"
    ++ "unlocks:       " ++ Numeral.decimalText report.unlocks ++ "\n"
    ++ "final warning: " ++ boolText report.finalWarning ++ "\n"
    ++ "mismatches:    " ++ Numeral.decimalText report.mismatches.length ++ "\n"
    ++ String.join (report.mismatches.map mismatchLine)
    ++ (if report.passed then "PASS\n" else "FAIL\n")

/-- A pair of flags as an indented list. -/
def pairJson (a : Assertion) : String :=
  "[\n        " ++ Numeral.decimalText a.flags.1.toNat ++ ",\n        "
    ++ Numeral.decimalText a.flags.2.toNat ++ "\n      ]"

/-- A mismatch as an indented object. -/
def mismatchJson (m : Mismatch) : String :=
  "    \x7b\n      \"index\": " ++ Numeral.decimalText m.index
    ++ ",\n      \"expected\": " ++ pairJson m.expected
    ++ ",\n      \"actual\": " ++ pairJson m.actual ++ "\n    \x7d"

/-- The report as an object, two blanks of indentation per level. -/
def json (report : Report) : String :=
  let mismatches := match report.mismatches with
    | [] => "[]"
    | ms => "[\n" ++ String.intercalate ",\n" (ms.map mismatchJson) ++ "\n  ]"
  "\x7b\n  \"steps\": " ++ Numeral.decimalText report.steps
    ++ ",\n  \"assertions\": " ++ Numeral.decimalText report.assertions
    ++ ",\n  \"unlocks\": " ++ Numeral.decimalText report.unlocks
    ++ ",\n  \"final_warning\": " ++ boolText report.finalWarning
    ++ ",\n  \"mismatches\": " ++ mismatches ++ "\n\x7d"

end Report

end StimulusBench
