import StimulusBench.Listing
import StimulusBench.Sequence.Basic

/-!
# `StimulusBench.Record` — channel writes

A record is one clock cycle of stimulus: the line it drives, the byte on the data bus, and whether
the write starts a new attempt. It may carry an assertion on the outputs expected after the cycle.

Written out, a record is a flat list: `[channel, value, start]`, or
`[channel, value, start, [unlock, warning]]` with an assertion.

## Contents
- **Assertions.** `Assertion`, and `Assertion.ofFlags`, which accepts flags 0 and 1 only.
- **Records.** `Record`, its `listing` and its `text`; `Record.ofFields` checks the fields of a
  written record.
- **Encoding.** `encode` marks the first value of a sequence as the start of an attempt.
-/

namespace StimulusBench

/-- The channel of every data write. -/
def dataChannel : UInt8 := 0

/-- The channel that drives the reset line. -/
def resetChannel : UInt8 := 1

/-! ## Faults -/

/-- Why the fields of a written record are refused. -/
inductive RecordFault
  | channel (got : UInt8)
  | start (got : UInt8)
  | unlock (got : UInt8)
  | warning (got : UInt8)
  deriving Repr, DecidableEq

/-- The wording of a refused record. -/
def RecordFault.message : RecordFault → String
  | .channel got =>
    "channel must be 0 (data) or 1 (reset), got " ++ Numeral.decimalText got.toNat
  | .start got => "start flag must be 0 or 1, got " ++ Numeral.decimalText got.toNat
  | .unlock got => "unlock flag must be 0 or 1, got " ++ Numeral.decimalText got.toNat
  | .warning got => "warning flag must be 0 or 1, got " ++ Numeral.decimalText got.toNat

/-- A flag that is written 0 or 1. -/
def readFlag (fault : UInt8 → RecordFault) (raw : UInt8) : Except RecordFault Bool :=
  if raw = 0 then .ok false else if raw = 1 then .ok true else .error (fault raw)

/-- A flag as it is written. -/
def flagByte (b : Bool) : UInt8 := if b then 1 else 0

/-! ## Assertions -/

/-- Outputs of the recognizer expected after a record is applied. -/
structure Assertion where
  unlock : Bool
  warning : Bool
  deriving Repr, DecidableEq

namespace Assertion

/-- Warning raised, not unlocked. -/
def warned : Assertion := ⟨false, true⟩

/-- The written pair of flags, the unlock flag checked first. -/
def ofFlags (unlock warning : UInt8) : Except RecordFault Assertion := do
  let u ← readFlag .unlock unlock
  let w ← readFlag .warning warning
  return ⟨u, w⟩

/-- The pair of flags as it is written. -/
def flags (a : Assertion) : UInt8 × UInt8 := (flagByte a.unlock, flagByte a.warning)

end Assertion

/-! ## Records -/

/-- One channel write. -/
structure Record where
  channel : UInt8
  value : Value
  start : Bool
  extra : Option Assertion
  deriving Repr, DecidableEq

namespace Record

/-- A write on the data channel. -/
def data (value : Value) (start : Bool) : Record := ⟨dataChannel, value, start, none⟩

/-- The reset pulse. -/
def reset : Record := ⟨resetChannel, 0, false, none⟩

/-- Whether the record drives the reset line: every channel but the data channel does. -/
def isReset (r : Record) : Bool := r.channel != dataChannel

/-- The same write with or without a start marker. -/
def withStart (r : Record) (start : Bool) : Record := { r with start }

/-- The same write with an assertion in place of any it had. -/
def tagged (r : Record) (a : Assertion) : Record := { r with extra := some a }

/-- The same write without an assertion. -/
def untagged (r : Record) : Record := { r with extra := none }

/-- A record from its written fields; the channel is checked first, then the start marker, then the
    assertion. -/
def ofFields (channel value start : UInt8) (extra : Option (UInt8 × UInt8)) :
    Except RecordFault Record := do
  if channel ≠ dataChannel ∧ channel ≠ resetChannel then throw (.channel channel)
  let start ← readFlag .start start
  match extra with
  | none => return ⟨channel, value, start, none⟩
  | some (u, w) => return ⟨channel, value, start, some (← Assertion.ofFlags u w)⟩

/-- A byte in a listing. -/
def byteListing (b : UInt8) : Listing := .number b.toNat

/-- A record as a flat list, with the flags of its assertion as a list of their own. -/
def listing (r : Record) : Listing :=
  .list ([byteListing r.channel, byteListing r.value, byteListing (flagByte r.start)] ++
    match r.extra with
    | none => []
    | some a => [.list [byteListing a.flags.1, byteListing a.flags.2]])

/-- The written form of a record. -/
def text (r : Record) : String := String.ofList r.listing.bracketed

/-- The document form of a record: one field per line. -/
def yaml (r : Record) : String := r.listing.block

end Record

/-! ## Encoding -/

/-- Data writes of a sequence of values; the first is marked as the start of an attempt. -/
def encode : List Value → List Record
  | [] => []
  | v :: vs => Record.data v true :: vs.map (Record.data · false)

/-- Data writes of a sequence of values, each with the same assertion. -/
def encodeTagged (values : List Value) (a : Assertion) : List Record :=
  (encode values).map (·.tagged a)

/-- The same records, each with the same assertion. -/
def tagAll (records : List Record) (a : Assertion) : List Record :=
  records.map (·.tagged a)

/-- The bytes on the data bus. -/
def payloads (records : List Record) : List Value := records.map (·.value)

end StimulusBench
