import StimulusBench.Toml.Scalar
import StimulusBench.Toml.Node

/-!
# `StimulusBench.Toml.Plain` — documents of plain values

A table whose first key is the one reserved for date-times stands for a date-time and has to hold
its text. A document all of whose tables keep to that is plain; of any other not even the form is
accepted.

## Contents
- **Date-times.** `spellsDateTime` tells the texts of date-times.
- **Documents.** `Node.isPlain`, `Entries.isPlain`.
-/

namespace StimulusBench.Toml

/-! ## Date-times -/

/-- The key that is reserved for the text of a date-time. -/
def dateTimeKey : String := "$__toml_private_datetime"

/-- Past the offset behind a time of day, of at most a day in either direction. -/
def dayOffset? (cur : Cursor) : Option Cursor :=
  match cur.rest with
  | c :: cs =>
    if c = 'Z' ∨ c = 'z' then some (cur.skip c cs)
    else if c = '+' ∨ c = '-' then do
      let (hours, cur) ← fixedDigits? 2 0 99 (cur.skip c cs)
      let cur ← expect? ':' cur
      let (minutes, cur) ← fixedDigits? 2 0 99 cur
      if hours * 60 + minutes ≤ 24 * 60 then some cur else none
    else none
  | [] => some cur

/-- Whether a text is that of a date-time: a date, a time of day, or both, then with or without an
    offset. The hour 24 is let through. -/
def spellsDateTime (text : String) : Bool :=
  let cur : Cursor := ⟨text.toList, 0⟩
  let behind : Option Cursor :=
    match date? cur with
    | none => timeUpTo? 24 cur
    | some behind =>
      match behind.rest with
      | [] => some behind
      | c :: cs =>
        if c = 'T' ∨ c = 't' ∨ c = ' ' then (timeUpTo? 24 (behind.skip c cs)).bind dayOffset?
        else none
  behind.any (·.rest.isEmpty)

/-- Whether a value is the text of a date-time. -/
def Node.holdsDateTime : Node → Bool
  | .string _ text => spellsDateTime text
  | _ => false

/-! ## Documents -/

mutual

/-- Whether every table in a value that stands for a date-time holds the text of one. What follows
    that text in the table does not count. -/
def Node.isPlain : Node → Bool
  | .array _ items => allPlain items
  | .tables _ items => allPlain items
  | .table _ _ [] => true
  | .table _ _ ((key, value) :: rest) =>
    if key.name = dateTimeKey then value.holdsDateTime else value.isPlain && entriesPlain rest
  | _ => true

/-- Whether several values are plain. -/
def allPlain : List Node → Bool
  | [] => true
  | item :: rest => item.isPlain && allPlain rest

/-- Whether the values of some entries are plain. -/
def entriesPlain : List (Key × Node) → Bool
  | [] => true
  | (_, value) :: rest => value.isPlain && entriesPlain rest

end

/-- Whether a document is plain. The document itself never stands for a date-time. -/
def Entries.isPlain (entries : Entries) : Bool := entriesPlain entries

end StimulusBench.Toml
