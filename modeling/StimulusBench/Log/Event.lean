import StimulusBench.Assembly
import StimulusBench.Log.Setting
import StimulusBench.Replay
import StimulusBench.Sequence.Mutation

/-!
# `StimulusBench.Log.Event` — what is logged

An event has a level, the name of the part of the program that it comes from, a message, and named
values. The events of a draw are read off the values drawn.

## Contents
- **Events.** `FieldValue`, `LogEvent`.
- **Lines.** `LogEvent.pretty`, `LogEvent.json`.
- **Events of draws and replays.** `Run.event`, `Scenario.events`, `Assembly.events`,
  `Mutation.event`, `Report.event`.
-/

namespace StimulusBench

/-! ## Events -/

/-- A value in an event. -/
inductive FieldValue
  | text (text : String)
  | number (value : Nat)
  deriving Repr, DecidableEq

/-- Something that happened. -/
structure LogEvent where
  level : LogLevel
  /-- The part of the program that the event comes from, in pieces from the outside in. -/
  target : String
  message : String
  fields : List (String × FieldValue)
  deriving Repr, DecidableEq

/-! ## Lines -/

namespace LogEvent

/-- The characters in front of a text that fill it up to a width. -/
def padding (width : Nat) (s : String) : String :=
  String.ofList (List.replicate (width - s.length) ' ')

/-- A value in a plain line. -/
def plainValue : FieldValue → String
  | .text s => s
  | .number n => Numeral.decimalText n

/-- The plain line of an event at a time. -/
def pretty (time : String) (e : LogEvent) : String :=
  time ++ " " ++ padding 5 e.level.name ++ e.level.name ++ " " ++ e.target ++ ": " ++ e.message
    ++ String.join (e.fields.map fun (name, v) => " " ++ name ++ "=" ++ plainValue v) ++ "\n"

/-- A character inside a JSON string. -/
def jsonChar (c : Char) : List Char :=
  if c = '\x22' then ['\\', '\x22']
  else if c = '\\' then ['\\', '\\']
  else if c = '\n' then ['\\', 'n']
  else if c = '\r' then ['\\', 'r']
  else if c = '\t' then ['\\', 't']
  else if c = '\x08' then ['\\', 'b']
  else if c = '\x0c' then ['\\', 'f']
  else if c.toNat < 32 then ['\\', 'u', '0', '0'] ++ Numeral.hexByte (UInt8.ofNat c.toNat)
  else [c]

/-- A text as a JSON string. -/
def jsonText (s : String) : String :=
  String.ofList ('\x22' :: s.toList.flatMap jsonChar ++ ['\x22'])

/-- A value in a JSON line. -/
def jsonValue : FieldValue → String
  | .text s => jsonText s
  | .number n => Numeral.decimalText n

/-- A member of a JSON line. -/
def jsonMember (name value : String) : String := jsonText name ++ ":" ++ value

/-- The JSON line of an event at a time. -/
def json (time : String) (e : LogEvent) : String :=
  let members :=
    [jsonMember "timestamp" (jsonText time), jsonMember "level" (jsonText e.level.name),
      jsonMember "message" (jsonText e.message)]
    ++ e.fields.map (fun (name, v) => jsonMember name (jsonValue v))
    ++ [jsonMember "target" (jsonText e.target)]
  "\x7b" ++ String.intercalate "," members ++ "\x7d\n"

/-- The line of an event in a format. -/
def line (format : LogFormat) (time : String) (e : LogEvent) : String :=
  match format with
  | .pretty => e.pretty time
  | .json => e.json time

end LogEvent

/-! ## Events of draws and replays -/

/-- Texts in brackets, with a comma and a blank between two of them. -/
def bracketedTexts (texts : List String) : String :=
  "[" ++ String.intercalate ", " texts ++ "]"

/-- The event of a drawn run. -/
def Run.event (run : Run) : LogEvent :=
  ⟨.trace, "seqvec_core::idempotent", "drew idempotent run",
    [("draws", .number run.chunks.length),
      ("kinds", .text (bracketedTexts (run.kinds.map FragmentKind.letter)))]⟩

/-- The event of a composed scenario. -/
def Scenario.composed (refs : References) (s : Scenario) : LogEvent :=
  ⟨.debug, "seqvec_core::scenario", "composed scenario",
    [("scenario", .text s.name), ("records", .number (s.records refs).length)]⟩

/-- The events of a drawn scenario. -/
def Scenario.events (refs : References) (s : Scenario) : List LogEvent :=
  match s with
  | .lockout filler => [filler.event, s.composed refs]
  | .misplacedStart index filler =>
    [filler.event,
      ⟨.trace, "seqvec_core::scenario", "injected spurious start marker",
        [("index", .number index)]⟩,
      s.composed refs]
  | .reset => [s.composed refs]

/-- The events of a drawn corpus. -/
def Assembly.events (refs : References) (a : Assembly) : List LogEvent :=
  let corpus := a.corpus refs
  a.lockout.events refs ++ Scenario.reset.events refs ++ a.misplacedStart.events refs ++
    [⟨.debug, "seqvec_core::corpus", "assembled corpus",
      [("entries", .number corpus.entries.length), ("records", .number corpus.flatten.length)]⟩]

/-- A sequence in brackets. -/
def sequenceText (values : List Value) : String :=
  bracketedTexts (values.map fun v => Numeral.decimalText v.toNat)

/-- A mutation in words. -/
def Mutation.text : Mutation → String
  | .partialCorruption mask =>
    "PartialCorruption(CorruptionMask("
      ++ bracketedTexts (mask.selected.toList.map fun b => if b then "true" else "false") ++ "))"
  | .noise values => "Noise(" ++ sequenceText values.toList ++ ")"

/-- The event of a drawn mutation. -/
def Mutation.event (m : Mutation) : LogEvent :=
  ⟨.trace, "seqvec_core::sequence", "drew sequence mutation", [("mutation", .text m.text)]⟩

/-- The event of a finished replay. -/
def Report.event (report : Report) : LogEvent :=
  ⟨.debug, "seqvec_core::replay", "replay finished",
    [("steps", .number report.steps), ("assertions", .number report.assertions),
      ("mismatches", .number report.mismatches.length)]⟩

end StimulusBench
