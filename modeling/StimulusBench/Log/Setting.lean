import StimulusBench.Json.Value

/-!
# `StimulusBench.Log.Setting` — levels and formats of the log

How much is logged and in which form, and how the two are named.

## Contents
- **Levels.** `LogLevel`, from the most to the least talkative; `LogLevel.ofName?`.
- **Formats.** `LogFormat`, `LogFormat.ofName?`.
- **Settings.** `LogSetting`: level, format and file; `LogSetting.ofJson` reads them and says with
  a `LogSettingFault` why it cannot.
-/

namespace StimulusBench

/-- A text with its ASCII letters in lower case. Of the other letters only a sign for the degree
    Kelvin has an ASCII letter as its lower case, a `k`, and no name here holds one. -/
def lowered (s : String) : String := String.ofList (s.toList.map Char.toLower)

/-! ## Levels -/

/-- How important an event is, or how much is logged. -/
inductive LogLevel
  | trace
  | debug
  | info
  | warn
  | error
  deriving Repr, DecidableEq

namespace LogLevel

/-- The place of a level in the order from trace to error. -/
def rank : LogLevel → Nat
  | .trace => 0
  | .debug => 1
  | .info => 2
  | .warn => 3
  | .error => 4

/-- The name of a level in a log line. -/
def name : LogLevel → String
  | .trace => "TRACE"
  | .debug => "DEBUG"
  | .info => "INFO"
  | .warn => "WARN"
  | .error => "ERROR"

/-- The level that a name stands for, in any case. -/
def ofName? (s : String) : Option LogLevel :=
  match lowered s with
  | "trace" => some .trace
  | "debug" => some .debug
  | "info" => some .info
  | "warn" => some .warn
  | "warning" => some .warn
  | "error" => some .error
  | _ => none

/-- The wording of a name that stands for no level. -/
def unknownMessage (s : String) : String :=
  "unknown log level: " ++ s ++ ". Expected one of: trace, debug, info, warn, error"

end LogLevel

/-! ## Formats -/

/-- The form of a log line. -/
inductive LogFormat
  | pretty
  | json
  deriving Repr, DecidableEq

namespace LogFormat

/-- The name of a format. -/
def name : LogFormat → String
  | .pretty => "pretty"
  | .json => "json"

/-- The format with exactly the given name. -/
def withName? (s : String) : Option LogFormat :=
  if s = "pretty" then some .pretty else if s = "json" then some .json else none

/-- The format that a name stands for, in any case. -/
def ofName? (s : String) : Option LogFormat := withName? (lowered s)

/-- The wording of a name that stands for no format. -/
def unknownMessage (s : String) : String :=
  "unknown log format: " ++ s ++ ". Expected one of: pretty, json"

/-- The wording of a name that is not exactly that of a format. -/
def unknownVariant (s : String) : String :=
  "unknown variant `" ++ s ++ "`, expected `pretty` or `json`"

end LogFormat

/-! ## Settings -/

/-- What is logged and where to. -/
structure LogSetting where
  /-- The name of the level, not yet understood. -/
  level : String
  format : LogFormat
  /-- A file that gets the same lines. -/
  file : Option String
  deriving Repr, DecidableEq

/-- Why a JSON value gives no settings. -/
inductive LogSettingFault
  | wrongType (found : Json) (expected : String)
  | unknownFormat (name : String)
  /-- An object in place of a format names none or several. -/
  | notOneFormat
  | tooLong (length : Nat)
  deriving Repr

/-- The wording of a value that gives no settings. -/
def LogSettingFault.message : LogSettingFault → String
  | .wrongType found expected => "invalid type: " ++ found.described ++ ", expected " ++ expected
  | .unknownFormat name => LogFormat.unknownVariant name
  | .notOneFormat => "invalid value: map, expected map with a single key"
  | .tooLong length =>
    "invalid length " ++ Numeral.decimalText length ++ ", expected fewer elements in array"

namespace LogSetting

/-- The settings unless given otherwise. -/
def default : LogSetting := ⟨"info", .pretty, none⟩

/-- The name of a level, whatever it is. -/
def readLevel : Json → Except LogSettingFault String
  | .string s => .ok s
  | v => .error (.wrongType v "a string")

/-- A format by its exact name. -/
def readName (s : String) : Except LogSettingFault LogFormat :=
  match LogFormat.withName? s with
  | some format => .ok format
  | none => .error (.unknownFormat s)

/-- A format by its name, or as an object whose only member has that name and no value. -/
def readFormat : Json → Except LogSettingFault LogFormat
  | .string s => readName s
  | .object [(name, v)] => do
    let format ← readName name
    match v with
    | .null => return format
    | _ => throw (.wrongType v "unit")
  | .object _ => .error .notOneFormat
  | v => .error (.wrongType v "string or map")

/-- A path, or null for none. -/
def readFile : Json → Except LogSettingFault (Option String)
  | .null => .ok none
  | .string s => .ok (some s)
  | v => .error (.wrongType v "path string")

/-- Reads a member if it is there. -/
def readMember {α : Type} (read : Json → Except LogSettingFault α) (otherwise : α) :
    Option Json → Except LogSettingFault α
  | some v => read v
  | none => .ok otherwise

/-- The settings of a JSON object or list. What is left out keeps its default; of two faults the one
    of the member that is first in the alphabet is reported. -/
def ofJson (v : Json) : Except LogSettingFault LogSetting :=
  match v with
  | .object _ => do
    let file ← readMember readFile default.file (v.member? "file")
    let format ← readMember readFormat default.format (v.member? "format")
    let level ← readMember readLevel default.level (v.member? "level")
    return ⟨level, format, file⟩
  | .array items => do
    let level ← readMember readLevel default.level items[0]?
    let format ← readMember readFormat default.format items[1]?
    let file ← readMember readFile default.file items[2]?
    if 3 < items.length then throw (.tooLong items.length) else return ⟨level, format, file⟩
  | _ => .error (.wrongType v "struct LogConfig")

end LogSetting

end StimulusBench
