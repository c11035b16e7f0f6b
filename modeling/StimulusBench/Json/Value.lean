import StimulusBench.Number.Binary64
import StimulusBench.Text.Quoted

/-!
# `StimulusBench.Json.Value` — JSON values

A JSON value as this library reads it: integers that fit a 64-bit word (signed or unsigned) stay
whole numbers, every other number is a binary64 number, and an object keeps its members in the
order and number in which they were written.

## Contents
- **Values.** `Json`, with the look-ups `items?` and `member?`.
- **Naming a value in a message.** `Json.described`.
-/

namespace StimulusBench

/-- A JSON value. -/
inductive Json
  | null
  | bool (value : Bool)
  | int (value : Int)
  | float (value : Binary64)
  | string (value : String)
  | array (items : List Json)
  | object (members : List (String × Json))
  deriving Repr

namespace Json

/-- The items of a list. -/
def items? : Json → Option (List Json)
  | .array items => some items
  | _ => none

/-- The member of an object with the given name; of several the last one counts. -/
def member? (name : String) : Json → Option Json
  | .object members => (members.reverse.find? (·.1 = name)).map (·.2)
  | _ => none

/-- How a message names a value that has the wrong type. -/
def described : Json → String
  | .null => "null"
  | .bool b => "boolean `" ++ (if b then "true" else "false") ++ "`"
  | .int n => "integer `" ++ Numeral.signedText n ++ "`"
  | .float x => "floating point `" ++ x.text .scientific ++ "`"
  | .string s => "string " ++ Quoted.text s
  | .array _ => "sequence"
  | .object _ => "map"

end Json

end StimulusBench
