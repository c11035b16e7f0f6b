import StimulusBench.Number.Binary64
import StimulusBench.Text.Quoted

/-!
# `StimulusBench.Content` — untyped document content

What a document says before anything is expected of it: scalars, lists and mappings. The readers of
YAML and JSON produce it, and the decoders of records and stimuli consume it.

## Contents
- **Content.** `Content`; whole numbers are told apart by the sign they are written with.
- **Bytes.** `Content.byte?`.
- **Naming content in a message.** `Content.described`.
-/

namespace StimulusBench

/-- Untyped content of a document. -/
inductive Content
  | unit
  | bool (value : Bool)
  /-- A whole number written without a minus sign. -/
  | natural (value : Nat)
  /-- A whole number written with a minus sign, which `0` may carry too. -/
  | negative (magnitude : Nat)
  | float (value : Binary64)
  | text (value : String)
  | list (items : List Content)
  | mapping (entries : List (Content × Content))
  deriving Repr

namespace Content

/-- The byte that a whole number stands for. -/
def byte? : Content → Option UInt8
  | .natural n => if n < 256 then some (UInt8.ofNat n) else none
  | .negative n => if n = 0 then some 0 else none
  | _ => none

/-- How a message names content that has the wrong type. -/
def described : Content → String
  | .unit => "unit value"
  | .bool b => "boolean `" ++ (if b then "true" else "false") ++ "`"
  | .natural n => "integer `" ++ Numeral.decimalText n ++ "`"
  | .negative n => "integer `" ++ Numeral.signedText (-(n : Int)) ++ "`"
  | .float x => "floating point `" ++ x.text .plain ++ "`"
  | .text s => "string " ++ Quoted.text s
  | .list _ => "sequence"
  | .mapping _ => "map"

end Content

end StimulusBench
