import StimulusBench.Content
import StimulusBench.Number.Decimal
import StimulusBench.Text.Quoted
import StimulusBench.Yaml.Event

/-!
# `StimulusBench.Yaml.Resolution` — what a scalar stands for

A plain scalar may be a null, a truth value, a whole number, a number with a point, or a text; any
other scalar is a text, unless a tag of the core schema asks for one of these.

## Contents
- **Words.** `nullWord`, `boolWord?`.
- **Numbers.** `WholeNumber`, `wholeNumber?`, `float?`.
- **Faults.** `ScalarFault` and its wording.
- **Scalars.** `resolvePlain`, `resolve`.
-/

namespace StimulusBench.Yaml

/-! ## Words -/

/-- The spellings of null. -/
def nullWord (s : String) : Bool := s = "null" || s = "Null" || s = "NULL" || s = "~"

/-- The truth value that a word spells. -/
def boolWord? (s : String) : Option Bool :=
  if s = "true" ∨ s = "True" ∨ s = "TRUE" then some true
  else if s = "false" ∨ s = "False" ∨ s = "FALSE" then some false
  else none

/-! ## Numbers -/

/-- A whole number and whether it is written with a minus sign. -/
structure WholeNumber where
  negative : Bool
  magnitude : Nat
  deriving Repr, DecidableEq

/-- Whether a numeral without sign has superfluous zeros in front. Such a numeral is a text. -/
def zeroPadded (cs : List Char) : Bool :=
  match cs with
  | '0' :: rest => !rest.isEmpty && rest.all Decimal.isDigit
  | _ => false

/-- A numeral without sign in any radix. -/
def magnitude? (cs : List Char) : Option Nat :=
  match cs with
  | '0' :: 'x' :: ds => Numeral.ofDigits? 16 ds
  | '0' :: 'o' :: ds => Numeral.ofDigits? 8 ds
  | '0' :: 'b' :: ds => Numeral.ofDigits? 2 ds
  | _ => if zeroPadded cs then none else Numeral.ofDigits? 10 cs

/-- The whole number that a text spells: a sign and a numeral. -/
def wholeNumber? (cs : List Char) : Option WholeNumber :=
  match cs with
  | '-' :: ds => (magnitude? ds).map (⟨true, ·⟩)
  | '+' :: ds => (magnitude? ds).map (⟨false, ·⟩)
  | _ => (magnitude? cs).map (⟨false, ·⟩)

/-- The number with a point that a text spells, infinities and not-a-number included. -/
def float? (cs : List Char) : Option Binary64 :=
  let s := String.ofList cs
  let (plus, body) := match cs with
    | '+' :: ds => (true, ds)
    | _ => (false, cs)
  let signAgain := plus && match body with
    | c :: _ => c = '+' || c = '-'
    | [] => false
  if signAgain then none
  else
    let b := String.ofList body
    if b = ".inf" ∨ b = ".Inf" ∨ b = ".INF" then some (.infinite false)
    else if s = "-.inf" ∨ s = "-.Inf" ∨ s = "-.INF" then some (.infinite true)
    else if s = ".nan" ∨ s = ".NaN" ∨ s = ".NAN" then some .nan
    else (Decimal.ofChars? body).filter (·.isFinite)

/-! ## Faults -/

/-- What a tag of the core schema asks for. -/
inductive CoreType
  | boolean
  | integer
  | float
  | null
  deriving Repr, DecidableEq

/-- The name of a core type in a message. -/
def CoreType.name : CoreType → String
  | .boolean => "a boolean"
  | .integer => "an integer"
  | .float => "a float"
  | .null => "null"

/-- Why a scalar stands for nothing. -/
inductive ScalarFault
  /-- A whole number past 64 bits. -/
  | wide (number : WholeNumber)
  /-- A tag of the core schema on a text that does not fit it. -/
  | misfit (text : String) (expected : CoreType)
  deriving Repr, DecidableEq

/-- The wording of a scalar that stands for nothing, where something was expected. -/
def ScalarFault.message (expected : String) : ScalarFault → String
  | .wide n =>
    (if n.negative then
      "invalid type: integer `-" ++ Numeral.decimalText n.magnitude ++ "` as i128"
    else
      "invalid type: integer `" ++ Numeral.decimalText n.magnitude ++ "` as u128")
      ++ ", expected " ++ expected
  | .misfit text wanted =>
    "invalid value: string " ++ Quoted.text text ++ ", expected " ++ wanted.name

/-! ## Scalars -/

/-- The content of a whole number. One past 64 bits, but not past 128, is a fault. -/
def resolveWhole (n : WholeNumber) : Option (Except ScalarFault Content) :=
  if n.negative then
    if n.magnitude ≤ 1 <<< 63 then some (.ok (.negative n.magnitude))
    else if n.magnitude ≤ 1 <<< 127 then some (.error (.wide n))
    else none
  else if n.magnitude < 1 <<< 64 then some (.ok (.natural n.magnitude))
  else if n.magnitude < 1 <<< 128 then some (.error (.wide n))
  else none

/-- What a plain scalar without tag stands for. -/
def resolvePlain (cs : List Char) : Except ScalarFault Content :=
  let s := String.ofList cs
  if cs.isEmpty || nullWord s then .ok .unit
  else match boolWord? s with
    | some b => .ok (.bool b)
    | none =>
      match (wholeNumber? cs).bind resolveWhole with
      | some result => result
      | none =>
        let unsigned := match cs with
          | c :: ds => if c = '-' ∨ c = '+' then ds else cs
          | [] => []
        match if zeroPadded unsigned then none else float? cs with
        | some x => .ok (.float x)
        | none => .ok (.text s)

/-- The full name of a tag of the core schema. -/
def coreTag (name : String) : Tag := asciiBytes ("tag:yaml.org,2002:" ++ name).toList

/-- Whether a tag is local to its application. -/
def isLocal : Tag → Bool
  | b :: _ => b = 0x21
  | [] => false

/-- Whether a local tag has a readable name. The lone indicator counts as its own name. -/
def hasLocalName (tag : Tag) : Bool :=
  isLocal tag &&
    (tag.length = 1 || ByteArray.validateUTF8 (ByteArray.mk (tag.drop 1).toArray))

/-- What a scalar with an optional tag stands for. -/
def resolve (tag : Option Tag) (cs : List Char) (style : ScalarStyle) :
    Except ScalarFault Content :=
  let s := String.ofList cs
  let untagged := match style with
    | .plain => resolvePlain cs
    | .quoted => .ok (.text s)
  match tag with
  | none => untagged
  | some t =>
    if t = coreTag "bool" then
      match boolWord? s with
      | some b => .ok (.bool b)
      | none => .error (.misfit s .boolean)
    else if t = coreTag "int" then
      match (wholeNumber? cs).bind resolveWhole with
      | some result => result
      | none => .error (.misfit s .integer)
    else if t = coreTag "float" then
      match float? cs with
      | some x => .ok (.float x)
      | none => .error (.misfit s .float)
    else if t = coreTag "null" then
      if nullWord s then .ok .unit else .error (.misfit s .null)
    else if isLocal t then untagged
    else .ok (.text s)

end StimulusBench.Yaml
