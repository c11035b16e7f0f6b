import StimulusBench.Json.Cursor
import StimulusBench.Json.Value

/-!
# `StimulusBench.Json.Reader` — JSON texts

Reading a value from a JSON text. Every reader takes the cursor and gives the value with the cursor
behind it, or the first fault.

## Contents
- **Leaves.** `ident`, `number`, `string`.
- **Lists and objects.** `hasItem`, `closeList` and their twins for objects walk the punctuation.
- **Values.** `value` reads one value, at most `depth` brackets deep; `Json.parse` a whole text.
-/

namespace StimulusBench.Json

namespace Cursor

/-! ## Words and numbers -/

/-- The letters of a word, one after the other. -/
def ident : List Char → Cursor → Except Fault Cursor
  | [], cur => .ok cur
  | e :: es, cur =>
    match cur.rest with
    | [] => cur.fault .endInValue
    | c :: cs =>
      if c = e then ident es (cur.skip c cs)
      else .error ⟨.expectedIdent, cur.ahead⟩

/-- The digits ahead: how many, their value added to `acc`, and what follows. -/
def digits (acc : Nat) (count : Nat) : List Char → Position → Nat × Nat × Cursor
  | [], p => (acc, count, ⟨[], p⟩)
  | c :: cs, p =>
    if '0' ≤ c ∧ c ≤ '9' then
      digits (acc * 10 + (c.toNat - '0'.toNat)) (count + 1) cs (after p c)
    else (acc, count, ⟨c :: cs, p⟩)

/-- The digits ahead as long as their value with `acc` stays below `bound`. -/
def digitsBelow (bound acc count : Nat) : List Char → Position → Nat × Nat × Cursor
  | [], p => (acc, count, ⟨[], p⟩)
  | c :: cs, p =>
    if '0' ≤ c ∧ c ≤ '9' ∧ acc * 10 + (c.toNat - '0'.toNat) < bound then
      digitsBelow bound (acc * 10 + (c.toNat - '0'.toNat)) (count + 1) cs (after p c)
    else (acc, count, ⟨c :: cs, p⟩)

/-- Changes the sign of a number. -/
def signed (negative : Bool) : Binary64 → Binary64
  | .finite _ m e => .finite negative m e
  | .infinite _ => .infinite negative
  | .nan => .nan

/-- A whole number of at most 64 bits, rounded. -/
def ofWord (n : Nat) : Binary64 := Binary64.ofRatio false n 1

/-- `significand · 10 ^ exponent`, scaled by rounded powers of ten of at most 308 each. -/
def scale : Nat → Binary64 → Int → Option Binary64
  | 0, x, _ => some x
  | fuel + 1, x, exponent =>
    if exponent.natAbs ≤ 308 then
      if 0 ≤ exponent then
        let y := x.mul (Binary64.ofDecimal false 1 exponent)
        if y.isFinite then some y else none
      else some (x.div (Binary64.ofDecimal false 1 (-exponent)))
    else if x = .finite false 0 0 then some x
    else if 0 ≤ exponent then none
    else scale fuel (x.div (Binary64.ofDecimal false 1 308)) (exponent + 308)

/-- A number with a fraction or an exponent, from its parts. The scaling rounds at every step, so
    a long numeral may be off in its last bit. -/
def fromParts (negative : Bool) (significand : Nat) (exponent : Int) (cur : Cursor) :
    Except Fault (Json × Cursor) :=
  match scale 20 (ofWord significand) exponent with
  | some x => .ok (.float (signed negative x), cur)
  | none => cur.fault .numberOutOfRange

/-- The exponent of a number, after its `e`. -/
def exponentTail (negative : Bool) (significand : Nat) (start : Int) (cur : Cursor) :
    Except Fault (Json × Cursor) :=
  let (minus, cur) := match cur.rest with
    | '+' :: cs => (false, cur.skip '+' cs)
    | '-' :: cs => (true, cur.skip '-' cs)
    | _ => (false, cur)
  match cur.rest with
  | [] => cur.fault .endInValue
  | c :: _ =>
    if '0' ≤ c ∧ c ≤ '9' then
      let (n, _, kept) := digitsBelow (1 <<< 31) 0 0 cur.rest cur.position
      let (_, dropped, behind) := digits 0 0 kept.rest kept.position
      if dropped = 0 then
        fromParts negative significand (if minus then start - n else start + n) kept
      else if significand ≠ 0 ∧ ¬ minus then kept.faultAhead .numberOutOfRange
      else .ok (.float (.finite negative 0 0), behind)
    else .error ⟨.invalidNumber, cur.ahead⟩

/-- The fraction of a number, after its point. Digits past 64 bits are dropped. -/
def fractionTail (negative : Bool) (significand : Nat) (start : Int) (cur : Cursor) :
    Except Fault (Json × Cursor) :=
  let (n, count, kept) := digitsBelow (1 <<< 64) significand 0 cur.rest cur.position
  let (_, dropped, behind) := digits 0 0 kept.rest kept.position
  if count + dropped = 0 then
    match behind.rest with
    | [] => behind.fault .endInValue
    | _ => behind.faultAhead .invalidNumber
  else
    let exponent := start - count
    match behind.rest with
    | 'e' :: cs => exponentTail negative n exponent (behind.skip 'e' cs)
    | 'E' :: cs => exponentTail negative n exponent (behind.skip 'E' cs)
    | _ => fromParts negative n exponent behind

/-- The whole number that a numeral without fraction and exponent stands for. -/
def whole (negative : Bool) (n : Nat) : Json :=
  if negative then
    if 0 < n ∧ n ≤ 1 <<< 63 then .int (-n) else .float (signed true (ofWord n))
  else .int n

/-- A number, after its sign. -/
def number (negative : Bool) (cur : Cursor) : Except Fault (Json × Cursor) :=
  match cur.rest with
  | [] => cur.fault .endInValue
  | c :: cs =>
    if '0' ≤ c ∧ c ≤ '9' then
      let (n, count, kept) :=
        if c = '0' then (0, 1, cur.skip c cs) else digitsBelow (1 <<< 64) 0 0 cur.rest cur.position
      let leadingZero := c = '0' && (match kept.rest with
        | d :: _ => decide ('0' ≤ d ∧ d ≤ '9')
        | [] => false)
      if leadingZero then kept.faultAhead .invalidNumber
      else
        let (_, dropped, behind) := digits 0 count kept.rest kept.position
        let exponent : Int := dropped - count
        match behind.rest with
        | '.' :: rest => fractionTail negative n exponent (behind.skip '.' rest)
        | 'e' :: rest => exponentTail negative n exponent (behind.skip 'e' rest)
        | 'E' :: rest => exponentTail negative n exponent (behind.skip 'E' rest)
        | _ =>
          if dropped = count then .ok (whole negative n, behind)
          else fromParts negative n exponent behind
    else .error ⟨.invalidNumber, cur.ahead⟩

/-! ## Strings -/

/-- The value of four hexadecimal digits. -/
def hex4? (a b c d : Char) : Option Nat :=
  Numeral.ofDigits? 16 [a, b, c, d]

/-- Four hexadecimal digits ahead, read as bytes. -/
def hexEscape (cur : Cursor) : Except Fault (Nat × Cursor) :=
  match cur.rest with
  | a :: b :: c :: d :: cs =>
    let behind := ((((cur.skip a []).skip b []).skip c []).skip d cs)
    match hex4? a b c d with
    | some n => .ok (n, behind)
    | none => .error ⟨.invalidEscape, afterBytes 4 cur.rest cur.position⟩
  | short =>
    let bytes := (String.ofList short).utf8ByteSize
    .error ⟨if bytes < 4 then .endInString else .invalidEscape, afterBytes 4 short cur.position⟩

/-- The second half of a surrogate pair, after the first half. -/
def pairTail (high : Nat) (cur : Cursor) : Except Fault (Char × Cursor) :=
  match cur.rest with
  | [] => cur.fault .endInString
  | '\\' :: cs =>
    let cur := cur.skip '\\' cs
    match cur.rest with
    | [] => cur.fault .endInString
    | 'u' :: ds => do
      let (low, cur) ← hexEscape (cur.skip 'u' ds)
      if 0xDC00 ≤ low ∧ low ≤ 0xDFFF then
        return (Char.ofNat ((high - 0xD800) * 0x400 + (low - 0xDC00) + 0x10000), cur)
      else cur.fault .loneSurrogate
    | _ => .error ⟨.endOfHexEscape, cur.ahead⟩
  | _ => .error ⟨.endOfHexEscape, cur.ahead⟩

/-- The character that an escape stands for, after the backslash. -/
def escapeTail (cur : Cursor) : Except Fault (Char × Cursor) :=
  match cur.rest with
  | [] => cur.fault .endInString
  | c :: cs =>
    let cur' := cur.skip c cs
    match c with
    | '\x22' => .ok ('\x22', cur')
    | '\\' => .ok ('\\', cur')
    | '/' => .ok ('/', cur')
    | 'b' => .ok ('\x08', cur')
    | 'f' => .ok ('\x0c', cur')
    | 'n' => .ok ('\n', cur')
    | 'r' => .ok ('\r', cur')
    | 't' => .ok ('\t', cur')
    | 'u' => do
      let (n, cur) ← hexEscape cur'
      if 0xDC00 ≤ n ∧ n ≤ 0xDFFF then cur.fault .loneSurrogate
      else if n < 0xD800 ∨ 0xDBFF < n then return (Char.ofNat n, cur)
      else pairTail n cur
    | _ => .error ⟨.invalidEscape, cur.ahead⟩

/-- A string, after its opening quote, behind the characters read so far. The fuel has to exceed the
    number of characters left. -/
def string : Nat → List Char → Cursor → Except Fault (String × Cursor)
  | 0, _, cur => cur.fault .endInString
  | fuel + 1, acc, cur =>
    match cur.rest with
    | [] => cur.fault .endInString
    | '\x22' :: cs => .ok (String.ofList acc.reverse, cur.skip '\x22' cs)
    | '\\' :: cs => do
      let (c, cur) ← escapeTail (cur.skip '\\' cs)
      string fuel (c :: acc) cur
    | c :: cs =>
      if c.toNat < 32 then .error ⟨.controlCharacter, cur.ahead⟩
      else string fuel (c :: acc) (cur.skip c cs)

/-! ## Punctuation -/

/-- Whether another item follows in a list, and the cursor in front of it. -/
def hasItem (first : Bool) (cur : Cursor) : Except Fault (Bool × Cursor) :=
  let cur := cur.skipBlanks
  match cur.rest with
  | [] => cur.faultAhead .endInList
  | ']' :: _ => .ok (false, cur)
  | ',' :: cs =>
    if first then .ok (true, cur)
    else
      let cur := (cur.skip ',' cs).skipBlanks
      match cur.rest with
      | [] => cur.faultAhead .endInValue
      | ']' :: _ => cur.faultAhead .trailingComma
      | _ => .ok (true, cur)
  | _ => if first then .ok (true, cur) else cur.faultAhead .expectedListCommaOrEnd

/-- Past the end of a list; on a fault, also the cursor it was found from. -/
def closeList (cur : Cursor) : Except (Fault × Cursor) Cursor :=
  let cur := cur.skipBlanks
  match cur.rest with
  | [] => .error (⟨.endInList, cur.ahead⟩, cur)
  | ']' :: cs => .ok (cur.skip ']' cs)
  | ',' :: cs =>
    let cur := (cur.skip ',' cs).skipBlanks
    match cur.rest with
    | ']' :: _ => .error (⟨.trailingComma, cur.ahead⟩, cur)
    | _ => .error (⟨.trailingCharacters, cur.ahead⟩, cur)
  | _ => .error (⟨.trailingCharacters, cur.ahead⟩, cur)

/-- Whether another member follows in an object, and the cursor behind its opening quote. -/
def hasMember (first : Bool) (cur : Cursor) : Except Fault (Bool × Cursor) :=
  let cur := cur.skipBlanks
  match cur.rest with
  | [] => cur.faultAhead .endInObject
  | '\x7d' :: _ => .ok (false, cur)
  | '\x22' :: cs =>
    if first then .ok (true, cur.skip '\x22' cs)
    else cur.faultAhead .expectedObjectCommaOrEnd
  | ',' :: cs =>
    if first then cur.faultAhead .keyMustBeString
    else
      let cur := (cur.skip ',' cs).skipBlanks
      match cur.rest with
      | [] => cur.faultAhead .endInValue
      | '\x22' :: ds => .ok (true, cur.skip '\x22' ds)
      | '\x7d' :: _ => cur.faultAhead .trailingComma
      | _ => cur.faultAhead .keyMustBeString
  | _ =>
    if first then cur.faultAhead .keyMustBeString
    else cur.faultAhead .expectedObjectCommaOrEnd

/-- Past the colon between a name and its value. -/
def colon (cur : Cursor) : Except Fault Cursor :=
  let cur := cur.skipBlanks
  match cur.rest with
  | [] => cur.faultAhead .endInObject
  | ':' :: cs => .ok (cur.skip ':' cs)
  | _ => cur.faultAhead .expectedColon

/-! ## Values -/

/-- The items of a list up to its closing bracket, which stays ahead. -/
def items (item : Cursor → Except Fault (Json × Cursor)) :
    Nat → Bool → List Json → Cursor → Except Fault (List Json × Cursor)
  | 0, _, _, cur => cur.fault .endInList
  | fuel + 1, first, acc, cur => do
    let (more, cur) ← hasItem first cur
    if more then
      let (v, cur) ← item cur
      items item fuel false (v :: acc) cur
    else return (acc.reverse, cur)

/-- The members of an object up to its closing brace, which stays ahead. -/
def members (size : Nat) (item : Cursor → Except Fault (Json × Cursor)) :
    Nat → Bool → List (String × Json) → Cursor → Except Fault (List (String × Json) × Cursor)
  | 0, _, _, cur => cur.fault .endInObject
  | fuel + 1, first, acc, cur => do
    let (more, cur) ← hasMember first cur
    if more then
      let (name, cur) ← string size [] cur
      let cur ← colon cur
      let (v, cur) ← item cur
      members size item fuel false ((name, v) :: acc) cur
    else return (acc.reverse, cur)

/-- A value that is neither a list nor an object. -/
def scalar (size : Nat) (cur : Cursor) : Except Fault (Json × Cursor) :=
  match cur.rest with
  | [] => cur.faultAhead .endInValue
  | 'n' :: cs => return (.null, ← ident ['u', 'l', 'l'] (cur.skip 'n' cs))
  | 't' :: cs => return (.bool true, ← ident ['r', 'u', 'e'] (cur.skip 't' cs))
  | 'f' :: cs => return (.bool false, ← ident ['a', 'l', 's', 'e'] (cur.skip 'f' cs))
  | '-' :: cs => number true (cur.skip '-' cs)
  | '\x22' :: cs => do
    let (s, cur) ← string size [] (cur.skip '\x22' cs)
    return (.string s, cur)
  | c :: _ =>
    if '0' ≤ c ∧ c ≤ '9' then number false cur else cur.faultAhead .expectedValue

/-- A value with at most `depth` brackets open at once. The size has to exceed the number of
    characters of the text; no string and no list is longer than that. -/
def value (size : Nat) : Nat → Cursor → Except Fault (Json × Cursor)
  | 0, cur =>
    let cur := cur.skipBlanks
    match cur.rest with
    | '[' :: _ => cur.faultAhead .recursionLimit
    | '\x7b' :: _ => cur.faultAhead .recursionLimit
    | _ => scalar size cur
  | depth + 1, cur =>
    let cur := cur.skipBlanks
    match cur.rest with
    | '[' :: cs => do
      let (vs, cur) ← items (value size depth) size true [] (cur.skip '[' cs)
      return (.array vs, cur.skip ']' (cur.rest.drop 1))
    | '\x7b' :: cs => do
      let (ms, cur) ← members size (value size depth) size true [] (cur.skip '\x7b' cs)
      return (.object ms, cur.skip '\x7d' (cur.rest.drop 1))
    | _ => scalar size cur

end Cursor

/-- How many brackets may be open at once. -/
def maxDepth : Nat := 127

/-- The value that a whole text holds. -/
def parse (text : String) : Except Fault Json := do
  let (v, cur) ← Cursor.value (text.length + 1) maxDepth (Cursor.start text.toList)
  let cur := cur.skipBlanks
  match cur.rest with
  | [] => return v
  | _ => cur.faultAhead .trailingCharacters

end StimulusBench.Json
