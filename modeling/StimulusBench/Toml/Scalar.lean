import StimulusBench.Number.Decimal
import StimulusBench.Toml.Cursor

/-!
# `StimulusBench.Toml.Scalar` — strings, numbers and dates

Readers of the values that hold no other values. Every reader takes the cursor and gives the value
with the cursor behind it.

## Contents
- **Strings.** `basicString`, `literalString` and their forms over several lines.
- **Dates.** `dateTime?` finds the end of a date, a time or both.
- **Numbers.** `number` reads whole numbers in four radices and numbers with a point.
-/

namespace StimulusBench.Toml

/-! ## Strings -/

/-- A character that stands for itself between double quotes. -/
def isBasic (c : Char) : Bool := isText c && c ≠ '\x22' && c ≠ '\\'

/-- A character that stands for itself between single quotes. -/
def isLiteral (c : Char) : Bool := isText c && c ≠ '\''

/-- The character that so many hexadecimal digits ahead stand for. -/
def hexChar (count : Nat) (cur : Cursor) : Except SyntaxFault (Char × Cursor) :=
  let digits := cur.rest.take count
  match Numeral.ofDigits? 16 digits with
  | some n =>
    if digits.length = count ∧ (n < 0xD800 ∨ (0xDFFF < n ∧ n < 0x110000)) then
      .ok (Char.ofNat n, ⟨cur.rest.drop count, cur.offset + count⟩)
    else cur.fault .invalidEscape
  | none => cur.fault .invalidEscape

/-- The character that an escape stands for, behind the backslash. -/
def escape (cur : Cursor) : Except SyntaxFault (Char × Cursor) :=
  match cur.rest with
  | [] => cur.fault .unclosedString
  | c :: cs =>
    let behind := cur.skip c cs
    match c with
    | 'b' => .ok ('\x08', behind)
    | 'f' => .ok ('\x0c', behind)
    | 'n' => .ok ('\n', behind)
    | 'r' => .ok ('\r', behind)
    | 't' => .ok ('\t', behind)
    | '\x22' => .ok ('\x22', behind)
    | '\\' => .ok ('\\', behind)
    | 'u' => hexChar 4 behind
    | 'U' => hexChar 8 behind
    | _ => cur.fault .invalidEscape

/-- The rest of a string on one line between double quotes. The fuel counts characters. -/
def basicTail : Nat → List Char → Cursor → Except SyntaxFault (String × Cursor)
  | 0, _, cur => cur.fault .unclosedString
  | fuel + 1, acc, cur =>
    match cur.rest with
    | [] => cur.fault .unclosedString
    | '\x22' :: cs => .ok (String.ofList acc.reverse, cur.skip '\x22' cs)
    | '\\' :: cs => do
      let (c, cur) ← escape (cur.skip '\\' cs)
      basicTail fuel (c :: acc) cur
    | c :: cs =>
      if isBasic c then basicTail fuel (c :: acc) (cur.skip c cs)
      else cur.fault .unclosedString

/-- How many of the next quotes belong to a string over several lines: of three or more the last
    three close it, and no more than two can stand in front of those. -/
def closingQuotes (quote : Char) (cs : List Char) : Option Nat :=
  let run := (cs.takeWhile (· = quote)).length
  if run < 3 then none else some (min (run - 3) 2)

/-- Past a backslash at the end of a line, the line break and all blanks and line breaks behind
    it. -/
def continuation? (cur : Cursor) : Option Cursor :=
  match cur.blanks.newline? with
  | some behind => some (behind.take fun c => isBlank c || c = '\n' || c = '\r').2
  | none => none

/-- Whether every carriage return is followed by a line feed. -/
def pairedReturns : List Char → Bool
  | [] => true
  | '\r' :: '\n' :: cs => pairedReturns cs
  | c :: cs => c ≠ '\r' && pairedReturns cs

/-- The rest of a string over several lines between double quotes. The fuel counts characters. -/
def multiBasicTail : Nat → List Char → Cursor → Except SyntaxFault (String × Cursor)
  | 0, _, cur => cur.fault .unclosedString
  | fuel + 1, acc, cur =>
    match cur.rest with
    | [] => cur.fault .unclosedString
    | '\x22' :: cs =>
      match closingQuotes '\x22' cur.rest with
      | some inside =>
        .ok (String.ofList (List.replicate inside '\x22' ++ acc).reverse,
          ⟨cur.rest.drop (inside + 3), cur.offset + inside + 3⟩)
      | none => multiBasicTail fuel ('\x22' :: acc) (cur.skip '\x22' cs)
    | '\\' :: cs =>
      let behind := cur.skip '\\' cs
      match continuation? behind with
      | some next =>
        if pairedReturns (behind.rest.take (behind.rest.length - next.rest.length)) then
          multiBasicTail fuel acc next
        else behind.fault .invalidEscape
      | none => do
        let (c, cur) ← escape behind
        multiBasicTail fuel (c :: acc) cur
    | '\r' :: '\n' :: cs => multiBasicTail fuel ('\n' :: acc) ⟨cs, cur.offset + 2⟩
    | '\n' :: cs => multiBasicTail fuel ('\n' :: acc) (cur.skip '\n' cs)
    | c :: cs =>
      if isBasic c then multiBasicTail fuel (c :: acc) (cur.skip c cs)
      else cur.fault .unclosedString

/-- The rest of a string over several lines between single quotes. -/
def multiLiteralTail : Nat → List Char → Cursor → Except SyntaxFault (String × Cursor)
  | 0, _, cur => cur.fault .unclosedString
  | fuel + 1, acc, cur =>
    match cur.rest with
    | [] => cur.fault .unclosedString
    | '\'' :: cs =>
      match closingQuotes '\'' cur.rest with
      | some inside =>
        .ok (String.ofList (List.replicate inside '\'' ++ acc).reverse,
          ⟨cur.rest.drop (inside + 3), cur.offset + inside + 3⟩)
      | none => multiLiteralTail fuel ('\'' :: acc) (cur.skip '\'' cs)
    | '\r' :: '\n' :: cs => multiLiteralTail fuel ('\n' :: acc) ⟨cs, cur.offset + 2⟩
    | '\n' :: cs => multiLiteralTail fuel ('\n' :: acc) (cur.skip '\n' cs)
    | c :: cs =>
      if isLiteral c then multiLiteralTail fuel (c :: acc) (cur.skip c cs)
      else cur.fault .unclosedString

/-- A string on one line, behind its opening double quote. -/
def basicString (cur : Cursor) : Except SyntaxFault (String × Cursor) :=
  basicTail (cur.rest.length + 1) [] cur

/-- A string on one line, behind its opening single quote. -/
def literalString (cur : Cursor) : Except SyntaxFault (String × Cursor) :=
  let (taken, behind) := cur.take isLiteral
  match behind.rest with
  | '\'' :: cs => .ok (String.ofList taken, behind.skip '\'' cs)
  | _ => behind.fault .unclosedString

/-- The line break directly behind the opening quotes does not count. -/
def withoutBreak (cur : Cursor) : Cursor := cur.newline?.getD cur

/-- A string of any form, its opening quote ahead. -/
def string (cur : Cursor) : Except SyntaxFault (String × Cursor) :=
  match cur.rest with
  | '\x22' :: '\x22' :: '\x22' :: cs =>
    let body := withoutBreak ⟨cs, cur.offset + 3⟩
    multiBasicTail (body.rest.length + 1) [] body
  | '\'' :: '\'' :: '\'' :: cs =>
    let body := withoutBreak ⟨cs, cur.offset + 3⟩
    multiLiteralTail (body.rest.length + 1) [] body
  | '\x22' :: cs => basicString (cur.skip '\x22' cs)
  | '\'' :: cs => literalString (cur.skip '\'' cs)
  | _ => cur.fault .unclosedString

/-! ## Dates -/

/-- So many digits ahead, with a value in a range. -/
def fixedDigits? (count low high : Nat) (cur : Cursor) : Option (Nat × Cursor) :=
  let digits := cur.rest.take count
  if digits.length = count ∧ digits.all Decimal.isDigit then
    match Numeral.ofDigits? 10 digits with
    | some n =>
      if low ≤ n ∧ n ≤ high then some (n, ⟨cur.rest.drop count, cur.offset + count⟩) else none
    | none => none
  else none

/-- Past an expected character. -/
def expect? (c : Char) (cur : Cursor) : Option Cursor :=
  match cur.rest with
  | d :: cs => if d = c then some (cur.skip d cs) else none
  | [] => none

/-- The days of a month. -/
def daysIn (year month : Nat) : Nat :=
  if month = 2 then
    if year % 4 = 0 ∧ (year % 100 ≠ 0 ∨ year % 400 = 0) then 29 else 28
  else if month = 4 ∨ month = 6 ∨ month = 9 ∨ month = 11 then 30
  else 31

/-- Past a date. -/
def date? (cur : Cursor) : Option Cursor := do
  let (year, cur) ← fixedDigits? 4 0 9999 cur
  let cur ← expect? '-' cur
  let (month, cur) ← fixedDigits? 2 1 12 cur
  let cur ← expect? '-' cur
  let (_, cur) ← fixedDigits? 2 1 (daysIn year month) cur
  return cur

/-- Past the fraction of a second, if there is one. -/
def secondFraction (cur : Cursor) : Cursor :=
  match expect? '.' cur with
  | some behind =>
    let (digits, behind) := behind.take Decimal.isDigit
    if digits.isEmpty then cur else behind
  | none => cur

/-- Past a time of day whose hour is at most the given one. -/
def timeUpTo? (lastHour : Nat) (cur : Cursor) : Option Cursor := do
  let (_, cur) ← fixedDigits? 2 0 lastHour cur
  let cur ← expect? ':' cur
  let (_, cur) ← fixedDigits? 2 0 59 cur
  let cur ← expect? ':' cur
  let (_, cur) ← fixedDigits? 2 0 60 cur
  return secondFraction cur

/-- Past a time of day. -/
def time? (cur : Cursor) : Option Cursor := timeUpTo? 23 cur

/-- Past a sign with hours and minutes, or past the letter that stands for none. -/
def timeOffset? (cur : Cursor) : Option Cursor :=
  match cur.rest with
  | c :: cs =>
    if c = 'Z' ∨ c = 'z' then some (cur.skip c cs)
    else if c = '+' ∨ c = '-' then do
      let (_, cur) ← fixedDigits? 2 0 23 (cur.skip c cs)
      let cur ← expect? ':' cur
      let (_, cur) ← fixedDigits? 2 0 59 cur
      return cur
    else none
  | [] => none

/-- Past the time of day behind a date, if there is one. -/
def timeBehind (cur : Cursor) : Cursor :=
  match cur.rest with
  | c :: cs =>
    if c = 'T' ∨ c = 't' ∨ c = ' ' then
      match time? (cur.skip c cs) with
      | some behind => (timeOffset? behind).getD behind
      | none => cur
    else cur
  | [] => cur

/-- Past a date, a date with a time of day, or a time of day. -/
def dateTime? (cur : Cursor) : Option Cursor :=
  match date? cur with
  | some behind => some (timeBehind behind)
  | none => time? cur

/-! ## Numbers -/

/-- A number. -/
inductive Number
  | whole (value : Int)
  | float (value : Binary64)
  deriving Repr

/-- Digits ahead, with underscores between two of them left out. A first digit has to be there. -/
def separatedFrom (isDigit : Char → Bool) : List Char → Nat → List Char × Cursor
  | '_' :: d :: cs, offset =>
    if isDigit d then
      let (taken, behind) := separatedFrom isDigit cs (offset + 2)
      (d :: taken, behind)
    else ([], ⟨'_' :: d :: cs, offset⟩)
  | c :: cs, offset =>
    if isDigit c then
      let (taken, behind) := separatedFrom isDigit cs (offset + 1)
      (c :: taken, behind)
    else ([], ⟨c :: cs, offset⟩)
  | [], offset => ([], ⟨[], offset⟩)

/-- Digits ahead with underscores between them; the first character is no underscore. -/
def separated (isDigit : Char → Bool) (cur : Cursor) : List Char × Cursor :=
  match cur.rest with
  | '_' :: _ => ([], cur)
  | _ => separatedFrom isDigit cur.rest cur.offset

/-- The sign ahead, if there is one. -/
def sign (cur : Cursor) : List Char × Cursor :=
  match cur.rest with
  | c :: cs => if c = '+' ∨ c = '-' then ([c], cur.skip c cs) else ([], cur)
  | [] => ([], cur)

/-- The digits of a whole number in decimal: a lone zero, or digits that start with another one. -/
def wholeDigits (cur : Cursor) : List Char × Cursor :=
  match cur.rest with
  | '0' :: cs => (['0'], cur.skip '0' cs)
  | _ => separated Decimal.isDigit cur

/-- A whole number in a radix, behind the letter of the radix. It has no sign. -/
def radixNumber (radix : Nat) (cur : Cursor) : Except SyntaxFault (Number × Cursor) :=
  let (digits, behind) := separated (fun c => (Numeral.digitValue? radix c).isSome) cur
  match Numeral.ofDigits? radix digits with
  | some n => if n < 1 <<< 63 then .ok (.whole n, behind) else cur.fault .numberOutOfRange
  | none => cur.fault .expectedValue

/-- The point and the digits behind it, if there is a point. -/
def fraction (cur : Cursor) : Except SyntaxFault (List Char × Cursor) :=
  match expect? '.' cur with
  | some behind =>
    let (digits, next) := separated Decimal.isDigit behind
    if digits.isEmpty then behind.fault .expectedValue else .ok ('.' :: digits, next)
  | none => .ok ([], cur)

/-- The exponent with its letter, if there is one. -/
def exponent (cur : Cursor) : Except SyntaxFault (List Char × Cursor) :=
  match cur.rest with
  | c :: cs =>
    if c = 'e' ∨ c = 'E' then
      let (signs, behind) := sign (cur.skip c cs)
      let (digits, next) := separated Decimal.isDigit behind
      if digits.isEmpty then behind.fault .expectedValue
      else .ok ('e' :: signs ++ digits, next)
    else .ok ([], cur)
  | [] => .ok ([], cur)

/-- A decimal number, from its sign and behind it. No number with a point is positive and
    infinite. -/
def decimalNumber (negative : Bool) (cur : Cursor) : Except SyntaxFault (Number × Cursor) := do
  let (digits, behind) := wholeDigits cur
  if digits.isEmpty then throw ⟨.expectedValue, cur.offset⟩
  let (point, behind) ← fraction behind
  let (power, behind) ← exponent behind
  if point.isEmpty && power.isEmpty then
    match Numeral.ofDigits? 10 digits with
    | some n =>
      if negative then
        if n ≤ 1 <<< 63 then return (.whole (-n), behind)
      else if n < 1 <<< 63 then return (.whole n, behind)
      throw ⟨.numberOutOfRange, cur.offset⟩
    | none => throw ⟨.expectedValue, cur.offset⟩
  else
    match Decimal.magnitude? negative (digits ++ point ++ power) with
    | some x =>
      if !x.isFinite && !negative then throw ⟨.numberOutOfRange, cur.offset⟩
      else return (.float x, behind)
    | none => throw ⟨.expectedValue, cur.offset⟩

/-- A number of any form. -/
def number (cur : Cursor) : Except SyntaxFault (Number × Cursor) :=
  let (signs, behind) := sign cur
  let negative := signs = ['-']
  match behind.rest with
  | 'i' :: 'n' :: 'f' :: cs => .ok (.float (.infinite negative), ⟨cs, behind.offset + 3⟩)
  | 'n' :: 'a' :: 'n' :: cs => .ok (.float .nan, ⟨cs, behind.offset + 3⟩)
  | '0' :: 'x' :: cs =>
    if signs.isEmpty then radixNumber 16 ⟨cs, cur.offset + 2⟩ else decimalNumber negative behind
  | '0' :: 'o' :: cs =>
    if signs.isEmpty then radixNumber 8 ⟨cs, cur.offset + 2⟩ else decimalNumber negative behind
  | '0' :: 'b' :: cs =>
    if signs.isEmpty then radixNumber 2 ⟨cs, cur.offset + 2⟩ else decimalNumber negative behind
  | _ => decimalNumber negative behind

end StimulusBench.Toml
