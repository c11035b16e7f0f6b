import StimulusBench.Number.Binary64

/-!
# `StimulusBench.Number.Decimal` — decimal numerals with a point or an exponent

Reading numerals such as `1.5`, `.5`, `2.` and `1e-3` as binary64 numbers.

## Contents
- **Parts.** `digits` and `exponent?` read the parts of a numeral.
- **Numerals.** `Decimal.ofChars?` reads a whole numeral, correctly rounded.
-/

namespace StimulusBench.Decimal

/-- Whether a character is an ASCII digit. -/
def isDigit (c : Char) : Bool := '0' ≤ c && c ≤ '9'

/-- The value of leading digits added to `acc`, how many there are, and what follows. -/
def digits (acc count : Nat) : List Char → Nat × Nat × List Char
  | [] => (acc, count, [])
  | c :: cs =>
    if isDigit c then digits (acc * 10 + (c.toNat - '0'.toNat)) (count + 1) cs
    else (acc, count, c :: cs)

/-- A whole text that is an exponent with an optional sign. -/
def exponent? (cs : List Char) : Option Int :=
  match cs with
  | '-' :: ds => (Numeral.ofDigits? 10 ds).map fun n => -(n : Int)
  | '+' :: ds => (Numeral.ofDigits? 10 ds).map fun n => (n : Int)
  | ds => (Numeral.ofDigits? 10 ds).map fun n => (n : Int)

/-- A whole text that is a numeral without sign: digits with at most one point, at least one of them
    a digit, and an optional exponent. -/
def magnitude? (negative : Bool) (cs : List Char) : Option Binary64 :=
  let (whole, n, rest) := digits 0 0 cs
  let (value, n', rest) := match rest with
    | '.' :: ds => digits whole 0 ds
    | _ => (whole, 0, rest)
  if n + n' = 0 then none
  else
    match rest with
    | [] => some (Binary64.ofDecimal negative value (-(n' : Int)))
    | e :: ds =>
      if e = 'e' ∨ e = 'E' then
        (exponent? ds).map fun k => Binary64.ofDecimal negative value (k - n')
      else none

/-- A whole text that is a numeral with an optional minus sign. -/
def ofChars? (cs : List Char) : Option Binary64 :=
  match cs with
  | '-' :: ds => magnitude? true ds
  | ds => magnitude? false ds

end StimulusBench.Decimal
