/-!
# `StimulusBench.Number.Numeral` — whole numbers written in a radix

Reading and writing of digit strings, shared by every text format of the library.

## Contents
- **Digits.** `digitValue?` gives the value of one digit in a radix up to sixteen.
- **Reading.** `ofDigits?` reads a non-empty digit string; it refuses anything else.
- **Writing.** `decimal` and `hexByte` write the digits the formats of this library need.
-/

namespace StimulusBench.Numeral

/-- The value of an ASCII digit or letter `a`–`f` (either case), if it is below the radix. -/
def digitValue? (radix : Nat) (c : Char) : Option Nat :=
  let v :=
    if '0' ≤ c ∧ c ≤ '9' then some (c.toNat - '0'.toNat)
    else if 'a' ≤ c ∧ c ≤ 'f' then some (c.toNat - 'a'.toNat + 10)
    else if 'A' ≤ c ∧ c ≤ 'F' then some (c.toNat - 'A'.toNat + 10)
    else none
  v.filter (· < radix)

/-- The value of a digit string, most significant digit first, added to what was read before. -/
def foldDigits? (radix : Nat) : Nat → List Char → Option Nat
  | acc, [] => some acc
  | acc, c :: cs =>
    match digitValue? radix c with
    | some d => foldDigits? radix (acc * radix + d) cs
    | none => none

/-- The value of a **non-empty** digit string. -/
def ofDigits? (radix : Nat) : List Char → Option Nat
  | [] => none
  | c :: cs => foldDigits? radix 0 (c :: cs)

/-- The decimal digits of a number, no leading zeros. -/
def decimal (n : Nat) : List Char := Nat.toDigits 10 n

/-- The decimal text of a number. -/
def decimalText (n : Nat) : String := String.ofList (decimal n)

/-- The decimal text of a signed number; only negative numbers carry a sign. -/
def signedText (n : Int) : String :=
  if n < 0 then "-" ++ decimalText n.natAbs else decimalText n.natAbs

/-- The two lower-case hexadecimal digits of a byte. -/
def hexByte (b : UInt8) : List Char :=
  [Nat.digitChar (b.toNat / 16), Nat.digitChar (b.toNat % 16)]

/-- The lower-case hexadecimal digits of a number, no leading zeros. -/
def hexadecimal (n : Nat) : List Char := Nat.toDigits 16 n

/-- Why a decimal numeral was refused. -/
inductive Fault
  | empty
  | notADigit
  | tooLarge
  | tooSmall
  deriving Repr, DecidableEq

/-- The wording of a refused numeral. -/
def Fault.message : Fault → String
  | .empty => "cannot parse integer from empty string"
  | .notADigit => "invalid digit found in string"
  | .tooLarge => "number too large to fit in target type"
  | .tooSmall => "number too small to fit in target type"

/-- The value of decimal digits added to what was read before. The first digit that takes the value
    out of bounds is a fault, as is the first character that is no digit. -/
def foldBelow (bound : Nat) (overflow : Fault) : Nat → List Char → Except Fault Nat
  | acc, [] => .ok acc
  | acc, c :: cs =>
    match digitValue? 10 c with
    | none => .error .notADigit
    | some d =>
      if acc * 10 + d < bound then foldBelow bound overflow (acc * 10 + d) cs else .error overflow

/-- The value of decimal digits, of which there has to be one. -/
def digitsBelow (bound : Nat) (overflow : Fault) : List Char → Except Fault Nat
  | [] => .error .notADigit
  | c :: cs => foldBelow bound overflow 0 (c :: cs)

/-- A decimal numeral below `bound`, with an optional `+`. A lone sign has no digit to read. -/
def natural (bound : Nat) : List Char → Except Fault Nat
  | [] => .error .empty
  | '+' :: digits => digitsBelow bound .tooLarge digits
  | digits => digitsBelow bound .tooLarge digits

/-- A decimal numeral with an optional sign that fits a signed word of 64 bits. -/
def signed64 : List Char → Except Fault Int
  | '-' :: digits => (digitsBelow (1 <<< 63 + 1) .tooSmall digits).map fun n => -(n : Int)
  | digits => (natural (1 <<< 63) digits).map Int.ofNat

end StimulusBench.Numeral
