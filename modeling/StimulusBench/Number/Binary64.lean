import StimulusBench.Number.Numeral

/-!
# `StimulusBench.Number.Binary64` — double-precision numbers and their shortest decimal text

A number of the IEEE 754 binary64 format, held exactly as `mantissa · 2 ^ exponent`, so that every
rounding below is exact arithmetic on natural numbers.

## Contents
- **Rounding.** `Binary64.ofRatio` rounds a quotient to the nearest number, ties to the even
  mantissa; `Binary64.ofDecimal` reads `digits · 10 ^ exponent` that way.
- **Shortest digits.** `Binary64.shortest` finds the fewest digits that read back as the number,
  and of those the nearest to it.
- **Texts.** `Layout` says where positional notation ends; `plain` and `scientific` are the two
  layouts in use.
-/

namespace StimulusBench

/-- A number of the binary64 format. A finite one is `mantissa · 2 ^ exponent`. -/
inductive Binary64
  | nan
  | infinite (negative : Bool)
  | finite (negative : Bool) (mantissa : Nat) (exponent : Int)
  deriving Repr, DecidableEq

namespace Binary64

/-! ## Rounding -/

/-- The quotient `num / den` with a power of two moved from one side to the other. -/
def scaled (num den : Nat) (shift : Int) : Nat × Nat :=
  if shift < 0 then (num <<< shift.natAbs, den) else (num, den <<< shift.natAbs)

/-- The quotient rounded to the nearest whole number, a half going to the even neighbour. -/
def nearestEven (num den : Nat) : Nat :=
  let q := num / den
  let twice := 2 * (num % den)
  if twice < den then q
  else if den < twice then q + 1
  else if q % 2 = 0 then q else q + 1

/-- The nearest magnitude to `num / den`; past the largest finite number it is infinite. -/
def ofRatio (negative : Bool) (num den : Nat) : Binary64 :=
  if num = 0 then .finite negative 0 0
  else
    -- `2 ^ estimate ≤ num / den < 2 ^ (estimate + 2)`
    let estimate : Int := (Nat.log2 num : Int) - (Nat.log2 den : Int) - 1
    let above := scaled num den (estimate + 1)
    let log : Int := if above.2 ≤ above.1 then estimate + 1 else estimate
    let exponent : Int := max (log - 52) (-1074)
    let (n, d) := scaled num den exponent
    let mantissa := nearestEven n d
    -- Rounding up may leave the binade; the value stays right.
    let (mantissa, exponent) :=
      if mantissa = 1 <<< 53 then (1 <<< 52, exponent + 1) else (mantissa, exponent)
    if exponent > 971 then .infinite negative else .finite negative mantissa exponent

/-- The nearest number to `digits · 10 ^ exponent`. -/
def ofDecimal (negative : Bool) (digits : Nat) (exponent : Int) : Binary64 :=
  if digits = 0 then .finite negative 0 0
  else if exponent > 400 then .infinite negative
  else if exponent < -(400 + (Nat.log2 digits : Int)) then .finite negative 0 0
  else if exponent < 0 then ofRatio negative digits (Nat.pow 10 exponent.natAbs)
  else ofRatio negative (digits * Nat.pow 10 exponent.natAbs) 1

/-- The magnitude of a finite number as a quotient. -/
def ratio (mantissa : Nat) (exponent : Int) : Nat × Nat :=
  if exponent < 0 then (mantissa, 1 <<< exponent.natAbs) else (mantissa <<< exponent.natAbs, 1)

/-- Whether the number is neither infinite nor not-a-number. -/
def isFinite : Binary64 → Bool
  | .finite .. => true
  | _ => false

/-- The product, correctly rounded; the operands are finite and not negative. -/
def mul : Binary64 → Binary64 → Binary64
  | .finite _ m e, .finite _ m' e' =>
    let (n, d) := ratio (m * m') (e + e')
    ofRatio false n d
  | _, _ => .infinite false

/-- The quotient, correctly rounded; the operands are finite and not negative. -/
def div : Binary64 → Binary64 → Binary64
  | .finite _ m e, .finite _ m' e' =>
    let (n, d) := ratio m (e - e')
    ofRatio false n (d * m')
  | _, _ => .infinite false

/-! ## Shortest digits -/

/-- A power of ten as a quotient. -/
def powTen (k : Int) : Nat × Nat :=
  if k < 0 then (1, Nat.pow 10 k.natAbs) else (Nat.pow 10 k.natAbs, 1)

/-- The largest `k` with `10 ^ k ≤ num / den`, for a positive quotient, searched downwards. -/
def logTen (num den : Nat) : Nat → Int → Int
  | 0, k => k
  | fuel + 1, k =>
    let (n, d) := powTen k
    if n * den ≤ num * d then k else logTen num den fuel (k - 1)

/-- A decimal candidate: its digits as a number and the power of ten of its last digit. -/
structure Digits where
  value : Nat
  exponent : Int
  deriving Repr, DecidableEq

/-- Twice the neighbours' midpoints of a positive number, as numerators over `4 · den`: the
    decimals strictly between them (or on them, for an even mantissa) read back as the number. -/
def readsBack (mantissa : Nat) (exponent : Int) (candidate : Digits) : Bool :=
  let (num, den) := ratio 1 (exponent - 2)
  -- the number is `4 · mantissa · num / den`
  let low := if mantissa = 1 <<< 52 ∧ exponent > -1074 then 4 * mantissa - 1 else 4 * mantissa - 2
  let high := 4 * mantissa + 2
  let (tn, td) := powTen candidate.exponent
  let c := candidate.value * tn * den
  let lowEnd := low * num * td
  let highEnd := high * num * td
  if mantissa % 2 = 0 then lowEnd ≤ c && c ≤ highEnd else lowEnd < c && c < highEnd

/-- The fewest digits that read back, tried from `17 - fuel` digits on; of two candidates on the
    same grid the nearer wins. -/
def search (mantissa : Nat) (exponent : Int) (num den : Nat) (log : Int) : Nat → Nat → Digits
  | 0, count =>
    let unit := log - (count : Int) + 1
    let (tn, td) := powTen unit
    ⟨nearestEven (num * td) (den * tn), unit⟩
  | fuel + 1, count =>
    let unit := log - (count : Int) + 1
    let (tn, td) := powTen unit
    let below := num * td / (den * tn)
    let lower : Digits := ⟨below, unit⟩
    let upper : Digits := ⟨below + 1, unit⟩
    match readsBack mantissa exponent lower, readsBack mantissa exponent upper with
    | true, true =>
      if 2 * (num * td % (den * tn)) ≤ den * tn then lower else upper
    | true, false => lower
    | false, true => upper
    | false, false => search mantissa exponent num den log fuel (count + 1)

/-- Trailing zeros move into the exponent. -/
def Digits.trim : Nat → Digits → Digits
  | 0, d => d
  | fuel + 1, d =>
    if d.value ≠ 0 ∧ d.value % 10 = 0 then trim fuel ⟨d.value / 10, d.exponent + 1⟩ else d

/-- The shortest decimal that reads back as `mantissa · 2 ^ exponent`. -/
def shortest (mantissa : Nat) (exponent : Int) : Digits :=
  if mantissa = 0 then ⟨0, 0⟩
  else
    let (num, den) := ratio mantissa exponent
    (search mantissa exponent num den (logTen num den 700 310) 16 1).trim 400

/-! ## Texts -/

/-- Which numbers are written positionally: those whose leading digit stands for `10 ^ k` with
    `least ≤ k ≤ greatest`. The others are written with an exponent. -/
structure Layout where
  least : Int
  greatest : Int
  deriving Repr, DecidableEq

/-- Every number is written positionally. -/
def Layout.plain : Layout := ⟨-400, 400⟩

/-- Numbers from `1e-5` up to `1e16` are written positionally. -/
def Layout.scientific : Layout := ⟨-5, 15⟩

/-- Positional digits, with at least one digit on either side of the point. -/
def Digits.positional (d : Digits) : List Char :=
  let ds := Numeral.decimal d.value
  if 0 ≤ d.exponent then ds ++ List.replicate d.exponent.natAbs '0' ++ ['.', '0']
  else
    let places := d.exponent.natAbs
    let padded := List.replicate (places + 1 - ds.length) '0' ++ ds
    padded.take (padded.length - places) ++ '.' :: padded.drop (padded.length - places)

/-- One digit, the other digits after a point, and the exponent of the first digit. -/
def Digits.exponential (d : Digits) : List Char :=
  let ds := Numeral.decimal d.value
  let lead : Int := d.exponent + ds.length - 1
  let fraction := match ds.drop 1 with
    | [] => []
    | rest => '.' :: rest
  ds.take 1 ++ fraction ++ 'e' :: (Numeral.signedText lead).toList

/-- The text of a finite number's magnitude. -/
def Digits.render (layout : Layout) (d : Digits) : List Char :=
  let lead : Int := d.exponent + (Numeral.decimal d.value).length - 1
  if layout.least ≤ lead ∧ lead ≤ layout.greatest then d.positional else d.exponential

/-- The shortest text of a number that keeps a digit after the point. -/
def text (layout : Layout) : Binary64 → String
  | .nan => "NaN"
  | .infinite negative => if negative then "-inf" else "inf"
  | .finite negative m e =>
    String.ofList ((if negative then ['-'] else []) ++ (shortest m e).render layout)

end Binary64

end StimulusBench
