import NodeClient.Number.Binary64
import NodeClient.Text.Digit

/-! # Shortest decimal text of a floating-point number

A positive finite number is written with the fewest significant digits that still read back as it,
and among those with the decimal nearest to its value. `shortest` finds that decimal by trying one
digit, then two, up to seventeen, on the grid of decimals with that many digits: if any point of a
grid lies in the interval of reals that round to the number, one of the two neighbours of the value
does. The ends of the interval belong to it exactly when the significand is even.
-/

namespace NodeClient

/-- The decimal number `coefficient · 10 ^ exponent`. -/
structure Decimal where
  coefficient : Nat
  exponent : Int
  deriving Repr, DecidableEq

namespace Decimal

/-- Moves trailing zeros of a coefficient into the exponent. -/
def normalize (fuel : Nat) (decimal : Decimal) : Decimal :=
  match fuel with
  | 0 => decimal
  | fuel + 1 =>
    if decimal.coefficient ≠ 0 ∧ decimal.coefficient % 10 = 0 then
      normalize fuel ⟨decimal.coefficient / 10, decimal.exponent + 1⟩
    else decimal

end Decimal

namespace Binary64

/-- A magnitude and the ends of the interval that rounds to it, over one denominator. -/
structure Span where
  low : Nat
  value : Nat
  high : Nat
  denominator : Nat
  closed : Bool

/-- The interval of reals that round to `significand · 2 ^ exponent`. Below a power of two the
numbers lie twice as close. -/
def spanOf (significand : Nat) (exponent : Int) : Span :=
  let below := if significand = leastSignificand ∧ leastExponent < exponent then 1 else 2
  let unit := exponent - 2
  let scale := Number.power 2 unit
  { low := (4 * significand - below) * scale
    value := 4 * significand * scale
    high := (4 * significand + 2) * scale
    denominator := Number.power 2 (-unit)
    closed := significand % 2 == 0 }

/-- The greatest power of ten, as an exponent, that a positive quotient reaches. -/
def decimalOrder (numerator denominator : Nat) : Int :=
  if denominator ≤ numerator then
    (Nat.toDigits 10 (numerator / denominator)).length - 1
  else
    -((Nat.toDigits 10 ((denominator - 1) / numerator)).length : Int)

/-- The decimal with a given count of digits that is nearest to a value, if it rounds to it. -/
def candidate? (span : Span) (order : Int) (digits : Nat) : Option Decimal :=
  let exponent := order - (digits - 1 : Nat)
  let unit := span.denominator * Number.power 10 exponent
  let scale := Number.power 10 (-exponent)
  let inside (coefficient : Nat) : Bool :=
    if span.closed then
      span.low * scale ≤ coefficient * unit && coefficient * unit ≤ span.high * scale
    else span.low * scale < coefficient * unit && coefficient * unit < span.high * scale
  let lower := span.value * scale / unit
  let upper := lower + 1
  let lowerGap := span.value * scale - lower * unit
  let upperGap := upper * unit - span.value * scale
  match inside lower, inside upper with
  | true, true =>
    if lowerGap < upperGap ∨ (lowerGap = upperGap ∧ lower % 2 = 0) then some ⟨lower, exponent⟩
    else some ⟨upper, exponent⟩
  | true, false => some ⟨lower, exponent⟩
  | false, true => some ⟨upper, exponent⟩
  | false, false => none

/-- The exact decimal value of `significand · 2 ^ exponent`. -/
def exactDecimal (significand : Nat) (exponent : Int) : Decimal :=
  ⟨significand * Number.power 2 exponent * Number.power 5 (-exponent), min exponent 0⟩

/-- The decimal with the fewest digits that rounds to `significand · 2 ^ exponent`, and the nearest
of those; its coefficient does not end in zero. -/
def shortest (significand : Nat) (exponent : Int) : Decimal :=
  if significand = 0 then ⟨0, 0⟩
  else
    let span := spanOf significand exponent
    let order := decimalOrder span.value span.denominator
    let found := (List.range 17).findSome? fun index => candidate? span order (index + 1)
    (found.getD (exactDecimal significand exponent)).normalize 400

/-- Least decimal exponent that is written positionally. -/
def leastPositional : Int := -4

/-- Least positive decimal exponent that is written with an exponent mark. -/
def leastScientific : Int := 16

/-- The text of a decimal: positional where the exponent is moderate, with a point and at least one
digit after it, and otherwise with an exponent of a sign and at least two digits. -/
def decimalText (decimal : Decimal) : List Char :=
  let digits := Nat.toDigits 10 decimal.coefficient
  let order := decimal.exponent + (digits.length - 1 : Nat)
  if decimal.coefficient = 0 then ['0', '.', '0']
  else if leastPositional ≤ order ∧ order < leastScientific then
    if 0 ≤ decimal.exponent then
      digits ++ List.replicate decimal.exponent.toNat '0' ++ ['.', '0']
    else if 0 ≤ order then
      digits.take (order.toNat + 1) ++ '.' :: digits.drop (order.toNat + 1)
    else ['0', '.'] ++ List.replicate ((-order).toNat - 1) '0' ++ digits
  else
    let mantissa :=
      match digits with
      | [] => []
      | [single] => [single]
      | first :: more => first :: '.' :: more
    mantissa ++ 'e' :: (if order < 0 then '-' else '+') :: Text.decimal 2 order.natAbs

/-- The text of a number; the special values are the words `nan` and `inf`. -/
def text : Binary64 → String
  | .nan => "nan"
  | .infinite negative => if negative then "-inf" else "inf"
  | .finite negative significand exponent =>
    let magnitude := decimalText (shortest significand exponent)
    String.ofList (if negative then '-' :: magnitude else magnitude)

end Binary64

end NodeClient
