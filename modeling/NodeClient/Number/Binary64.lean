/-! # Binary floating-point numbers

A number is not-a-number, an infinity, or a sign with `significand · 2 ^ exponent`. Finite numbers
are kept in one form: the significand is below `2 ^ 53`, and it is at least `2 ^ 52` unless the
exponent is the least one, −1074. All arithmetic is exact in natural numbers and rounds once, to the
nearest number and on a tie to the even significand. A multiple of `base ^ exponent` is a quotient of
natural numbers there, whatever the sign of the exponent: the multiple of `power base exponent` over
`power base (-exponent)`, one of which is 1.
-/

namespace NodeClient

namespace Number

/-- A power of a base; with a negative exponent it is 1. -/
def power (base : Nat) (exponent : Int) : Nat := Nat.pow base exponent.toNat

theorem power_of_nonpos {base : Nat} {exponent : Int} (nonpos : exponent ≤ 0) :
    power base exponent = 1 := by
  rw [power, Int.toNat_of_nonpos nonpos]
  rfl

theorem power_pos {base : Nat} (positive : 0 < base) (exponent : Int) :
    0 < power base exponent :=
  Nat.pow_pos positive

end Number

/-- A 64-bit binary floating-point number. -/
inductive Binary64 where
  | nan
  | infinite (negative : Bool)
  | finite (negative : Bool) (significand : Nat) (exponent : Int)
  deriving Repr, DecidableEq

namespace Binary64

def leastExponent : Int := -1074

def greatestExponent : Int := 971

/-- Least significand above the least exponent, `2 ^ 52`; significands are below its double. -/
def leastSignificand : Nat := 4503599627370496

def zeroOf (negative : Bool) : Binary64 := .finite negative 0 leastExponent

/-- A quotient rounded to the nearest integer, half to even. -/
def roundQuotient (numerator denominator : Nat) : Nat :=
  let quotient := numerator / denominator
  let doubled := 2 * (numerator % denominator)
  if doubled < denominator ∨ (doubled = denominator ∧ quotient % 2 = 0) then quotient
  else quotient + 1

/-- A quotient in units of a power of two, rounded to the nearest integer, half to even. -/
def significandAt (numerator denominator : Nat) (exponent : Int) : Nat :=
  roundQuotient (numerator * Number.power 2 (-exponent)) (denominator * Number.power 2 exponent)

/-- The greatest power of two, as an exponent, that a positive quotient reaches. -/
def orderOf (numerator denominator : Nat) : Int :=
  let guess : Int := (numerator.log2 : Int) - (denominator.log2 : Int)
  if denominator * Number.power 2 guess ≤ numerator * Number.power 2 (-guess) then guess
  else guess - 1

/-- The number nearest to a quotient; one beyond the greatest finite number is infinite. -/
def ofQuotient (negative : Bool) (numerator denominator : Nat) : Binary64 :=
  if numerator = 0 then zeroOf negative
  else
    let exponent := max (orderOf numerator denominator - 52) leastExponent
    let significand := significandAt numerator denominator exponent
    let (significand, exponent) :=
      if significand = 2 * leastSignificand then (leastSignificand, exponent + 1)
      else (significand, exponent)
    if greatestExponent < exponent then .infinite negative
    else .finite negative significand exponent

/-- The number nearest to `coefficient · 10 ^ exponent`. Exponents so far out that the answer is
zero or infinite are decided by the count of digits. -/
def ofDecimal (negative : Bool) (coefficient : Nat) (exponent : Int) : Binary64 :=
  if coefficient = 0 then zeroOf negative
  else
    let order : Int := (Nat.toDigits 10 coefficient).length + exponent
    if 320 < order then .infinite negative
    else if order < -340 then zeroOf negative
    else
      ofQuotient negative (coefficient * Number.power 10 exponent) (Number.power 10 (-exponent))

/-- The number nearest to an integer over a positive divisor, unless it is out of range. -/
def ofRatio? (value : Int) (divisor : Nat) : Option Binary64 :=
  match ofQuotient (value < 0) value.natAbs divisor with
  | .finite negative significand exponent => some (.finite negative significand exponent)
  | _ => none

/-- The number nearest to an integer, unless it is out of range. -/
def ofInt? (value : Int) : Option Binary64 := ofRatio? value 1

def isNegative : Binary64 → Bool
  | .nan => false
  | .infinite negative => negative
  | .finite negative significand _ => negative && significand != 0

def isPositive : Binary64 → Bool
  | .nan => false
  | .infinite negative => !negative
  | .finite negative significand _ => !negative && significand != 0

/-- Whether two numbers have the same value: zeros do whatever their signs, not-a-number never. -/
def sameValue : Binary64 → Binary64 → Bool
  | .infinite left, .infinite right => left == right
  | .finite left significand exponent, .finite right significand' exponent' =>
    significand == significand' && exponent == exponent' && (left == right || significand == 0)
  | _, _ => false

/-- Whether a number has exactly the value of an integer. -/
def equalsInt (number : Binary64) (value : Int) : Bool :=
  match number with
  | .finite negative significand exponent =>
    let signed : Int := if negative then -(significand : Int) else significand
    signed * Number.power 2 exponent == value * Number.power 2 (-exponent)
  | _ => false

def wholePart (significand : Nat) (exponent : Int) : Nat :=
  significand * Number.power 2 exponent / Number.power 2 (-exponent)

/-- The part below one of a finite magnitude, as a numerator over a power of two. -/
def fraction (significand : Nat) (exponent : Int) : Nat × Nat :=
  let denominator := Number.power 2 (-exponent)
  (significand * Number.power 2 exponent % denominator, denominator)

/-- The integer nearest to a finite magnitude, half to even. -/
def nearestNat (significand : Nat) (exponent : Int) : Nat :=
  roundQuotient (significand * Number.power 2 exponent) (Number.power 2 (-exponent))

end Binary64

end NodeClient
