import NodeClient.Number.Quantity

/-! # Amounts in satoshis

A server sends amounts in whole coins of a hundred million satoshis. An amount stands for the decimal
number that its text spells. It is converted in the precision of decimal arithmetic, 28 significant
digits with a half rounded to even, and a product that is not whole is refused: an amount must not be
finer than one satoshi.
-/

namespace NodeClient

def satoshisPerCoin : Nat := 100000000

/-- Why an amount is refused. -/
inductive AmountFault where
  | invalid
  | subSatoshi
  deriving Repr, DecidableEq

namespace Decimal

/-- A decimal rounded to some significant digits, half to even. -/
def round (digits : Nat) (decimal : Decimal) : Decimal :=
  let surplus := (Nat.toDigits 10 decimal.coefficient).length - digits
  ⟨Binary64.roundQuotient decimal.coefficient (Number.power 10 surplus), decimal.exponent + surplus⟩

/-- The whole number that a decimal is, if it is one. -/
def whole? (decimal : Decimal) : Option Nat :=
  let numerator := decimal.coefficient * Number.power 10 decimal.exponent
  let denominator := Number.power 10 (-decimal.exponent)
  if numerator % denominator = 0 then some (numerator / denominator) else none

end Decimal

namespace Amount

/-- Significant digits of decimal arithmetic. -/
def precision : Nat := 28

/-- The decimal that the magnitude of an amount is written with, if it is finite. -/
def magnitude? : Quantity → Option Decimal
  | .int value => some ⟨value.natAbs, 0⟩
  | .float (.finite _ significand exponent) => some (Binary64.shortest significand exponent)
  | .float _ => none

/-- The product of coins and the satoshis in each. -/
def product (coins : Decimal) : Decimal :=
  Decimal.round precision ⟨coins.coefficient * satoshisPerCoin, coins.exponent⟩

/-- What is there, or else a fault. -/
def orFault {α : Type} (fault : AmountFault) : Option α → Except AmountFault α
  | some value => .ok value
  | none => .error fault

/-- The satoshis of an amount of coins, unless they are not whole. -/
def toSatoshis (amount : Quantity) : Except AmountFault Int :=
  if amount.isNegative then .error .invalid
  else
    (orFault .invalid (magnitude? amount)).bind fun coins =>
      (orFault .subSatoshi (product coins).whole?).map Int.ofNat

end Amount

end NodeClient
