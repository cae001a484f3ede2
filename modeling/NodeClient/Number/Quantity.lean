import NodeClient.Number.Integer
import NodeClient.Number.Shortest

/-! # Numbers as JSON spells them

JSON has one kind of number, and a reader keeps whether it was spelled as an integer. An integer has
any size; the others are floating-point numbers. An integer is written with at most as many digits as
an integer may be read with.
-/

namespace NodeClient

/-- A number that was spelled as an integer or with a fraction or an exponent. -/
inductive Quantity where
  | int (value : Int)
  | float (value : Binary64)
  deriving Repr, DecidableEq

namespace Quantity

def text : Quantity → String
  | .int value => toString value
  | .float value => value.text

/-- Whether a number is an integer with too many digits to be written. -/
def isTooLong : Quantity → Bool
  | .int value => Number.digitLimit < (Nat.toDigits 10 value.natAbs).length
  | .float _ => false

def isNegative : Quantity → Bool
  | .int value => value < 0
  | .float value => value.isNegative

end Quantity

end NodeClient
