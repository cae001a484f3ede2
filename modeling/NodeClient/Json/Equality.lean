import NodeClient.Json.Value

/-! # Loose equality of values

Numbers are equal by value whatever their kind, with false and true as 0 and 1. A constant that is a
string or an integer equals its value, and any other one only itself. Lists are equal item by item,
and objects by the values of the same members in any order. Not-a-number equals nothing on its own,
but an item or member that is not-a-number matches another.
-/

namespace NodeClient.Value

variable {κ : Type} [Constant κ]

/-- The integer a value counts as, if it is an integer, a boolean or a constant integer. -/
def asInt? : Value κ → Option Int
  | .bool value => some (if value then 1 else 0)
  | .int value => some value
  | .const value =>
    match Constant.meaning value with
    | .integer number => some number
    | _ => none
  | _ => none

/-- The string a value counts as, if it is a string or a constant string. -/
def asText? : Value κ → Option String
  | .str value => some value
  | .const value =>
    match Constant.meaning value with
    | .text word => some word
    | _ => none
  | _ => none

/-- Whether both values are one constant that is neither a string nor an integer. -/
def sameConstant : Value κ → Value κ → Bool
  | .const left, .const right =>
    (Constant.meaning left).isOther && (Constant.meaning right).isOther && Constant.same left right
  | _, _ => false

/-- Equality of values that hold no others. -/
def scalarEquals (left right : Value κ) : Bool :=
  match left, right with
  | .null, .null => true
  | .float left, .float right => left.sameValue right
  | .float left, right => (asInt? right).any left.equalsInt
  | left, .float right => (asInt? left).any right.equalsInt
  | left, right =>
    match asInt? left, asInt? right with
    | some left, some right => left == right
    | _, _ =>
      match asText? left, asText? right with
      | some left, some right => left == right
      | _, _ => sameConstant left right

def bothNan : Value κ → Value κ → Bool
  | .float .nan, .float .nan => true
  | _, _ => false

mutual

def equals : Value κ → Value κ → Bool
  | .arr left, right =>
    match right with
    | .arr right => itemsEqual left right
    | _ => false
  | .obj left, right =>
    match right with
    | .obj right => left.length == right.length && membersEqual left right
    | _ => false
  | .null, right => scalarEquals .null right
  | .bool value, right => scalarEquals (.bool value) right
  | .int value, right => scalarEquals (.int value) right
  | .float value, right => scalarEquals (.float value) right
  | .str value, right => scalarEquals (.str value) right
  | .const value, right => scalarEquals (.const value) right

def itemsEqual : List (Value κ) → List (Value κ) → Bool
  | [], [] => true
  | left :: lefts, right :: rights =>
    (bothNan left right || equals left right) && itemsEqual lefts rights
  | _, _ => false

/-- Whether every member on the left has an equal one on the right. -/
def membersEqual : List (String × Value κ) → List (String × Value κ) → Bool
  | [], _ => true
  | (name, left) :: lefts, rights =>
    (match rights.lookup name with
      | some right => bothNan left right || equals left right
      | none => false) && membersEqual lefts rights

end

end NodeClient.Value
