import NodeClient.Number.Binary64

/-! # JSON values

A value is a JSON value in which constants of a type `κ` may stand. A constant has a value that it is
sent as. Some constants are strings or integers themselves and equal their values; others are only
themselves. Log records show a constant by its name. Plain JSON has no constants. Integers have any
size, and the members of an object keep their order.
-/

namespace NodeClient

/-- A JSON value in which constants of type `κ` may stand. -/
inductive Value (κ : Type) where
  | null
  | bool (value : Bool)
  | int (value : Int)
  | float (value : Binary64)
  | str (value : String)
  | const (value : κ)
  | arr (items : List (Value κ))
  | obj (members : List (String × Value κ))
  deriving Repr

/-- A JSON value without constants. -/
abbrev Json := Value Empty

/-- What a constant is: a string or an integer with a name, or something else that has a value. -/
inductive Meaning where
  | text (word : String)
  | integer (number : Int)
  | other (value : Json)
  deriving Repr

namespace Meaning

/-- The value that a constant is sent as. -/
def value : Meaning → Json
  | .text word => .str word
  | .integer number => .int number
  | .other value => value

/-- Whether a constant is neither a string nor an integer, so that it does not equal its value. -/
def isOther : Meaning → Bool
  | .other _ => true
  | _ => false

end Meaning

/-- A type of constants. -/
class Constant (κ : Type) where
  /-- What a constant is. -/
  meaning : κ → Meaning
  /-- The name of the kind of a constant. -/
  kindName : κ → String
  /-- The constant as log records show it. -/
  shown : κ → String
  /-- Whether two constants are one. -/
  same : κ → κ → Bool
  same_self : ∀ constant, same constant constant = true

instance : Constant Empty := ⟨nofun, nofun, nofun, nofun, nofun⟩

namespace Value

instance {κ : Type} : Inhabited (Value κ) := ⟨.null⟩

/-- Whether a value is null, which also means that an argument is not set. -/
def isNull {κ : Type} : Value κ → Bool
  | .null => true
  | _ => false

/-- The value of a member, if the object has one. -/
def member? {κ : Type} (name : String) (members : List (String × Value κ)) : Option (Value κ) :=
  members.lookup name

def memberOrNull {κ : Type} (name : String) (members : List (String × Value κ)) : Value κ :=
  (members.lookup name).getD .null

/-- Sets a member: in place where the object has it, and at the end otherwise. -/
def setMember {κ : Type} (name : String) (value : Value κ) :
    List (String × Value κ) → List (String × Value κ)
  | [] => [(name, value)]
  | (key, old) :: rest =>
    if key = name then (key, value) :: rest else (key, old) :: setMember name value rest

mutual

/-- A JSON value as a value that may hold constants. -/
def ofJson {κ : Type} : Json → Value κ
  | .null => .null
  | .bool value => .bool value
  | .int value => .int value
  | .float value => .float value
  | .str value => .str value
  | .arr items => .arr (ofJsonItems items)
  | .obj members => .obj (ofJsonMembers members)

def ofJsonItems {κ : Type} : List Json → List (Value κ)
  | [] => []
  | item :: rest => ofJson item :: ofJsonItems rest

def ofJsonMembers {κ : Type} : List (String × Json) → List (String × Value κ)
  | [] => []
  | (name, value) :: rest => (name, ofJson value) :: ofJsonMembers rest

end

def kindName {κ : Type} [Constant κ] : Value κ → String
  | .null => "NoneType"
  | .bool _ => "bool"
  | .int _ => "int"
  | .float _ => "float"
  | .str _ => "str"
  | .const value => Constant.kindName value
  | .arr _ => "list"
  | .obj _ => "dict"

end Value

end NodeClient
