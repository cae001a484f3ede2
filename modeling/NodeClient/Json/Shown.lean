import NodeClient.Json.Value
import NodeClient.Number.Shortest
import NodeClient.Text.Quoted

/-! # Values in messages and log records

A value is shown with its strings quoted, items between brackets and members between braces, and
the words `None`, `True` and `False`. Where a message is built from a value, a string on its own
stands there without quotes.
-/

namespace NodeClient.Value

variable {κ : Type} [Constant κ]

mutual

def shown : Value κ → String
  | .null => "None"
  | .bool value => if value then "True" else "False"
  | .int value => toString value
  | .float value => value.text
  | .str value => Text.quoted value
  | .const value => Constant.shown value
  | .arr items => "[" ++ ", ".intercalate (shownItems items) ++ "]"
  | .obj members => "\x7b" ++ ", ".intercalate (shownMembers members) ++ "\x7d"

def shownItems : List (Value κ) → List String
  | [] => []
  | item :: rest => shown item :: shownItems rest

/-- Every member as its quoted name, a colon and the value. -/
def shownMembers : List (String × Value κ) → List String
  | [] => []
  | (name, value) :: rest => (Text.quoted name ++ ": " ++ shown value) :: shownMembers rest

end

/-- A value inside a message: a string stands for itself. -/
def plain : Value κ → String
  | .str value => value
  | value => shown value

end NodeClient.Value
