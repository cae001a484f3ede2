import NodeClient.Json.Value

/-! # Shapes of results

A shape says what the result of a wire method must look like. Reading is strict: no member is
converted from another JSON type, except that an integer may stand where a floating-point number is
expected. Members that a shape does not declare are ignored. Every problem is reported, in the order
of the declared members, and the answer of a successful reading holds exactly the declared members
in that order.
-/

namespace NodeClient

/-- What happens when a declared member is absent. -/
inductive Presence where
  | required
  | orNull
  | orEmpty
  deriving Repr, DecidableEq

/-- A declared member of a record: its name, whether it may be absent, and what it holds. -/
structure FieldOf (κ : Type) where
  name : String
  presence : Presence
  kind : κ
  deriving Repr

/-- What a value must be. -/
inductive Shape where
  | null
  | bool
  | int
  | number
  | text
  | counters
  | list (item : Shape)
  | record (name : String) (fields : List (FieldOf Shape))
  deriving Repr

/-- A declared member of a record. -/
abbrev Field := FieldOf Shape

/-- A value that was read by a shape. -/
inductive Raw where
  | null
  | bool (value : Bool)
  | int (value : Int)
  | number (value : Binary64)
  | text (value : String)
  | counters (entries : List (String × Int))
  | list (items : List Raw)
  | record (shape : String) (members : List (String × Raw))
  deriving Repr

instance : Inhabited Raw := ⟨.null⟩

/-- One step of the way to a nested value. -/
inductive Step where
  | member (name : String)
  | item (index : Nat)
  deriving Repr, DecidableEq

def Step.text : Step → String
  | .member name => name
  | .item index => toString index

/-- What was expected of a value that has a problem. -/
inductive Expectation where
  | present
  | null
  | bool
  | int
  | number
  | text
  | list
  | counters
  | record (name : String)
  deriving Repr, DecidableEq

def Expectation.message : Expectation → String
  | .present => "Field required"
  | .null => "Input should be None"
  | .bool => "Input should be a valid boolean"
  | .int => "Input should be a valid integer"
  | .number => "Input should be a valid number"
  | .text => "Input should be a valid string"
  | .list => "Input should be a valid list"
  | .counters => "Input should be a valid dictionary"
  | .record name => s!"Input should be a valid dictionary or instance of {name}"

def Expectation.code : Expectation → String
  | .present => "missing"
  | .null => "none_required"
  | .bool => "bool_type"
  | .int => "int_type"
  | .number => "float_type"
  | .text => "string_type"
  | .list => "list_type"
  | .counters => "dict_type"
  | .record _ => "model_type"

/-- A problem of a value, with the way to it. -/
structure Mismatch where
  path : List Step
  expected : Expectation
  deriving Repr, DecidableEq

namespace Mismatch

/-- A problem seen from one step further out. -/
def under (step : Step) (mismatch : Mismatch) : Mismatch :=
  { mismatch with path := step :: mismatch.path }

/-- The way to a problem, with points between the steps. -/
def location (mismatch : Mismatch) : String := ".".intercalate (mismatch.path.map Step.text)

end Mismatch

/-- A reading: a value, or every problem that was found. -/
abbrev Reading (α : Type) := Except (List Mismatch) α

namespace Reading

/-- A problem with the value at hand. -/
def refuse {α : Type} (expected : Expectation) : Reading α := .error [⟨[], expected⟩]

/-- A reading seen from one step further out. -/
def under {α : Type} (step : Step) : Reading α → Reading α
  | .ok value => .ok value
  | .error problems => .error (problems.map (Mismatch.under step))

/-- Puts a reading in front of the readings that follow it, and keeps the problems of both. -/
def cons {α : Type} : Reading α → Reading (List α) → Reading (List α)
  | .ok head, .ok tail => .ok (head :: tail)
  | .ok _, .error problems => .error problems
  | .error problems, .ok _ => .error problems
  | .error problems, .error others => .error (problems ++ others)

/-- Reads every item of a list. -/
def items (read : Json → Reading Raw) : Nat → List Json → Reading (List Raw)
  | _, [] => .ok []
  | index, item :: rest => cons (under (.item index) (read item)) (items read (index + 1) rest)

/-- Reads every value of an object as an integer. -/
def counts : List (String × Json) → Reading (List (String × Int))
  | [] => .ok []
  | (name, value) :: rest =>
    let count : Reading (String × Int) :=
      match value with
      | .int value => .ok (name, value)
      | _ => refuse .int
    cons (under (.member name) count) (counts rest)

end Reading

namespace Shape

/-- Reads a value that holds no others. -/
def readNumber : Json → Reading Raw
  | .float value => .ok (.number value)
  | .int value =>
    match Binary64.ofInt? value with
    | some value => .ok (.number value)
    | none => Reading.refuse .number
  | _ => Reading.refuse .number

mutual

def read : Shape → Json → Reading Raw
  | .null => fun
    | .null => .ok .null
    | _ => Reading.refuse .null
  | .bool => fun
    | .bool value => .ok (.bool value)
    | _ => Reading.refuse .bool
  | .int => fun
    | .int value => .ok (.int value)
    | _ => Reading.refuse .int
  | .number => readNumber
  | .text => fun
    | .str value => .ok (.text value)
    | _ => Reading.refuse .text
  | .counters => fun
    | .obj members => (Reading.counts members).map .counters
    | _ => Reading.refuse .counters
  | .list item => fun
    | .arr items => (Reading.items (read item) 0 items).map .list
    | _ => Reading.refuse .list
  | .record name fields => fun
    | .obj members => (readFields fields members).map (.record name)
    | _ => Reading.refuse (.record name)

def readFields : List Field → List (String × Json) → Reading (List (String × Raw))
  | [] => fun _ => .ok []
  | ⟨name, presence, kind⟩ :: rest => fun members =>
    let value : Reading Raw :=
      match Value.member? name members, presence with
      | none, .required => Reading.refuse .present
      | none, .orNull => .ok .null
      | none, .orEmpty => .ok (.list [])
      | some .null, .orNull => .ok .null
      | some value, _ => read kind value
    Reading.cons (Reading.under (.member name) (value.map (name, ·))) (readFields rest members)

end

def label : Shape → String
  | .null => "null"
  | .bool => "strict bool"
  | .int => "strict int"
  | .number => "number"
  | .text => "text"
  | .counters => "counters"
  | .list item => s!"list[{item.label}]"
  | .record name _ => name

end Shape

namespace Raw

/-- The value of a member of a record. -/
def member? (name : String) : Raw → Option Raw
  | .record _ members => members.lookup name
  | _ => none

/-- The name of the shape that a record was read by, or of the kind of another value. -/
def shapeName : Raw → String
  | .record shape _ => shape
  | .list _ => "list"
  | _ => "value"

end Raw

end NodeClient
