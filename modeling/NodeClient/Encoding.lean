import NodeClient.Json.Equality
import NodeClient.Signature

/-! # Encoding arguments

The server takes positional arguments only. Unset optional arguments at the end of the list are
dropped, so that the server applies its defaults; an unset one before a set one is filled with the
default its slot states, since a positional list has no holes. Null means "not set" throughout.
-/

namespace NodeClient

/-- How arguments break the contract of an operation. -/
inductive EncodeCause where
  | tooMany (limit given : Nat)
  | missingDefault (index : Int) (slot : String)
  | missingArgument (slot : String)
  | unsupportedArgument (name : String)
  | conflict (names supplied : List String)
  | stated (text : String)
  deriving Repr, DecidableEq

/-- Arguments that break the contract of an operation. -/
structure EncodeError where
  operation : String
  cause : EncodeCause
  deriving Repr, DecidableEq

def EncodeCause.text : EncodeCause → String
  | .tooMany limit given => s!"expected at most {limit} arguments, got {given}"
  | .missingDefault index slot =>
    s!"missing default for argument {Text.quoted slot} (index {index}); a later argument is set so this slot cannot be omitted"
  | .missingArgument slot => s!"missing required argument {Text.quoted slot}"
  | .unsupportedArgument name =>
    s!"argument {Text.quoted name} is not accepted by this server version"
  | .conflict names supplied =>
    let listed := ", ".intercalate names
    let found := if supplied.isEmpty then "none" else ", ".intercalate supplied
    s!"exactly one of {listed} is required, got {found}"
  | .stated text => text

def EncodeError.message (error : EncodeError) : String :=
  s!"{error.operation}: {error.cause.text}"

namespace Encoding

/-- Slots with the values given for them, unset where no value is given. -/
def pair : List Slot → List Argument → List (Slot × Argument)
  | [], _ => []
  | slot :: slots, [] => (slot, .null) :: pair slots []
  | slot :: slots, value :: values => (slot, value) :: pair slots values

/-- Drops the unset values at the end. -/
def dropUnset : List (Slot × Argument) → List (Slot × Argument)
  | [] => []
  | row :: rest =>
    match dropUnset rest with
    | [] => if row.2.isNull then [] else [row]
    | kept => row :: kept

/-- Fills each unset value with the default of its slot. The last slot without a default is
reported, with its place in the list. -/
def fill (operation : String) : Nat → List (Slot × Argument) → Except EncodeError (List Argument)
  | _, [] => .ok []
  | index, (slot, value) :: rest =>
    match fill operation (index + 1) rest with
    | .error error => .error error
    | .ok filled =>
      if value.isNull then
        match slot.default? with
        | some default => .ok (default :: filled)
        | none => .error ⟨operation, .missingDefault index slot.name⟩
      else .ok (value :: filled)

/-- The shortest positional list that carries the given values: the leading slots, as many as there
are required ones, must be set, and the others are filled up to the last one set. -/
def elide (operation : String) (slots : List Slot) (values : List Argument) :
    Except EncodeError (List Argument) :=
  if slots.length < values.length then
    .error ⟨operation, .tooMany slots.length values.length⟩
  else
    let rows := pair slots values
    let required := slots.countP Slot.isRequired
    match (rows.take required).find? fun row => row.2.isNull with
    | some row => .error ⟨operation, .missingArgument row.1.name⟩
    | none =>
      match fill operation required (dropUnset (rows.drop required)) with
      | .error error => .error error
      | .ok filled =>
        .ok (((rows.take required).map Prod.snd ++ filled).map Argument.toWire)

end Encoding

namespace Signature

/-- Whether a value for a member of the group is a choice: it is set and is not the default that a
hole would be filled with. -/
def isSupplied (signature : Signature) (name : String) (value : Argument) : Bool :=
  !value.isNull &&
    match (signature.slots.find? fun slot => slot.name == name).bind Slot.default? with
    | some default => !Value.equals value default
    | none => true

/-- The members of the group that are supplied, in group order. -/
def supplied (signature : Signature) (values : List (String × Argument)) : List String :=
  signature.exactlyOneOf.filter fun name =>
    signature.isSupplied name (Value.memberOrNull name values)

/-- Encodes named arguments. A name that the signature does not declare is accepted only when its
value is not set. -/
def encode (signature : Signature) (values : List (String × Argument)) :
    Except EncodeError (List Argument) :=
  match values.find? fun given => !signature.names.contains given.1 && !given.2.isNull with
  | some given => .error ⟨signature.method, .unsupportedArgument given.1⟩
  | none =>
    let supplied := signature.supplied values
    if signature.exactlyOneOf ≠ [] ∧ supplied.length ≠ 1 then
      .error ⟨signature.method, .conflict signature.exactlyOneOf supplied⟩
    else
      Encoding.elide signature.method signature.slots
        (signature.names.map fun name => Value.memberOrNull name values)

/-- Encodes positional arguments, null where a slot is not set. -/
def encodePositional (signature : Signature) (values : List Argument) :
    Except EncodeError (List Argument) :=
  if signature.slots.length < values.length then
    .error ⟨signature.method, .tooMany signature.slots.length values.length⟩
  else signature.encode (signature.names.zip values)

end Signature

end NodeClient
