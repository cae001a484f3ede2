import NodeClient.Amount
import NodeClient.Canonical
import NodeClient.Text.Quoted

/-! # Projecting results

A result that was read by the shape of one release is projected onto the result that does not depend
on the release. Whether a member is reported is decided by the shape alone: `reported` members are
absent when the shape does not declare them. A member that is present may still fail to stand for an
address, an instant or an amount.
-/

namespace NodeClient

/-- What is wrong with a member of a result. -/
inductive FieldFault where
  | unparsableAddress (text : String)
  | invalidHost (text : String)
  | invalidPort (text : String)
  | negativeTime (seconds : Quantity)
  | timeOutOfRange (seconds : Quantity)
  | invalidAmount (amount : Quantity)
  | subSatoshi (amount : Quantity)
  | unparsableSubnet (text : String)
  | portOutOfRange (port : Int)
  | stated (text : String)
  deriving Repr, DecidableEq

def FieldFault.reason : FieldFault → String
  | .unparsableAddress text => s!"unparsable address {Text.quoted text}"
  | .invalidHost text => s!"invalid IPv6 host in {Text.quoted text}"
  | .invalidPort text => s!"invalid port in {Text.quoted text}"
  | .negativeTime seconds => s!"negative timestamp {seconds.text}"
  | .timeOutOfRange seconds => s!"timestamp {seconds.text} outside representable range"
  | .invalidAmount amount => s!"invalid amount {amount.text}"
  | .subSatoshi amount => s!"sub-satoshi amount {amount.text}"
  | .unparsableSubnet text => s!"unparsable subnet {Text.quoted text}"
  | .portOutOfRange port => s!"port {port} out of range"
  | .stated text => text

/-- Why a result has no projection. -/
inductive ProjectionCause where
  | missing (field : String)
  | invalid (field : String) (fault : FieldFault)
  | stated (text : String)
  deriving Repr, DecidableEq

/-- A result of an operation that has no projection. -/
structure ProjectionError where
  operation : String
  cause : ProjectionCause
  deriving Repr, DecidableEq

def ProjectionError.message (error : ProjectionError) : String :=
  match error.cause with
  | .missing field => s!"{error.operation}: missing required field {Text.quoted field}"
  | .invalid field fault =>
    s!"{error.operation}: invalid field {Text.quoted field}: {fault.reason}"
  | .stated text => s!"{error.operation}: {text}"

/-- How a projection fails: a member is refused, a port has digits that are no number, an integer has
too many digits to be told or no floating-point neighbour, or the shape does not belong to the result
at all. -/
inductive ProjectionFailure where
  | refused (error : ProjectionError)
  | notNumber (text : String) (fault : Number.IntegerFault)
  | tooLong
  | ratioOutOfRange
  | undeclared (shape member : String)
  deriving Repr, DecidableEq

abbrev Projected (α : Type) := Except ProjectionFailure α

namespace Projected

/-- Refuses a member. -/
def refuse {α : Type} (operation field : String) (fault : FieldFault) : Projected α :=
  .error (.refused ⟨operation, .invalid field fault⟩)

/-- Refuses a member for a number that its fault tells, which may have too many digits for that. -/
def refuseNumber {α : Type} (operation field : String) (number : Quantity) (fault : FieldFault) :
    Projected α :=
  if number.isTooLong then .error .tooLong else refuse operation field fault

/-- Projects every item of a list, in order. -/
def each {α β : Type} (project : α → Projected β) : List α → Projected (List β)
  | [] => .ok []
  | item :: rest => do
    let first ← project item
    let others ← each project rest
    return first :: others

end Projected

namespace Raw

/-- Refuses a shape that does not declare a member. -/
def undeclared {α : Type} (raw : Raw) (name : String) : Projected α :=
  .error (.undeclared raw.shapeName name)

def intAt (raw : Raw) (name : String) : Projected Int :=
  match raw.member? name with
  | some (.int value) => .ok value
  | _ => raw.undeclared name

def boolAt (raw : Raw) (name : String) : Projected Bool :=
  match raw.member? name with
  | some (.bool value) => .ok value
  | _ => raw.undeclared name

def textAt (raw : Raw) (name : String) : Projected String :=
  match raw.member? name with
  | some (.text value) => .ok value
  | _ => raw.undeclared name

def textOrNullAt (raw : Raw) (name : String) : Projected (Option String) :=
  match raw.member? name with
  | some (.text value) => .ok (some value)
  | some .null => .ok none
  | _ => raw.undeclared name

def numberAt (raw : Raw) (name : String) : Projected Binary64 :=
  match raw.member? name with
  | some (.number value) => .ok value
  | _ => raw.undeclared name

/-- A floating-point member that may be null. -/
def numberOrNullAt (raw : Raw) (name : String) : Projected (Option Binary64) :=
  match raw.member? name with
  | some (.number value) => .ok (some value)
  | some .null => .ok none
  | _ => raw.undeclared name

def itemsAt (raw : Raw) (name : String) : Projected (List Raw) :=
  match raw.member? name with
  | some (.list items) => .ok items
  | _ => raw.undeclared name

def intsOf : List Raw → List Int
  | [] => []
  | .int value :: rest => value :: intsOf rest
  | _ :: rest => intsOf rest

def textsOf : List Raw → List String
  | [] => []
  | .text value :: rest => value :: textsOf rest
  | _ :: rest => textsOf rest

/-- A list member that holds integers. -/
def intsAt (raw : Raw) (name : String) : Projected (List Int) := (raw.itemsAt name).map intsOf

/-- Whether the name of an entry does not come after the name of another. -/
def nameLe (left right : String × Int) : Bool := decide (left.1 ≤ right.1)

/-- A member that counts by name, in the order of the names. -/
def countsAt (raw : Raw) (name : String) : Projected (List (String × Int)) :=
  match raw.member? name with
  | some (.counters entries) => .ok (entries.mergeSort nameLe)
  | _ => raw.undeclared name

def recordAt (raw : Raw) (name : String) : Projected Raw :=
  match raw.member? name with
  | some value => .ok value
  | none => raw.undeclared name

/-- An integer member, if the shape declares it and it is not null. -/
def reportedInt (raw : Raw) (name : String) : Option Int :=
  match raw.member? name with
  | some (.int value) => some value
  | _ => none

/-- A boolean member, if the shape declares it. -/
def reportedBool (raw : Raw) (name : String) : Option Bool :=
  match raw.member? name with
  | some (.bool value) => some value
  | _ => none

/-- A text member, if the shape declares it. -/
def reportedText (raw : Raw) (name : String) : Option String :=
  match raw.member? name with
  | some (.text value) => some value
  | _ => none

/-- A list member that holds texts, if the shape declares it. -/
def reportedTexts (raw : Raw) (name : String) : Option (List String) :=
  match raw.member? name with
  | some (.list items) => some (textsOf items)
  | _ => none

end Raw

namespace Projected

/-- The socket address that a member spells. -/
def address (operation field text : String) : Projected SocketAddress :=
  match SocketAddress.parse text with
  | .ok address => .ok address
  | .error .unparsable => refuse operation field (.unparsableAddress text)
  | .error .host => refuse operation field (.invalidHost text)
  | .error .port => refuse operation field (.invalidPort text)
  | .error (.notNumber port fault) => .error (.notNumber port fault)

/-- The socket address that a member spells, if there is one. -/
def addressOrNull (operation field : String) : Option String → Projected (Option SocketAddress)
  | none => .ok none
  | some text => (address operation field text).map some

def instant (operation field : String) (seconds : Quantity) : Projected Instant :=
  match Instant.ofTimestamp seconds with
  | .ok instant => .ok instant
  | .error .negative => refuseNumber operation field seconds (.negativeTime seconds)
  | .error .outOfRange => refuseNumber operation field seconds (.timeOutOfRange seconds)

/-- The satoshis of an amount, which is converted by way of its text. -/
def satoshis (operation field : String) (amount : Quantity) : Projected Int :=
  if amount.isTooLong then .error .tooLong
  else
    match Amount.toSatoshis amount with
    | .ok satoshis => .ok satoshis
    | .error .invalid => refuse operation field (.invalidAmount amount)
    | .error .subSatoshi => refuse operation field (.subSatoshi amount)

/-- A text that names a subnet or a host of an overlay network. -/
def subnet (operation field text : String) : Projected String :=
  if Address.isBannable text.toList then .ok text
  else refuse operation field (.unparsableSubnet text)

end Projected

end NodeClient
