import NodeClient.Command
import NodeClient.Text.Quoted

/-! # Signatures of wire methods

A signature lists the positional slots of a wire method, the required ones first. An optional slot
may state the default that the server uses itself. A group of slots of which exactly one must be
supplied may be named. `Signature.make` accepts exactly the lists that keep these rules, and a
`Signature` carries the proof that it was accepted.
-/

namespace NodeClient

/-- One positional argument of a wire method: whether it must be set, and the default that the server
states for it, if there is one. -/
structure Slot where
  name : String
  isRequired : Bool := true
  default? : Option Argument := none
  deriving Repr

/-- Why a list of slots is not a signature. -/
inductive SignatureFault where
  | requiredAfterOptional (slot : String)
  | duplicateNames
  | unknownMember (name : String)
  deriving Repr, DecidableEq

def SignatureFault.message (method : String) : SignatureFault → String
  | .requiredAfterOptional slot =>
    s!"{method}: required slot {Text.quoted slot} follows an optional slot"
  | .duplicateNames => s!"{method}: duplicate slot names"
  | .unknownMember name => s!"{method}: unknown slot {Text.quoted name} in exactly_one_of"

namespace Signature

/-- The name of the first required slot behind an optional one. -/
def misplaced? : List Slot → Option String
  | [] => none
  | slot :: rest =>
    if slot.isRequired then misplaced? rest
    else (rest.find? Slot.isRequired).map Slot.name

/-- Whether no name occurs twice. -/
def distinct : List String → Bool
  | [] => true
  | name :: rest => !rest.contains name && distinct rest

/-- The first fault of a list of slots with a group. -/
def fault? (slots : List Slot) (exactlyOneOf : List String) : Option SignatureFault :=
  match misplaced? slots with
  | some name => some (.requiredAfterOptional name)
  | none =>
    if distinct (slots.map Slot.name) then
      (exactlyOneOf.find? fun name => !(slots.map Slot.name).contains name).map .unknownMember
    else some .duplicateNames

end Signature

/-- The wire method and the positional slots of an operation. -/
structure Signature where
  method : String
  slots : List Slot := []
  exactlyOneOf : List String := []
  sound : Signature.fault? slots exactlyOneOf = none := by decide

namespace Signature

/-- The signature of a list of slots with a group, unless it has a fault. -/
def make (method : String) (slots : List Slot) (exactlyOneOf : List String) :
    Except SignatureFault Signature :=
  match found : fault? slots exactlyOneOf with
  | some fault => .error fault
  | none => .ok { method, slots, exactlyOneOf, sound := found }

def names (signature : Signature) : List String := signature.slots.map Slot.name

def requiredCount (signature : Signature) : Nat := signature.slots.countP Slot.isRequired

end Signature

end NodeClient
