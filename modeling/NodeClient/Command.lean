import NodeClient.Json.Shown
import NodeClient.Release

/-! # Members of enumerations among the arguments

An argument may be a member of an enumeration, which is sent as its value. A member of an enumeration
of strings or of integers is one itself, and equals its value; a member of any other enumeration
equals nothing but itself. Two operations take a command, which is a string with a name.
-/

namespace NodeClient

/-- What to do with a node's address. -/
inductive AddNodeCommand where
  | add
  | remove
  | onetry
  deriving Repr, DecidableEq

namespace AddNodeCommand

def all : List AddNodeCommand := [.add, .remove, .onetry]

def name : AddNodeCommand → String
  | .add => "ADD"
  | .remove => "REMOVE"
  | .onetry => "ONETRY"

def word : AddNodeCommand → String
  | .add => "add"
  | .remove => "remove"
  | .onetry => "onetry"

def ofWord? (text : String) : Option AddNodeCommand := all.find? fun command => command.word == text

end AddNodeCommand

/-- What to do with a ban. -/
inductive SetBanCommand where
  | add
  | remove
  deriving Repr, DecidableEq

namespace SetBanCommand

def all : List SetBanCommand := [.add, .remove]

def name : SetBanCommand → String
  | .add => "ADD"
  | .remove => "REMOVE"

def word : SetBanCommand → String
  | .add => "add"
  | .remove => "remove"

def ofWord? (text : String) : Option SetBanCommand := all.find? fun command => command.word == text

end SetBanCommand

/-- A member of an enumeration. The members of one enumeration have different names. -/
structure EnumMember where
  enumeration : String
  name : String
  meaning : Meaning
  deriving Repr

namespace EnumMember

def shown (member : EnumMember) : String :=
  s!"<{member.enumeration}.{member.name}: {member.meaning.value.shown}>"

instance : Constant EnumMember where
  meaning := meaning
  kindName := enumeration
  shown := shown
  same left right := left.enumeration == right.enumeration && left.name == right.name
  same_self member := by rw [beq_self_eq_true, beq_self_eq_true, Bool.and_self]

/-- A command for the address of a node, as an argument. -/
def addNode (command : AddNodeCommand) : EnumMember :=
  ⟨"AddNodeCommand", command.name, .text command.word⟩

/-- A command for a ban, as an argument. -/
def setBan (command : SetBanCommand) : EnumMember :=
  ⟨"SetBanCommand", command.name, .text command.word⟩

/-- A release as an argument, which is neither a string nor an integer. -/
def release (release : Release) : EnumMember :=
  ⟨"ProtocolVersion", release.name, .other (.int release.number)⟩

end EnumMember

/-- An argument of a call: a JSON value in which members of enumerations may stand. -/
abbrev Argument := Value EnumMember

/-- An argument as it is sent: a member of an enumeration becomes its value. Members inside lists and
objects are left to the writer. -/
def Argument.toWire (argument : Argument) : Argument :=
  match argument with
  | .const member => Value.ofJson member.meaning.value
  | other => other

end NodeClient
