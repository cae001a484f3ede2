import NodeClient.Log
import NodeClient.Operation
import NodeClient.Release

/-! # Binding operations to releases

A binding says, with a body of any kind, how an operation is spoken to a range of releases. The
profile of a release holds the bindings that cover it. A list of bindings is sound when no range is
inverted and no release is covered twice for one operation; then the order of the list does not
matter.
-/

namespace NodeClient

/-- How an operation is spoken to the releases from one to another, or to all later ones. -/
structure Binding (α : Type) where
  operation : Operation
  since : Release
  until? : Option Release
  body : α
  deriving Repr

namespace Binding

variable {α : Type}

def covers (binding : Binding α) (release : Release) : Bool :=
  decide (binding.since ≤ release) && binding.until?.all fun last => decide (release ≤ last)

/-- Whether a binding speaks an operation to a release. -/
def speaks (binding : Binding α) (operation : Operation) (release : Release) : Bool :=
  binding.operation == operation && binding.covers release

/-- The last release of a range that ends before it starts. -/
def inverted? (binding : Binding α) : Option Release :=
  binding.until?.filter fun last => decide (last < binding.since)

/-- The first release that a binding covers and that one before it covers for its operation. -/
def clash? (before : List (Binding α)) (binding : Binding α) : Option Release :=
  Release.all.find? fun release =>
    binding.covers release && before.any fun other => other.speaks binding.operation release

end Binding

/-- Why a list of bindings is not sound. -/
inductive BindingFault where
  | inverted (operation : Operation) (since last : Release)
  | boundTwice (operation : Operation) (release : Release)
  deriving Repr, DecidableEq

def BindingFault.message : BindingFault → String
  | .inverted operation since last =>
    s!"{operation.name}: range {since.text}..{last.text} is inverted"
  | .boundTwice operation release => s!"{operation.name}: {release.text} is bound twice"

namespace Binding

variable {α : Type}

/-- The fault that a binding brings to the ones before it. -/
def fault? (before : List (Binding α)) (binding : Binding α) : Option BindingFault :=
  match binding.inverted? with
  | some last => some (.inverted binding.operation binding.since last)
  | none => (clash? before binding).map (.boundTwice binding.operation)

def checkFrom (before : List (Binding α)) : List (Binding α) → Except BindingFault Unit
  | [] => .ok ()
  | binding :: rest =>
    match binding.fault? before with
    | some fault => .error fault
    | none => checkFrom (before ++ [binding]) rest

/-- Checks that a list of bindings is sound. -/
def check (bindings : List (Binding α)) : Except BindingFault Unit := checkFrom [] bindings

end Binding

/-- An operation that a release does not have. -/
structure UnsupportedOperation where
  operation : String
  release : String
  deriving Repr, DecidableEq

def UnsupportedOperation.message (error : UnsupportedOperation) : String :=
  s!"{error.operation} is not supported by protocol version {error.release}"

/-- The bindings of one release. -/
structure Profile (α : Type) where
  release : Release
  bindings : List (Binding α)

namespace Profile

variable {α : Type}

/-- The profile of a release: the bindings that cover it. -/
def ofBindings (release : Release) (bindings : List (Binding α)) : Profile α :=
  ⟨release, bindings.filter fun binding => binding.covers release⟩

/-- The binding of an operation; the last one counts. -/
def binding? (profile : Profile α) (operation : Operation) : Option (Binding α) :=
  profile.bindings.reverse.find? fun binding => binding.operation == operation

def supports (profile : Profile α) (operation : Operation) : Bool :=
  (profile.binding? operation).isSome

/-- The binding of an operation, or the error that there is none. -/
def binding (profile : Profile α) (operation : Operation) :
    Except UnsupportedOperation (Binding α) :=
  match profile.binding? operation with
  | some binding => .ok binding
  | none => .error ⟨operation.name, profile.release.text⟩

/-- A profile as log records show it. -/
def shown (profile : Profile α) : String := s!"ProtocolProfile({profile.release.text})"

/-- The record that a new profile leaves. -/
def announcement (profile : Profile α) : LogRecord :=
  let bound := Operation.all.countP profile.supports
  { level := .debug
    source := .profile
    text :=
      s!"Protocol profile {profile.release.text}: {bound} of {Operation.all.length} operations bound" }

end Profile

end NodeClient
