import NodeClient.Text.Basic
import NodeClient.Text.Quoted

/-! # Paths

A path is a root and the names between its slashes. Empty names and single points do not count, so
every path has one text; two points do count, since they cannot be dropped without the file system.
Exactly two slashes in front are a root of their own.
-/

namespace NodeClient

/-- Where a path starts. -/
inductive PathRoot where
  | relative
  | single
  | double
  deriving Repr, DecidableEq

/-- A path in a file system. -/
structure Path where
  root : PathRoot
  names : List String
  deriving Repr, DecidableEq

namespace Path

def rootOf (text : List Char) : PathRoot :=
  match (text.takeWhile (· = '/')).length with
  | 0 => .relative
  | 2 => .double
  | _ => .single

def namesOf (text : List Char) : List String :=
  ((Text.splitAt '/' text).filter fun name => !name.isEmpty && name ≠ ['.']).map String.ofList

def ofString (text : String) : Path := ⟨rootOf text.toList, namesOf text.toList⟩

def text (path : Path) : String :=
  let names := "/".intercalate path.names
  match path.root with
  | .relative => if path.names.isEmpty then "." else names
  | .single => "/" ++ names
  | .double => "//" ++ names

def shown (path : Path) : String := s!"PosixPath({Text.quoted path.text})"

def child (path : Path) (name : String) : Path := { path with names := path.names ++ [name] }

end Path

end NodeClient
