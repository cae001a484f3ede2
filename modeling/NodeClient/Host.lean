import NodeClient.Path
import NodeClient.Text.Basic

/-! # The host

What a client finds on the machine it runs on: a tree of directories and files, a working directory,
environment variables and the home directories of accounts. Looking up a path walks the tree name by
name: every name but the last must belong to a directory, two points go to the parent, and a name
may have at most 255 bytes.
-/

namespace NodeClient

/-- A directory or a file, with its permission bits. A denied file exists but cannot be opened. -/
inductive FileNode where
  | directory (mode : Nat)
  | file (content : List UInt8) (mode : Nat) (denied : Bool)
  deriving Repr

def FileNode.mode : FileNode → Nat
  | .directory mode => mode
  | .file _ mode _ => mode

/-- A machine as a client sees it: the tree, the working directory, the environment, the home
directories of the accounts by their names, and that of the account that the client runs under. -/
structure Host where
  nodes : List (List String × FileNode)
  workingDirectory : List String
  environment : List (String × String)
  accounts : List (String × String)
  ownHome? : Option String := none

/-- Why the system refuses a path. -/
inductive SystemFault where
  | notFound
  | denied
  | notDirectory
  | isDirectory
  | nameTooLong
  deriving Repr, DecidableEq

namespace SystemFault

def number : SystemFault → Nat
  | .notFound => 2
  | .denied => 13
  | .notDirectory => 20
  | .isDirectory => 21
  | .nameTooLong => 36

def text : SystemFault → String
  | .notFound => "No such file or directory"
  | .denied => "Permission denied"
  | .notDirectory => "Not a directory"
  | .isDirectory => "Is a directory"
  | .nameTooLong => "File name too long"

end SystemFault

/-- Why a path is not looked up: the system refuses it, or it holds the null character. -/
inductive AccessError where
  | system (fault : SystemFault) (path : String)
  | nullCharacter
  deriving Repr, DecidableEq

def AccessError.message : AccessError → String
  | .system fault path => s!"[Errno {fault.number}] {fault.text}: {Text.quoted path}"
  | .nullCharacter => "embedded null byte"

/-- Why a tilde in front of a path stands for no home directory: none is known, or the name of the
account holds the null character. -/
inductive TildeFault where
  | noHome
  | nullCharacter
  deriving Repr, DecidableEq

namespace Host

/-- Most bytes of a name. -/
def nameLimit : Nat := 255

/-- Most bytes of the text of a path, with its end. -/
def pathLimit : Nat := 4096

/-- The directory or file at a place of the tree. The root is always there. -/
def nodeAt? (host : Host) (place : List String) : Option FileNode :=
  match host.nodes.lookup place with
  | some node => some node
  | none => if place.isEmpty then some (.directory 0o755) else none

def walk (host : Host) (place : List String) (node : FileNode) :
    List String → Except SystemFault FileNode
  | [] => .ok node
  | name :: rest =>
    match node with
    | .file _ _ _ => .error .notDirectory
    | .directory _ =>
      if nameLimit < name.utf8ByteSize then .error .nameTooLong
      else
        let next := if name = ".." then place.dropLast else place ++ [name]
        match host.nodeAt? next with
        | none => .error .notFound
        | some node => walk host next node rest

/-- The place where the walk along a path starts. -/
def startOf (host : Host) (path : Path) : List String :=
  match path.root with
  | .relative => host.workingDirectory
  | _ => []

def lookUp (host : Host) (path : Path) : Except AccessError FileNode :=
  let text := path.text
  if text.toList.contains (Char.ofNat 0) then .error .nullCharacter
  else if pathLimit ≤ text.utf8ByteSize then .error (.system .nameTooLong text)
  else
    let start := host.startOf path
    match host.nodeAt? start with
    | none => .error (.system .notFound text)
    | some node => (host.walk start node path.names).mapError fun fault => .system fault text

def readFile (host : Host) (path : Path) : Except AccessError (List UInt8) :=
  match host.lookUp path with
  | .error error => .error error
  | .ok (.directory _) => .error (.system .isDirectory path.text)
  | .ok (.file content _ denied) =>
    if denied then .error (.system .denied path.text) else .ok content

/-- Whether a path is that of a file. A path on which no file can be is answered with no; one that
the system refuses for its length is an error. -/
def isFile (host : Host) (path : Path) : Except AccessError Bool :=
  match host.lookUp path with
  | .ok (.file _ _ _) => .ok true
  | .ok (.directory _) => .ok false
  | .error (.system .nameTooLong text) => .error (.system .nameTooLong text)
  | .error _ => .ok false

/-- Drops each name that two points follow. -/
def reduce (place : List String) : List String → List String
  | [] => place
  | name :: rest => reduce (if name = ".." then place.dropLast else place ++ [name]) rest

/-- A path from the root without two points. -/
def resolve (host : Host) (path : Path) : Except AccessError Path :=
  if path.text.toList.contains (Char.ofNat 0) then .error .nullCharacter
  else .ok ⟨.single, reduce (host.startOf path) path.names⟩

def environment? (host : Host) (name : String) : Option String := host.environment.lookup name

/-- The home directory that a tilde stands for, alone or in front of the name of an account. Alone it
is that of the environment, or else that of the account that the client runs under. -/
def homeOf? (host : Host) (tilde : String) : Option String :=
  let account := String.ofList (tilde.toList.drop 1)
  let directory? :=
    if account.isEmpty then (host.environment? "HOME").or host.ownHome?
    else host.accounts.lookup account
  directory?.map fun directory =>
    let bare := Text.trimRight (· = '/') directory.toList
    if bare.isEmpty then "/" else String.ofList bare

/-- A path with a tilde in front replaced by the home directory it stands for. -/
def expand (host : Host) (path : Path) : Except TildeFault Path :=
  match path.root, path.names with
  | .relative, first :: rest =>
    if first.toList.head? ≠ some '~' then .ok path
    else if first.toList.contains (Char.ofNat 0) then .error .nullCharacter
    else
      match host.homeOf? first with
      | none => .error .noHome
      | some home =>
        if home.toList.head? = some '~' then .error .noHome
        else
          let base := Path.ofString home
          .ok { base with names := base.names ++ rest }
  | _, _ => .ok path

def home? (host : Host) : Option Path := (host.expand (Path.ofString "~")).toOption

end Host

end NodeClient
