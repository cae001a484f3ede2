import NodeClient.Credential
import NodeClient.Host
import NodeClient.Log
import NodeClient.Text.Basic
import NodeClient.Text.Utf8

/-! # Cookie files

A node writes a user and a password with a colon between them as the first line of its cookie file.
Only the first line counts, and it is cut at its first colon. A file that others than its owner may
access is used with a warning.

The file is read in blocks until the first line is complete, so bytes that are not UTF-8 are noticed
up to the end of the block in which the line ends. A carriage return at the end of a block ends the
line only once more of the file was read.
-/

namespace NodeClient

/-- What makes a cookie file unusable. -/
inductive CookieFault where
  | unreadable (fault : SystemFault)
  | notText
  | empty
  | noSeparator
  | stated (reason : String)
  deriving Repr, DecidableEq

def CookieFault.reason : CookieFault → String
  | .unreadable fault => s!"cannot read file: {fault.text}"
  | .notText => "file is not valid UTF-8"
  | .empty => "file is empty"
  | .noSeparator => "no ':' separator in first line"
  | .stated reason => reason

/-- An unusable cookie file. -/
structure CookieError where
  path : Path
  fault : CookieFault
  deriving Repr, DecidableEq

def CookieError.message (error : CookieError) : String :=
  s!"invalid cookie file {error.path.text}: {error.fault.reason}"

/-- How credentials are not resolved: the cookie file is unusable, its path holds the null
character, or the option is none. -/
inductive CredentialFailure where
  | cookie (error : CookieError)
  | nullCharacter
  | notOption (shown : String)
  deriving Repr, DecidableEq

namespace CookieFile

/-- Bytes that are read at a time. -/
def blockSize : Nat := 8192

def blocks (bytes : List UInt8) : List (List UInt8) :=
  if bytes.isEmpty then []
  else bytes.take blockSize :: blocks (bytes.drop blockSize)
termination_by bytes.length
decreasing_by
  simp only [List.isEmpty_iff] at *
  have : 0 < bytes.length := List.length_pos_iff.mpr (by assumption)
  simp [blockSize]
  omega

/-- Reads on until a character was read or the file ends. -/
def settle (state : Option Text.PartialChar) : List (List UInt8) → Except CookieFault Unit
  | [] => if state.isSome then .error .notText else .ok ()
  | block :: rest =>
    match Text.decodeFrom 0 state block with
    | .error _ => .error .notText
    | .ok ([], state) => settle state rest
    | .ok (_ :: _, _) => .ok ()

/-- The first line of the blocks of a file. -/
def lineOf (state : Option Text.PartialChar) : List (List UInt8) → Except CookieFault (List Char)
  | [] => if state.isSome then .error .notText else .ok []
  | block :: rest =>
    match Text.decodeFrom 0 state block with
    | .error _ => .error .notText
    | .ok (chars, state) =>
      let line := chars.takeWhile fun c => !Text.isLineEnd c
      match chars.dropWhile fun c => !Text.isLineEnd c with
      | [] => (lineOf state rest).map (line ++ ·)
      | ['\r'] => (settle state rest).map fun _ => line
      | _ => .ok line

def split (line : List Char) : Except CookieFault Credentials :=
  if line.isEmpty then .error .empty
  else
    match Text.cutFirst? [':'] line with
    | none => .error .noSeparator
    | some (user, password) => .ok ⟨String.ofList user, String.ofList password⟩

/-- Permission bits of the group and of others. -/
def sharedBits : Nat := 0o77

/-- Whether only the owner may access a file with these permission bits. -/
def isPrivate (mode : Nat) : Bool := mode % (sharedBits + 1) == 0

/-- The last three octal digits of permission bits. -/
def octal (mode : Nat) : String :=
  String.ofList
    [Nat.digitChar (mode / 64 % 8), Nat.digitChar (mode / 8 % 8), Nat.digitChar (mode % 8)]

/-- Warns unless only the owner may access a file. -/
def checkMode {ε : Type} (path : Path) (mode : Nat) : Traced ε Bool :=
  if isPrivate mode then pure true
  else do
    Traced.record .warning .credentials
      s!"Cookie file {path.text} has insecure permissions ({octal mode}). Should be 0600 (owner read/write only)."
    return false

/-- Checks that only the owner may access a file. -/
def checkPermissions (host : Host) (path : Path) : Traced AccessError Bool :=
  match host.lookUp path with
  | .error error => Traced.fail error
  | .ok node => checkMode path node.mode

def invalid (path : Path) (fault : CookieFault) : CredentialFailure := .cookie ⟨path, fault⟩

/-- An access error of the file of a path. -/
def inaccessible (path : Path) : AccessError → CredentialFailure
  | .nullCharacter => .nullCharacter
  | .system fault _ => invalid path (.unreadable fault)

def read (host : Host) (path : Path) : Traced CredentialFailure Credentials := do
  let content ← Traced.ofExcept ((host.readFile path).mapError (inaccessible path))
  let line ← Traced.ofExcept ((lineOf none (blocks content)).mapError (invalid path))
  let _ ← (checkPermissions host path).mapError (inaccessible path)
  Traced.ofExcept ((split line).mapError (invalid path))

def fileName : String := ".cookie"

/-- The chains with the directory that each has below the data directory, if any. -/
def chains : List (String × Option String) :=
  [("main", none), ("test", some "testnet3"), ("testnet4", some "testnet4"),
    ("signet", some "signet"), ("regtest", some "regtest")]

/-- How a place for cookie files is not found: the chain is unknown, or so is the home directory. -/
inductive PlaceError where
  | unknownChain (name : String)
  | noHome
  | access (error : AccessError)
  deriving Repr, DecidableEq

/-- The names of the chains in alphabetical order. -/
def chainNames : List String := ["main", "regtest", "signet", "test", "testnet4"]

def PlaceError.message : PlaceError → String
  | .unknownChain name =>
    s!"unknown network {Text.quoted name}, expected one of {Text.quotedList chainNames}"
  | .noHome => "Could not determine home directory."
  | .access error => error.message

/-- A place that a tilde does not lead to. -/
def PlaceError.ofTilde : TildeFault → PlaceError
  | .noHome => .noHome
  | .nullCharacter => .access .nullCharacter

/-- The data directory, which is by default in the home directory. -/
def baseOf (host : Host) (dataDirectory? : Option Path) : Except TildeFault Path :=
  match dataDirectory? with
  | some directory => host.expand directory
  | none => host.home?.elim (.error .noHome) fun home => .ok (home.child ".bitcoin")

def pathOf (host : Host) (dataDirectory? : Option Path) (chain : String) :
    Except PlaceError Path :=
  match chains.lookup chain with
  | none => .error (.unknownChain chain)
  | some directory? =>
    match baseOf host dataDirectory?, directory? with
    | .error fault, _ => .error (.ofTilde fault)
    | .ok base, none => .ok (base.child fileName)
    | .ok base, some directory => .ok ((base.child directory).child fileName)

/-- The environment variable that names a cookie file. -/
def variableName : String := "CORERPC_COOKIE_FILE"

def isFile (host : Host) (path : Path) : Traced PlaceError Bool :=
  Traced.ofExcept ((host.isFile path).mapError .access)

def named (host : Host) : Traced PlaceError (Option Path) :=
  match host.environment? variableName with
  | none => pure none
  | some text =>
    if text.isEmpty then pure none
    else
      match host.expand (Path.ofString text) with
      | .error fault => Traced.fail (.ofTilde fault)
      | .ok path => do
        if ← isFile host path then return some path
        Traced.record .debug .credentials
          s!"{variableName} points at missing file: {path.text}"
        return none

/-- Finds a cookie file: the one that the environment names, or else that of a chain. -/
def discover (host : Host) (dataDirectory? : Option Path) (chain : String) :
    Traced PlaceError (Option Path) := do
  match ← named host with
  | some path => return some path
  | none =>
    let path ← Traced.ofExcept (pathOf host dataDirectory? chain)
    if ← isFile host path then
      Traced.record .debug .credentials s!"Discovered cookie file at {path.text}"
      return some path
    Traced.record .debug .credentials s!"No cookie file at {path.text}"
    return none

end CookieFile

/-- The user and the password that an option stands for, if any. -/
def CredentialOption.resolve (host : Host) :
    CredentialOption → Traced CredentialFailure (Option Credentials)
  | .noAuth => pure none
  | .userPassword user password => pure (some ⟨user, password⟩)
  | .cookieFile path => do return some (← CookieFile.read host path)
  | option => Traced.fail (.notOption option.shown)

end NodeClient
