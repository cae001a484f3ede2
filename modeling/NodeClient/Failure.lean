import NodeClient.Binding.Table
import NodeClient.ErrorCode
import NodeClient.Frame.Response
import NodeClient.Json.Writer
import NodeClient.Settings.Layer
import NodeClient.Url

/-! # Failures

The errors that a client promises to its callers are `ClientError`s, and each tells the stage that
it comes from. A `Failure` may also be an `Escape`: a lower-level error that no stage turns into one
of them.
-/

namespace NodeClient

/-- Why no well-formed reply to a request was received. -/
inductive TransportFault where
  | connectionFailed (text : String)
  | timedOut (text : String)
  | http (text : String)
  | rejected (status : Nat)
  | invalidResponse (status : Nat) (fault : FrameFault)
  | otherId (received : Json) (expected : Nat)
  | stated (text : String)
  deriving Repr

def TransportFault.text : TransportFault → String
  | .connectionFailed text => s!"connection failed: {text}"
  | .timedOut text => s!"request timed out: {text}"
  | .http text => s!"HTTP error: {text}"
  | .rejected status => s!"authentication rejected (HTTP {status})"
  | .invalidResponse status fault =>
    s!"invalid server response (HTTP {status}): {fault.message}"
  | .otherId received expected =>
    s!"response id {received.shown} does not match request id {expected}"
  | .stated text => text

/-- Why one round trip failed: at the transport, by an error that the server returned, or because
the result does not have the expected shape. -/
inductive CallCause where
  | transport (fault : TransportFault)
  | returned (code message data : Json)
  | decode (cause : DecodeCause)
  | stated (text : String)
  deriving Repr

/-- The wording of a failed round trip. -/
def CallCause.text : CallCause → String
  | .transport fault => fault.text
  | .returned code message _ => s!"RPC error {code.plain}: {message.plain}"
  | .decode cause => cause.text
  | .stated text => text

def CallCause.knownCode? : CallCause → Option ErrorCode
  | .returned code _ _ => ErrorCode.ofValue? code
  | _ => none

/-- A failed round trip of a wire method. -/
structure CallError where
  method : String
  cause : CallCause
  deriving Repr

def CallError.message (error : CallError) : String := s!"{error.method}: {error.cause.text}"

/-- An error that a client promises to its callers. -/
inductive ClientError where
  | stated (text : String)
  | config (fault : ConfigFault)
  | unsupported (error : UnsupportedOperation)
  | unexpectedVersion (expected actual : Int)
  | call (error : CallError)
  | encode (error : EncodeError)
  | projection (error : ProjectionError)
  | credentials (text : String)
  | cookie (error : CookieError)
  | missingCredentials
  | frame (fault : FrameFault)
  deriving Repr

def ClientError.message : ClientError → String
  | .stated text => text
  | .config fault => fault.message
  | .unsupported error => error.message
  | .unexpectedVersion expected actual =>
    s!"unexpected server version: expected {expected}, got {actual}"
  | .call error => error.message
  | .encode error => error.message
  | .projection error => error.message
  | .credentials text => text
  | .cookie error => error.message
  | .missingCredentials => "authentication requested but no user/password or cookie file given"
  | .frame fault => fault.message

/-- A fault of the exchange that is none of its usual ones. -/
inductive OddExchange where
  | invalidUrl
  | cookieConflict
  deriving Repr, DecidableEq

/-- How named arguments do not fit a call: one is of no parameter, one is of the client itself or of
the operation, which have their values, or some are missing. -/
inductive ArgumentFault where
  | unexpected (call name : String)
  | repeated (call name : String)
  | missing (call : String) (names : List String)
  deriving Repr, DecidableEq

def ArgumentFault.message : ArgumentFault → String
  | .unexpected call name => s!"Client.{call}() got an unexpected keyword argument '{name}'"
  | .repeated call name => s!"Client.{call}() got multiple values for argument '{name}'"
  | .missing call names =>
    let noun := if names.length = 1 then "argument" else "arguments"
    let shown := " and ".intercalate (names.map fun name => s!"'{name}'")
    s!"Client.{call}() missing {names.length} required positional {noun}: {shown}"

/-- A lower-level error that no stage turns into a client error. -/
inductive Escape where
  | arguments (fault : ArgumentFault)
  | noForm (kindName : String)
  | tooLong (digits? : Option Nat)
  | notNumber (text : String) (fault : Number.IntegerFault)
  | ratioOutOfRange
  | undeclared (shape member : String)
  | nullCharacter
  | notOption (shown : String)
  | unknownRelease (cause : Release.Unknown)
  | unknownChain (error : CookieFile.PlaceError)
  | url (fault : UrlFault)
  | noScheme (address : String)
  | odd (kind : OddExchange) (text : String)
  | closed
  | noHome
  | notText (fault : Text.Utf8Fault)
  | system (fault : SystemFault) (path : String)
  | settings (problems : List SettingsProblem)
  | mismatch (name : String) (problems : List Mismatch)
  deriving Repr

def Text.Utf8Fault.message (fault : Text.Utf8Fault) : String :=
  if fault.width = 1 then
    let byte := String.ofList (Text.hexadecimal 2 fault.first)
    s!"'utf-8' codec can't decode byte 0x{byte} in position {fault.position}: {fault.problem.text}"
  else
    s!"'utf-8' codec can't decode bytes in position {fault.position}-{fault.position + fault.width - 1}: {fault.problem.text}"

/-- Most characters that are shown of a text that is no number. -/
def Escape.shownLimit : Nat := 200

def Escape.message : Escape → String
  | .arguments fault => fault.message
  | .noForm kindName => s!"Object of type {kindName} is not JSON serializable"
  | .tooLong digits? => Number.tooLongMessage digits?
  | .notNumber _ (.tooLong digits) => Number.tooLongMessage (some digits)
  | .notNumber text .malformed =>
    let shown := String.ofList ((Text.quotedChars text.toList).take Escape.shownLimit)
    s!"invalid literal for int() with base 10: {shown}"
  | .ratioOutOfRange => "integer division result too large for a float"
  | .undeclared shape member =>
    s!"{Text.quoted shape} object has no attribute {Text.quoted member}"
  | .nullCharacter => "embedded null byte"
  | .notOption shown => s!"unknown auth option: {shown}"
  | .unknownRelease cause => cause.message
  | .unknownChain error => error.message
  | .url fault => fault.message
  | .noScheme address => s!"unknown url type: {Text.quoted address}"
  | .odd _ text => text
  | .closed => "Cannot send a request, as the client has been closed."
  | .noHome => "Could not determine home directory."
  | .notText fault => fault.message
  | .system fault path => (AccessError.system fault path).message
  | .settings problems => SettingsProblem.summary problems
  | .mismatch name problems =>
    let noun := if problems.length = 1 then "error" else "errors"
    s!"{problems.length} validation {noun} for {name}"

/-- A value that cannot be written. -/
def Escape.ofWrite : Value.WriteFault → Escape
  | .tooLong => .tooLong none
  | .noForm kindName => .noForm kindName

/-- How something that a client does fails. -/
inductive Failure where
  | client (error : ClientError)
  | escape (error : Escape)
  deriving Repr

namespace Failure

def message : Failure → String
  | .client error => error.message
  | .escape error => error.message

def ofProjection : ProjectionFailure → Failure
  | .refused error => .client (.projection error)
  | .notNumber text fault => .escape (.notNumber text fault)
  | .tooLong => .escape (.tooLong none)
  | .ratioOutOfRange => .escape .ratioOutOfRange
  | .undeclared shape member => .escape (.undeclared shape member)

def ofAccess : AccessError → Failure
  | .nullCharacter => .escape .nullCharacter
  | .system fault path => .escape (.system fault path)

def ofCredential : CredentialFailure → Failure
  | .cookie error => .client (.cookie error)
  | .nullCharacter => .escape .nullCharacter
  | .notOption shown => .escape (.notOption shown)

def ofPlace : CookieFile.PlaceError → Failure
  | .access error => ofAccess error
  | .noHome => .escape .noHome
  | error => .escape (.unknownChain error)

def ofSettings : SettingsRefusal → Failure
  | .problems problems => .escape (.settings problems)
  | .noHome => .escape .noHome

def ofLoad : LoadFailure → Failure
  | .refused fault => .client (.config fault)
  | .notText fault => .escape (.notText fault)
  | .tooLong digits => .escape (.tooLong (some digits))
  | .access error => ofAccess error
  | .noHome => .escape .noHome

end Failure

end NodeClient
