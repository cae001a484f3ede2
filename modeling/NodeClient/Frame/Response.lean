import NodeClient.Json.Equality
import NodeClient.Json.Reader
import NodeClient.Json.Shown

/-! # Responses

Servers up to release 27 answer with both a result and an error, one of them null, and state no
version; later ones answer with either of the two and state version 2.0. Both forms are accepted. A
body that is no response is refused with the first thing that is wrong with it.
-/

namespace NodeClient

/-- A response: the error is absent when the call succeeded. -/
structure Response where
  version : Json
  id : Json
  result : Json
  error? : Option (List (String × Json))
  deriving Repr

/-- What is wrong with a body that is no response. -/
inductive FrameFault where
  | malformed (problem : String)
  | notObject
  | version (value : Json)
  | idAbsent
  | idKind (kind : String)
  | outcomeAbsent
  | errorKind (kind : String)
  | errorMembers
  | bothOutcomes
  | stated (text : String)
  deriving Repr

def FrameFault.message : FrameFault → String
  | .malformed problem => s!"Invalid JSON: {problem}"
  | .notObject => "Response must be a JSON object"
  | .version value => s!"unsupported jsonrpc version: {value.shown}"
  | .idAbsent => "Response must have 'id' field"
  | .idKind kind => s!"id must be string, number, or null, got: {kind}"
  | .outcomeAbsent => "Response must have either 'result' or 'error'"
  | .errorKind kind => s!"error must be an object, got: {kind}"
  | .errorMembers => "error must have 'code' and 'message' fields"
  | .bothOutcomes => "Response cannot have both 'result' and 'error'"
  | .stated text => text

/-- Why a body is not read: it is no response, or it holds an integer with too many digits. -/
inductive FrameError where
  | fault (fault : FrameFault)
  | tooLong (digits : Nat)
  deriving Repr

namespace Response

/-- Whether a stated version is one of the framings. -/
def isVersion : Json → Bool
  | .null => true
  | .str version => version == "1.0" || version == "1.1" || version == "2.0"
  | _ => false

/-- Whether a value may be an id. -/
def isId : Json → Bool
  | .null => true
  | .bool _ => true
  | .int _ => true
  | .str _ => true
  | _ => false

def errorOf (members : List (String × Json)) :
    Except FrameFault (Option (List (String × Json))) :=
  match Value.memberOrNull "error" members with
  | .null => .ok none
  | .obj error =>
    if (Value.member? "code" error).isNone || (Value.member? "message" error).isNone then
      .error .errorMembers
    else if !(Value.memberOrNull "result" members).isNull then .error .bothOutcomes
    else .ok (some error)
  | other => .error (.errorKind other.kindName)

def ofMembers (members : List (String × Json)) : Except FrameFault Response :=
  let version := Value.memberOrNull "jsonrpc" members
  if !isVersion version then .error (.version version)
  else
    match Value.member? "id" members with
    | none => .error .idAbsent
    | some id =>
      if !isId id then .error (.idKind id.kindName)
      else if (Value.member? "result" members).isNone && (Value.member? "error" members).isNone then
        .error .outcomeAbsent
      else
        (errorOf members).map fun error? =>
          { version, id, result := Value.memberOrNull "result" members, error? }

def ofJson : Json → Except FrameFault Response
  | .obj members => ofMembers members
  | _ => .error .notObject

def parse (body : String) : Except FrameError Response :=
  match Json.read body with
  | .error (.tooLong digits) => .error (.tooLong digits)
  | .error problem => .error (.fault (.malformed problem.message))
  | .ok value => (ofJson value).mapError .fault

end Response

end NodeClient
