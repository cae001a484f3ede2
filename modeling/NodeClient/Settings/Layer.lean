import NodeClient.Json.Reader
import NodeClient.Settings.Basic

/-! # Layers of settings

Settings come from two files, the one in the home directory and the one in the working directory,
which is laid over the first key by key: where both hold an object these are laid over each other, and
otherwise the upper value stands. Lists are not merged. A file holds a JSON object; one that is missing
or empty adds nothing. Instead, one file may be named, which must be there. The settings are judged
after merging.
-/

namespace NodeClient

/-- Why a layer is refused. -/
inductive LayerFault where
  | missing
  | unreadable (error : AccessError)
  | malformed (problem : String)
  | notObject (kind : String)
  deriving Repr, DecidableEq

/-- What is wrong with the configuration: a layer, or the merged settings. -/
inductive ConfigFault where
  | layer (path : Path) (fault : LayerFault)
  | invalid (sources : List Path) (problems : List SettingsProblem)
  | stated (text : String)
  deriving Repr, DecidableEq

/-- The message of a configuration fault; of a report of problems, its first line. -/
def ConfigFault.message : ConfigFault → String
  | .layer path .missing => s!"config file not found: {path.text}"
  | .layer path (.unreadable error) => s!"cannot read config file {path.text}: {error.message}"
  | .layer path (.malformed problem) => s!"invalid JSON in config file {path.text}: {problem}"
  | .layer path (.notObject kind) =>
    s!"config file {path.text} must hold a JSON object, got {kind}"
  | .invalid sources problems =>
    let merged := if sources.isEmpty then "defaults" else ", ".intercalate (sources.map Path.text)
    let report :=
      s!"Config validation failed (merged from {merged}): {SettingsProblem.summary problems}"
    String.ofList (report.toList.takeWhile (· ≠ '\n'))
  | .stated text => text

/-- How loading fails: the configuration is refused, a file is not text, an integer has too many
digits, a path is refused by the system, or a home directory is unknown. -/
inductive LoadFailure where
  | refused (fault : ConfigFault)
  | notText (fault : Text.Utf8Fault)
  | tooLong (digits : Nat)
  | access (error : AccessError)
  | noHome
  deriving Repr, DecidableEq

namespace Settings

mutual

/-- The value that stands where an upper value lies over a lower one. -/
def overlayValue : Json → Option Json → Json
  | .obj upper => fun
    | some (.obj lower) => .obj (overlay upper lower)
    | _ => .obj upper
  | .null => fun _ => .null
  | .bool value => fun _ => .bool value
  | .int value => fun _ => .int value
  | .float value => fun _ => .float value
  | .str value => fun _ => .str value
  | .arr items => fun _ => .arr items

/-- The members of an object, given first, laid over the members of another. -/
def overlay : List (String × Json) → List (String × Json) → List (String × Json)
  | [] => fun lower => lower
  | (key, value) :: rest => fun lower =>
    overlay rest (Value.setMember key (overlayValue value (Value.member? key lower)) lower)

end

/-- The mark that may stand in front of a text. -/
def byteOrderMark : List UInt8 := [0xEF, 0xBB, 0xBF]

/-- The text of a file without the mark in front. A file that is only the beginning of a mark is
empty; positions of faults count from behind the mark. -/
def decodeMarked (bytes : List UInt8) : Except Text.Utf8Fault (List Char) :=
  if bytes.length < 3 ∧ bytes.isPrefixOf byteOrderMark then .ok []
  else if byteOrderMark.isPrefixOf bytes then Text.decode (bytes.drop 3)
  else Text.decode bytes

/-- The object in the text of a layer; a text of nothing but blanks is an empty object. -/
def parseLayer (path : Path) (text : List Char) : Except LoadFailure (List (String × Json)) :=
  let bare := Text.trim Text.isBlank (Text.foldLines text)
  if bare.isEmpty then .ok []
  else
    match Json.read (String.ofList bare) with
    | .error (.tooLong digits) => .error (.tooLong digits)
    | .error problem => .error (.refused (.layer path (.malformed problem.message)))
    | .ok (.obj members) => .ok members
    | .ok other => .error (.refused (.layer path (.notObject other.kindName)))

def readFound (host : Host) (path resolved : Path) : Except LoadFailure (List (String × Json)) :=
  match host.readFile resolved with
  | .error error => .error (.refused (.layer path (.unreadable error)))
  | .ok bytes =>
    match decodeMarked bytes with
    | .error fault => .error (.notText fault)
    | .ok text => parseLayer path text

/-- Reads a layer; one that is not required may be missing. -/
def readLayer (host : Host) (path : Path) (required : Bool) :
    Traced LoadFailure (Option (List (String × Json))) := do
  let resolved ← Traced.ofExcept ((host.resolve path).mapError .access)
  if ← Traced.ofExcept ((host.isFile resolved).mapError .access) then
    return some (← Traced.ofExcept (readFound host path resolved))
  if required then Traced.fail (.refused (.layer path .missing))
  else
    Traced.record .debug .settings s!"No config layer at {resolved.text}"
    return none

def directoryName : String := ".corerpc"

def fileName : String := "config.json"

def layerBelow (directory : Path) : Path := (directory.child directoryName).child fileName

/-- Lays the layers over each other, the first one lowest, and tells which ones were there. -/
def mergeLayers (host : Host) (merged : List (String × Json)) (found : List Path) :
    List Path → Traced LoadFailure (List (String × Json) × List Path)
  | [] => pure (merged, found)
  | path :: rest => do
    match ← readLayer host path false with
    | none => mergeLayers host merged found rest
    | some members => mergeLayers host (overlay members merged) (found ++ [path]) rest

/-- The two layers, or one if they are the same file. -/
def layersOf (host : Host) (directory? : Option Path) : Except LoadFailure (List Path) := do
  let home ← host.home?.elim (.error .noHome) .ok
  let lower := layerBelow home
  let current := directory?.getD ⟨.single, host.workingDirectory⟩
  let upper := layerBelow current
  let resolvedUpper ← (host.resolve upper).mapError .access
  let resolvedLower ← (host.resolve lower).mapError .access
  return if resolvedUpper = resolvedLower then [lower] else [lower, upper]

def judgeMerged (host : Host) (members : List (String × Json)) (sources : List Path) :
    Except LoadFailure Settings :=
  match ofMembers host members with
  | .ok settings => .ok settings
  | .error .noHome => .error .noHome
  | .error (.problems problems) => .error (.refused (.invalid sources problems))

def announce (layers found : List Path) : Traced LoadFailure Unit :=
  if found.isEmpty then
    Traced.record .debug .settings
      s!"No config files found in {Text.quotedList (layers.map Path.text)}, using defaults"
  else
    Traced.record .info .settings
      s!"Config loaded from: {Text.quotedList (found.map Path.text)}"

def loadFile (host : Host) (path : Path) : Traced LoadFailure Settings := do
  let members ← readLayer host path true
  announce [path] [path]
  Traced.ofExcept (judgeMerged host (members.getD []) [path])

def loadLayers (host : Host) (directory? : Option Path) : Traced LoadFailure Settings := do
  let layers ← Traced.ofExcept (layersOf host directory?)
  let (members, found) ← mergeLayers host [] [] layers
  announce layers found
  Traced.ofExcept (judgeMerged host members found)

def load (host : Host) (path? directory? : Option Path) : Traced LoadFailure Settings :=
  match path? with
  | some path => loadFile host path
  | none => loadLayers host directory?

end Settings

end NodeClient
