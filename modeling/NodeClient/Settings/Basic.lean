import NodeClient.CookieFile
import NodeClient.Json.Value
import NodeClient.Number.Reading
import NodeClient.Number.Shortest
import NodeClient.Release

/-! # Settings of a client

Settings are read from a JSON object. Every setting has a default, a key that is no setting is
refused, and each setting is judged on its own before the credentials are judged together: a user
and a password come in pairs, and exclude a cookie file.
-/

namespace NodeClient

/-- What a client connects with. -/
structure Settings where
  url : String
  timeout : Binary64
  release : Release
  user? : Option String
  password? : Option String
  cookieFile? : Option Path
  deriving Repr, DecidableEq

/-- What is wrong with a setting, or with the settings together. -/
inductive SettingsFault where
  | notText
  | notNumber
  | notNumberText
  | notPositive
  | unknownRelease (cause : Release.Unknown)
  | notRelease
  | notPath
  | nullCharacter
  | unknownKey
  | notObject
  | passwordWithoutUser
  | userWithoutPassword
  | cookieFileWithUser
  deriving Repr, DecidableEq

namespace SettingsFault

def alternatives : String :=
  let numbers := Release.all.map fun release => toString release.number
  ", ".intercalate numbers.dropLast ++ " or " ++ numbers.getLastD ""

def message : SettingsFault → String
  | .notText => "Input should be a valid string"
  | .notNumber => "Input should be a valid number"
  | .notNumberText => "Input should be a valid number, unable to parse string as a number"
  | .notPositive => "Input should be greater than 0"
  | .unknownRelease cause => s!"Value error, {cause.message}"
  | .notRelease => s!"Input should be {alternatives}"
  | .notPath => "Input is not a valid path for <class 'pathlib.Path'>"
  | .nullCharacter => s!"Value error, {AccessError.nullCharacter.message}"
  | .unknownKey => "Extra inputs are not permitted"
  | .notObject => "Input should be a valid dictionary or instance of ClientConfig"
  | .passwordWithoutUser => "Value error, rpc_password requires rpc_user"
  | .userWithoutPassword => "Value error, rpc_user requires rpc_password"
  | .cookieFileWithUser => "Value error, cookie_file cannot be combined with rpc_user/rpc_password"

def code : SettingsFault → String
  | .notText => "string_type"
  | .notNumber => "float_type"
  | .notNumberText => "float_parsing"
  | .notPositive => "greater_than"
  | .notRelease => "enum"
  | .notPath => "path_type"
  | .unknownKey => "extra_forbidden"
  | .notObject => "model_type"
  | _ => "value_error"

end SettingsFault

/-- A fault with the key of the setting, which is empty for the settings together. -/
structure SettingsProblem where
  key : String
  fault : SettingsFault
  deriving Repr, DecidableEq

/-- How settings are refused: with every problem, or because a home directory is unknown. -/
inductive SettingsRefusal where
  | problems (problems : List SettingsProblem)
  | noHome
  deriving Repr, DecidableEq

def SettingsProblem.summary (problems : List SettingsProblem) : String :=
  let noun := if problems.length = 1 then "error" else "errors"
  s!"{problems.length} validation {noun} for ClientConfig"

namespace Settings

def defaultUrl : String := "http://127.0.0.1:8332"

/-- The default timeout, sixty seconds: the significand is `60 · 2 ^ 47`. -/
def defaultTimeout : Binary64 := .finite false 8444249301319680 (-47)

def keys : List String :=
  ["url", "timeout", "protocol_version", "rpc_user", "rpc_password", "cookie_file"]

def urlOf : Option Json → Except SettingsFault String
  | none => .ok defaultUrl
  | some (.str text) => .ok text
  | some _ => .error .notText

/-- The number that a timeout setting stands for. -/
def numberOf : Json → Except SettingsFault Binary64
  | .float value => .ok value
  | .int value =>
    match Binary64.ofInt? value with
    | some number => .ok number
    | none => .error .notNumber
  | .bool value =>
    match Binary64.ofInt? (if value then 1 else 0) with
    | some number => .ok number
    | none => .error .notNumber
  | .str text =>
    match Number.readFloat? text.toList with
    | some number => .ok number
    | none => .error .notNumberText
  | _ => .error .notNumber

def timeoutOf : Option Json → Except SettingsFault Binary64
  | none => .ok defaultTimeout
  | some value =>
    match numberOf value with
    | .error fault => .error fault
    | .ok number => if number.isPositive then .ok number else .error .notPositive

def releaseOf : Option Json → Except SettingsFault Release
  | none => .ok Release.latest
  | some (.str text) => (Release.parse (.text text)).mapError .unknownRelease
  | some (.int number) => (Release.parse (.number number)).mapError .unknownRelease
  | some (.float value) =>
    match Release.all.find? fun release => value.equalsInt release.number with
    | some release => .ok release
    | none => .error .notRelease
  | some _ => .error .notRelease

/-- A setting that is a text or not set. -/
def textOf : Option Json → Except SettingsFault (Option String)
  | none => .ok none
  | some .null => .ok none
  | some (.str text) => .ok (some text)
  | some _ => .error .notText

def pathOf : Option Json → Except SettingsFault (Option Path)
  | none => .ok none
  | some .null => .ok none
  | some (.str text) => .ok (some (Path.ofString text))
  | some _ => .error .notPath

def problemOf {α : Type} (key : String) : Except SettingsFault α → List SettingsProblem
  | .ok _ => []
  | .error fault => [⟨key, fault⟩]

def unknownKeys (members : List (String × Json)) : List SettingsProblem :=
  (members.filter fun member => !keys.contains member.1).map fun member => ⟨member.1, .unknownKey⟩

def credentialFault? (settings : Settings) : Option SettingsFault :=
  if settings.password?.isSome && settings.user?.isNone then some .passwordWithoutUser
  else if settings.user?.isSome && settings.password?.isNone then some .userWithoutPassword
  else if settings.cookieFile?.isSome && settings.user?.isSome then some .cookieFileWithUser
  else none

/-- Judges the credentials of settings together. -/
def judge (settings : Settings) : Except SettingsRefusal Settings :=
  match settings.credentialFault? with
  | some fault => .error (.problems [⟨"", fault⟩])
  | none => .ok settings

/-- The path of a cookie file, with a home directory in place of a tilde. -/
def expandOf (host : Host) : Except SettingsFault (Option Path) →
    Except SettingsRefusal (Except SettingsFault (Option Path))
  | .ok (some path) =>
    match host.expand path with
    | .ok path => .ok (.ok (some path))
    | .error .nullCharacter => .ok (.error .nullCharacter)
    | .error .noHome => .error .noHome
  | other => .ok other

def ofMembers (host : Host) (members : List (String × Json)) : Except SettingsRefusal Settings :=
  let url := urlOf (Value.member? "url" members)
  let timeout := timeoutOf (Value.member? "timeout" members)
  let release := releaseOf (Value.member? "protocol_version" members)
  let user := textOf (Value.member? "rpc_user" members)
  let password := textOf (Value.member? "rpc_password" members)
  match expandOf host (pathOf (Value.member? "cookie_file" members)) with
  | .error refusal => .error refusal
  | .ok cookieFile =>
    let problems :=
      problemOf "url" url ++ problemOf "timeout" timeout ++ problemOf "protocol_version" release ++
        problemOf "rpc_user" user ++ problemOf "rpc_password" password ++
        problemOf "cookie_file" cookieFile ++ unknownKeys members
    match url, timeout, release, user, password, cookieFile, problems with
    | .ok url, .ok timeout, .ok release, .ok user, .ok password, .ok cookieFile, [] =>
      judge ⟨url, timeout, release, user, password, cookieFile⟩
    | _, _, _, _, _, _, _ => .error (.problems problems)

def ofJson (host : Host) : Json → Except SettingsRefusal Settings
  | .obj members => ofMembers host members
  | _ => .error (.problems [⟨"", .notObject⟩])

def credentialOption (settings : Settings) : CredentialOption :=
  match settings.cookieFile?, settings.user?, settings.password? with
  | some path, _, _ => .cookieFile path
  | none, some user, some password => .userPassword user password
  | none, _, _ => .noAuth

/-- Settings as log records show them; the password is left out. -/
def shown (settings : Settings) : String :=
  let user := (settings.user?.map Text.quoted).getD "None"
  let cookieFile := (settings.cookieFile?.map Path.shown).getD "None"
  s!"ClientConfig(url={Text.quoted settings.url}, timeout={settings.timeout.text}, protocol_version=<ProtocolVersion.{settings.release.name}: {settings.release.number}>, rpc_user={user}, cookie_file={cookieFile})"

end Settings

end NodeClient
