import NodeClient.Address.Ip
import NodeClient.Domain.Basic
import NodeClient.Number.Integer
import NodeClient.Text.Lower
import NodeClient.Text.Quoted
import NodeClient.Text.Utf8

/-! # Addresses of servers

The address of a server is cut into scheme, user information, host, port, path, query and fragment.
Before a request is sent to it, each part is brought into one form: scheme and host in lower case, a
host with other letters than those of ASCII as a domain name in ASCII, the usual port of a scheme
left out, dot segments of a path removed, and characters that a part may not hold written by their
bytes. An address without scheme or host names a path of no server.
-/

namespace NodeClient

/-- An address in its one form. -/
structure Url where
  scheme : String
  userInfo : String
  host : String
  port? : Option Int
  path : String
  query? : Option String
  fragment? : Option String
  deriving Repr, DecidableEq

/-- Why a text is no address, or none that a request can be sent to. A fault of a server's name is
found when a request is made: of a host in ASCII that stands for a domain name, or of a run of
characters that are not ASCII, with the positions of the first and the last one. That a bracket
stands inside the brackets of an IPv6 address is found when a reply is there. -/
inductive UrlFault where
  | tooLong
  | control (c : Char) (position : Nat)
  | ipv4 (host : String)
  | ipv6 (host : String)
  | domain (host : String)
  | port (text : String)
  | pathStart
  | doubleSlash
  | colon
  | partTooLong (part : String)
  | name (fault : Domain.Fault)
  | notAscii (c : Char) (first last : Nat)
  | innerBracket
  | notBracketed (host : String)
  deriving Repr, DecidableEq

/-- The characters from one position to another, as messages show them. -/
def UrlFault.run (c : Char) (first last : Nat) : String :=
  if first = last then
    let shown := String.ofList (Text.escapedChar c)
    s!"character '{shown}' in position {first}"
  else s!"characters in position {first}-{last}"

def UrlFault.message : UrlFault → String
  | .tooLong => "URL too long"
  | .control c position =>
    s!"Invalid non-printable ASCII character in URL, {Text.quoted (String.ofList [c])} at position {position}."
  | .ipv4 host => s!"Invalid IPv4 address: {Text.quoted host}"
  | .ipv6 host => s!"Invalid IPv6 address: {Text.quoted host}"
  | .domain host => s!"Invalid IDNA hostname: {Text.quoted host}"
  | .port text => s!"Invalid port: {Text.quoted text}"
  | .pathStart => "For absolute URLs, path must be empty or begin with '/'"
  | .doubleSlash => "Relative URLs cannot have a path starting with '//'"
  | .colon => "Relative URLs cannot have a path starting with ':'"
  | .partTooLong part => s!"URL component {Text.quoted part} too long"
  | .name fault => fault.message
  | .notAscii c first last =>
    s!"'ascii' codec can't encode {UrlFault.run c first last}: ordinal not in range(128)"
  | .innerBracket => "Invalid IPv6 URL"
  | .notBracketed host => s!"{Text.quoted host} does not appear to be an IPv4 or IPv6 address"

namespace Url

/-- Most characters of an address, or of a part of one. -/
def lengthLimit : Nat := 65536

def isLetter (c : Char) : Bool := c.isAlpha

/-- Whether a character may stand behind the first one of a scheme. -/
def isSchemeChar (c : Char) : Bool := c.isAlphanum || c = '+' || c = '.' || c = '-'

/-- Whether every part may hold a character as it is. -/
def isUnreserved (c : Char) : Bool := c.isAlphanum || c = '-' || c = '.' || c = '_' || c = '~'

/-- Printable ASCII characters that a fragment may not hold. -/
def fragmentEscapes : List Char := [' ', '"', '<', '>', '\x60']

/-- Printable ASCII characters that a query may not hold. -/
def queryEscapes : List Char := [' ', '"', '#', '<', '>']

/-- Printable ASCII characters that a path may not hold. -/
def pathEscapes : List Char := queryEscapes ++ ['?', '\x60', '\x7b', '\x7d']

/-- Printable ASCII characters that user information may not hold. -/
def userInfoEscapes : List Char := pathEscapes ++ ['/', ';', '=', '@', '[', '\\', ']', '^', '|']

/-- Characters beyond the unreserved ones that a host may hold. -/
def hostChars : List Char :=
  ['!', '$', '&', '\'', '(', ')', '*', '+', ',', ';', '=', '"', '\x60', '\x7b', '\x7d', '%', '|',
    '\\']

/-- One byte as a percent sign and two upper-case hexadecimal digits. -/
def escapeByte (byte : UInt8) : List Char :=
  '%' :: (Text.hexadecimal 2 byte.toNat).map Char.toUpper

/-- A text in which each character that may not stand is written by its bytes. -/
def escape (mayStand : Char → Bool) (text : List Char) : List Char :=
  text.flatMap fun c => if mayStand c then [c] else (Text.charBytes c).flatMap escapeByte

/-- Whether a character is printable ASCII and not among some others. -/
def isPlainBut (excluded : List Char) (c : Char) : Bool :=
  0x20 ≤ c.toNat && c.toNat < 0x7F && !excluded.contains c

/-- The scheme in front of a text, and what follows its colon. -/
def cutScheme (text : List Char) : List Char × List Char :=
  match Text.cutFirst? [':'] text with
  | none => ([], text)
  | some (scheme, rest) =>
    match scheme with
    | [] => ([], rest)
    | first :: more =>
      if isLetter first && more.all isSchemeChar then (scheme, rest) else ([], text)

def endsAuthority (c : Char) : Bool := c = '/' || c = '?' || c = '#'

/-- The authority behind two slashes, and what follows it. -/
def cutAuthority (text : List Char) : List Char × List Char :=
  match text with
  | '/' :: '/' :: rest =>
    (rest.takeWhile fun c => !endsAuthority c, rest.dropWhile fun c => !endsAuthority c)
  | _ => ([], text)

/-- The part behind a mark, if the mark stands in a text, and what stands before it. -/
def cutMark (mark : Char) (text : List Char) : List Char × Option (List Char) :=
  match Text.cutFirst? [mark] text with
  | none => (text, none)
  | some (before, after) => (before, some after)

/-- The user information of an authority, and what follows it. -/
def cutUserInfo (authority : List Char) : List Char × List Char :=
  match Text.cutLast? '@' authority with
  | none => ([], authority)
  | some (userInfo, rest) => (userInfo, rest)

/-- The host of an authority, with the brackets of an IPv6 address, and the text of its port. -/
def cutHost (authority : List Char) : List Char × List Char :=
  let dropColon (rest : List Char) : List Char :=
    match rest with
    | ':' :: port => port
    | _ => rest
  match authority with
  | '[' :: _ =>
    match Text.cutLast? ']' authority with
    | some (inside, rest) => (inside ++ [']'], dropColon rest)
    | none => (authority.takeWhile (· ≠ ':'), dropColon (authority.dropWhile (· ≠ ':')))
  | _ => (authority.takeWhile (· ≠ ':'), dropColon (authority.dropWhile (· ≠ ':')))

/-- Whether a host looks like an IPv4 address: four runs of digits with points between. -/
def looksIpv4 (host : List Char) : Bool :=
  let runs := Text.splitAt '.' host
  runs.length = 4 && runs.all fun run => !run.isEmpty && run.all Char.isDigit

def hostOf (host : List Char) : Except UrlFault (List Char) :=
  if host.isEmpty then .ok []
  else if looksIpv4 host then
    if (Address.ipv4? host).isSome then .ok host else .error (.ipv4 (String.ofList host))
  else if host.head? = some '[' ∧ host.getLast? = some ']' then
    let inside := (host.drop 1).dropLast
    if Address.isIpv6 inside then .ok inside else .error (.ipv6 (String.ofList host))
  else if host.all Text.isAscii then
    .ok (escape (fun c => isUnreserved c || hostChars.contains c) (host.map Char.toLower))
  else (Domain.toAscii (Text.lower host)).mapError fun _ => .domain (String.ofList host)

def usualPort? (scheme : List Char) : Option Int :=
  [("ftp", 21), ("http", 80), ("https", 443), ("ws", 80), ("wss", 443)].lookup
    (String.ofList scheme)

/-- The port that a text spells, unless it is the usual one. -/
def portOf (scheme text : List Char) : Except UrlFault (Option Int) :=
  if text.isEmpty then .ok none
  else
    match Number.readInteger text with
    | .error _ => .error (.port (String.ofList text))
    | .ok port => .ok (if usualPort? scheme = some port then none else some port)

/-- Removes dot segments: a point is dropped, and two points drop the segment before them. -/
def dropDots (kept : List (List Char)) : List (List Char) → List (List Char)
  | [] => kept
  | segment :: rest =>
    if segment = ['.'] then dropDots kept rest
    else if segment = ['.', '.'] then dropDots (if kept = [[]] then kept else kept.dropLast) rest
    else dropDots (kept ++ [segment]) rest

/-- A path without dot segments. -/
def plainPath (path : List Char) : List Char :=
  let segments := Text.splitAt '/' path
  if segments.contains ['.'] || segments.contains ['.', '.'] then
    ['/'].intercalate (dropDots [] segments)
  else path

/-- Checks that a path fits the parts before it. -/
def checkPath (hasScheme hasAuthority : Bool) (path : List Char) : Except UrlFault Unit :=
  if hasAuthority then
    if path.isEmpty || path.head? = some '/' then .ok () else .error .pathStart
  else if hasScheme then .ok ()
  else if ['/', '/'].isPrefixOf path then .error .doubleSlash
  else if path.head? = some ':' then .error .colon
  else .ok ()

/-- The first control character of a text, with its position. -/
def control? (text : List Char) : Option UrlFault :=
  let isControl (c : Char) : Bool := c.toNat < 0x20 || c.toNat = 0x7F
  (text.find? isControl).map fun c =>
    .control c (text.takeWhile fun other => !isControl other).length

/-- The address of a text. -/
def parse (text : String) : Except UrlFault Url := do
  let chars := text.toList
  if lengthLimit < chars.length then throw .tooLong
  if let some fault := control? chars then throw fault
  let (beforeFragment, fragment?) := cutMark '#' chars
  let (beforeQuery, query?) := cutMark '?' beforeFragment
  let (scheme, afterScheme) := cutScheme beforeQuery
  let (authority, path) := cutAuthority afterScheme
  let (userInfo, afterUserInfo) := cutUserInfo authority
  let (host, portText) := cutHost afterUserInfo
  let host ← hostOf host
  let port? ← portOf scheme portText
  let hasScheme := !scheme.isEmpty
  let hasAuthority := !userInfo.isEmpty || !host.isEmpty || port?.isSome
  checkPath hasScheme hasAuthority path
  let path := if hasScheme || hasAuthority then plainPath path else path
  let escaped (excluded : List Char) (part : List Char) : String :=
    String.ofList (escape (isPlainBut excluded) part)
  return {
    scheme := String.ofList (scheme.map Char.toLower)
    userInfo := escaped userInfoEscapes userInfo
    host := String.ofList host
    port?
    path := escaped pathEscapes path
    query? := query?.map (escaped queryEscapes)
    fragment? := fragment?.map (escaped fragmentEscapes) }

/-- Whether an address names a server. -/
def isAbsolute (url : Url) : Bool := !url.scheme.isEmpty && !url.host.isEmpty

/-- An address that names no server as a path from the root. -/
def rooted (url : Url) : Except UrlFault Url :=
  let path := '/' :: url.path.toList.dropWhile (· = '/')
  if lengthLimit < path.length then .error (.partTooLong "path")
  else if url.query?.any fun query => lengthLimit < query.length then .error (.partTooLong "query")
  else
    .ok { url with
      scheme := "", userInfo := "", host := "", port? := none, path := String.ofList path
      fragment? := none }

/-- The host and the port as a request tells them to a server. -/
def server (url : Url) : String :=
  let host := if url.host.toList.contains ':' then s!"[{url.host}]" else url.host
  host ++ (url.port?.map fun port => s!":{port}").getD ""

/-- The first run of characters of a text that are not ASCII. -/
def notAscii? (text : List Char) : Option UrlFault :=
  let start := (text.takeWhile Text.isAscii).length
  let run := (text.drop start).takeWhile fun c => !Text.isAscii c
  run.head?.map fun c => .notAscii c start (start + run.length - 1)

/-- Checks that a request can tell its server to it. -/
def checkServer (url : Url) : Except UrlFault Unit :=
  let host := url.host.toList
  if Domain.Label.mark.isPrefixOf host then (Domain.checkAscii host).mapError .name
  else (notAscii? url.server.toList).elim (.ok ()) .error

/-- The address that a request is sent to. -/
def target (url : Url) : Except UrlFault Url := do
  let target ← if url.isAbsolute then .ok url else url.rooted
  target.checkServer
  return target

/-- Checks that the first closing bracket ends an IPv6 address, which may have one in its zone. -/
def checkBrackets (url : Url) : Except UrlFault Unit :=
  match Text.cutFirst? [']'] url.host.toList with
  | none => .ok ()
  | some (inside, rest) =>
    if rest.head? ≠ some ':' then .error .innerBracket
    else if Address.isIpv6 inside then .ok ()
    else .error (.notBracketed (String.ofList inside))

def text (url : Url) : String :=
  let userInfo := if url.userInfo.isEmpty then "" else url.userInfo ++ "@"
  let authority := userInfo ++ url.server
  (if url.scheme.isEmpty then "" else url.scheme ++ ":") ++
    (if authority.isEmpty then "" else "//" ++ authority) ++ url.path ++
    ((url.query?.map ("?" ++ ·)).getD "") ++ (url.fragment?.map ("#" ++ ·)).getD ""

/-- The bytes of a text in which a percent sign with two hexadecimal digits stands for a byte. -/
def unescape : List Char → List UInt8
  | [] => []
  | '%' :: high :: low :: rest =>
    match Text.hexDigit? high, Text.hexDigit? low with
    | some high, some low => UInt8.ofNat (high * 16 + low) :: unescape rest
    | _, _ => Text.charBytes '%' ++ unescape (high :: low :: rest)
  | c :: rest => Text.charBytes c ++ unescape rest

/-- The user and the password in the user information. -/
def credentials (url : Url) : String × String :=
  let info := url.userInfo.toList
  let (user, password) := (Text.cutFirst? [':'] info).getD (info, [])
  (Text.decodeLossy (unescape user), Text.decodeLossy (unescape password))

end Url

end NodeClient
