import NodeClient.Path

/-! # Credential options

A client connects without credentials, with a user and a password, or with those in the cookie file
that a node writes. A bare pair is no option, and is refused where an option is resolved. Passwords
are never shown.
-/

namespace NodeClient

/-- How a client authenticates. -/
inductive CredentialOption where
  | noAuth
  | userPassword (user password : String)
  | cookieFile (path : Path)
  | bare (user password : String)
  deriving Repr, DecidableEq

namespace CredentialOption

def shown : CredentialOption → String
  | .noAuth => "NoAuth()"
  | .userPassword user _ => s!"UserPassword(user={Text.quoted user}, password='***')"
  | .cookieFile path => s!"CookieFile(path={path.shown})"
  | .bare user password => s!"({Text.quoted user}, {Text.quoted password})"

end CredentialOption

/-- A user and a password. -/
structure Credentials where
  user : String
  password : String
  deriving Repr, DecidableEq

end NodeClient
