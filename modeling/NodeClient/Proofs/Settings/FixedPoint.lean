import NodeClient.Proofs.Path
import NodeClient.Proofs.Release
import NodeClient.Proofs.Settings.Credential

/-! # Settings that are given again

Accepted settings that are put into an object as they are get accepted again, and are the same settings:
a timeout is a number by then, a release is named by its own text, and the path of a cookie file is read
back from its text with no tilde left in front. This last needs a home directory that is absolute: behind
one that is the working directory, the next name may begin with a tilde of its own.
-/

namespace NodeClient.Settings

open Value

/-- An object restates settings: it has each one as it is, the release by its text and the cookie file by
the text of its path. What is not set is null or not there, and nothing else is there. -/
structure Restates (again : List (String × Json)) (settings : Settings) : Prop where
  known : ∀ member ∈ again, member.1 ∈ keys
  url : member? "url" again = some (.str settings.url)
  timeout : member? "timeout" again = some (.float settings.timeout)
  release : member? "protocol_version" again = some (.str settings.release.text)
  user : memberOrNull "rpc_user" again = settings.user?.elim .null .str
  password : memberOrNull "rpc_password" again = settings.password?.elim .null .str
  cookieFile : memberOrNull "cookie_file" again = (settings.cookieFile?.map Path.text).elim .null .str

/-- The members of an object that restates settings with every key. -/
def toMembers (settings : Settings) : List (String × Json) :=
  [("url", .str settings.url),
    ("timeout", .float settings.timeout),
    ("protocol_version", .str settings.release.text),
    ("rpc_user", settings.user?.elim .null .str),
    ("rpc_password", settings.password?.elim .null .str),
    ("cookie_file", (settings.cookieFile?.map Path.text).elim .null .str)]

theorem restates_toMembers (settings : Settings) : Restates settings.toMembers settings where
  known := by
    intro member listed
    have named : member.1 ∈ settings.toMembers.map Prod.fst := List.mem_map_of_mem listed
    exact named
  url := rfl
  timeout := rfl
  release := rfl
  user := rfl
  password := rfl
  cookieFile := rfl

/-- The text of a release, given for it, is taken as that release. -/
theorem releaseOf_text (release : Release) : releaseOf (some (.str release.text)) = .ok release :=
  mapError_eq_ok_iff.mpr release.parse_text

section

variable {host : Host} {members again : List (String × Json)} {settings : Settings}

section

variable (judged : Judged host (fun name => member? name members) settings)
  (absolute : ∀ text, memberOrNull "cookie_file" members = .str text →
    host.HomeIsAbsolute (Path.ofString text))
  (restates : Restates again settings)

include judged absolute restates

/-- The cookie file of an object is found again under the text of its path. -/
theorem Judged.cookieFile_restated :
    expandOf host (pathOf (member? "cookie_file" again)) = .ok (.ok settings.cookieFile?) := by
  have given := restates.cookieFile
  refine expandOf_member?_eq_ok_iff.mpr ?_
  cases found : settings.cookieFile? with
  | none =>
    rw [found] at given
    exact .inl ⟨given, rfl⟩
  | some path =>
    rw [found] at given
    obtain ⟨text, named, expands⟩ := judged.cookieFile_eq_some_iff.mp found
    have kept : host.expand (Path.ofString path.text) = .ok path :=
      Host.expand_text (absolute text named) expands
    exact .inr ⟨path.text, path, given, kept, rfl⟩

/-- Settings that are judged to be those of an object are those of an object that restates them. -/
theorem Judged.restated : Judged host (fun name => member? name again) settings where
  url := by rw [restates.url]; rfl
  timeout := by
    rw [restates.timeout]
    exact timeoutOf_some_eq_ok_iff.mpr ⟨.float _, isPositive_of_timeoutOf judged.timeout⟩
  release := by rw [restates.release]; exact releaseOf_text settings.release
  user := textOf_member?_eq_ok_iff.mpr restates.user
  password := textOf_member?_eq_ok_iff.mpr restates.password
  cookieFile := judged.cookieFile_restated absolute restates
  known := by
    intro name given
    obtain ⟨member, listed, rfl⟩ := List.mem_map.mp (isSome_member?_iff.mp given)
    exact restates.known member listed
  credentials := judged.credentials

end

/-- Accepted settings are a fixed point: an object that restates them is accepted, as the same settings
and with the same credential option, where the home directory that the tilde of the cookie file stands
for is absolute. -/
theorem ofJson_accepts_restated
    (absolute : ∀ text, memberOrNull "cookie_file" members = .str text →
      host.HomeIsAbsolute (Path.ofString text))
    (accepted : ofJson host (.obj members) = .ok settings) :
    Restates settings.toMembers settings ∧
    ∀ again, Restates again settings →
      ∃ same, ofJson host (.obj again) = .ok same ∧ same = settings ∧
        same.credentialOption = settings.credentialOption := by
  refine ⟨restates_toMembers settings, fun again restates => ?_⟩
  have judged := ofMembers_eq_ok_iff.mp accepted
  have taken : ofJson host (.obj again) = .ok settings :=
    ofMembers_eq_ok_iff.mpr (judged.restated absolute restates)
  exact ⟨settings, taken, rfl, rfl⟩

/-- A timeout in a text, a release by an early version and a cookie file behind a point and a tilde are
accepted, and once more from an object without the credentials that are not set. -/
theorem ofJson_accepts_restated_cookieFile :
    let host : Host :=
      { nodes := [], workingDirectory := [], environment := [("HOME", "//srv/./alice/")],
        accounts := [] }
    let members : List (String × Json) :=
      [("cookie_file", .str ".//~/../.cookie"), ("timeout", .str " 2.5e-1 "),
        ("protocol_version", .str " V0.17.1 ")]
    let settings : Settings :=
      ⟨defaultUrl, .finite false 4503599627370496 (-54), .v17, none, none,
        some ⟨.double, ["srv", "alice", "..", ".cookie"]⟩⟩
    let again : List (String × Json) :=
      [("cookie_file", .str "//srv/alice/../.cookie"), ("protocol_version", .str "v17"),
        ("timeout", .float settings.timeout), ("url", .str settings.url)]
    host.HomeIsAbsolute (Path.ofString ".//~/../.cookie") ∧
      ofJson host (.obj members) = .ok settings ∧ Restates again settings ∧
      ofJson host (.obj again) = .ok settings := by
  intro host members settings again
  have absolute : host.HomeIsAbsolute (Path.ofString ".//~/../.cookie") := by
    have mark : Path.tilde? (Path.ofString ".//~/../.cookie") = some "~" := by decide +kernel
    have place : host.homeOf? "~" = some "//srv/./alice" := by decide +kernel
    intro tilde home marked known
    obtain rfl := Option.some.inj (mark.symm.trans marked)
    obtain rfl := Option.some.inj (place.symm.trans known)
    decide +kernel
  have accepted : ofJson host (.obj members) = .ok settings := by decide +kernel
  have version : Release.v17.text = "v17" := by decide
  have path : Path.text ⟨.double, ["srv", "alice", "..", ".cookie"]⟩ = "//srv/alice/../.cookie" := by
    decide +kernel
  have restates : Restates again settings := {
    known := by decide
    url := rfl
    timeout := rfl
    release := congrArg (some <| Value.str ·) version.symm
    user := rfl
    password := rfl
    cookieFile := congrArg Value.str path.symm }
  obtain ⟨_, fixed⟩ := ofJson_accepts_restated
    (fun text given => Value.str.inj given ▸ absolute) accepted
  obtain ⟨same, taken, rfl, _⟩ := fixed again restates
  exact ⟨absolute, accepted, restates, taken⟩

end

end NodeClient.Settings
