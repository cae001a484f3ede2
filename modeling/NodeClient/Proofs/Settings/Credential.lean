import NodeClient.Proofs.Settings.Acceptance

/-! # Credentials of accepted settings

An object is accepted exactly when its settings are sound: no other name is there, each setting that is
given is one of its kind, a user comes with a password and a password with a user, and no cookie file
comes with them. Accepted settings lead to the credential option that was given, whatever the texts,
the empty ones included, and to none only where none was given.
-/

namespace NodeClient.Settings

open Value

/-- What is given for a timeout stands for a number: a floating-point number for itself, an integer or
a boolean for the number with its value, a text for the number that it spells. -/
inductive StandsFor : Json → Binary64 → Prop where
  | float (number : Binary64) : StandsFor (.float number) number
  | int {value : Int} {number : Binary64} (nearest : Binary64.ofInt? value = some number) :
      StandsFor (.int value) number
  | bool {value : Bool} {number : Binary64}
      (nearest : Binary64.ofInt? (if value then 1 else 0) = some number) :
      StandsFor (.bool value) number
  | text {text : String} {number : Binary64}
      (spelled : Number.readFloat? text.toList = some number) : StandsFor (.str text) number

/-- What is given for a release names it: a text, its number, or a floating-point number with the value
of its number. -/
inductive Names : Json → Release → Prop where
  | text {text : String} {release : Release} (named : Release.parseText text = .ok release) :
      Names (.str text) release
  | int (release : Release) : Names (.int release.number) release
  | float {number : Binary64} {release : Release}
      (same : number.equalsInt release.number = true) : Names (.float number) release

/-- The settings in an object are sound. A setting that is not given has a default; a user, a password
and a cookie file are not given where they are null. -/
structure Sound (host : Host) (members : List (String × Json)) : Prop where
  known : ∀ member ∈ members, member.1 ∈ keys
  url : ∀ value, member? "url" members = some value → ∃ text, value = .str text
  timeout : ∀ value, member? "timeout" members = some value →
    ∃ number, StandsFor value number ∧ number.isPositive = true
  release : ∀ value, member? "protocol_version" members = some value → ∃ release, Names value release
  cookieFile : memberOrNull "cookie_file" members = .null ∨
    ∃ text path, memberOrNull "cookie_file" members = .str text ∧
      host.expand (Path.ofString text) = .ok path
  paired : (memberOrNull "rpc_user" members = .null ∧ memberOrNull "rpc_password" members = .null) ∨
    ∃ user password, memberOrNull "rpc_user" members = .str user ∧
      memberOrNull "rpc_password" members = .str password
  exclusive : memberOrNull "cookie_file" members = .null ∨ memberOrNull "rpc_user" members = .null

section

variable {host : Host} {members : List (String × Json)} {name : String} {given : Option Json}
  {value : Json}

theorem numberOf_eq_ok_iff {number : Binary64} : numberOf value = .ok number ↔ StandsFor value number := by
  constructor
  · intro taken
    cases value with
    | float other => exact Except.ok.inj taken ▸ .float other
    | int integer =>
      rw [numberOf] at taken
      split at taken
      · next nearest => exact .int (Except.ok.inj taken ▸ nearest)
      · exact nomatch taken
    | bool flag =>
      rw [numberOf] at taken
      split at taken
      · next nearest => exact .bool (Except.ok.inj taken ▸ nearest)
      · exact nomatch taken
    | str text =>
      rw [numberOf] at taken
      split at taken
      · next spelled => exact .text (Except.ok.inj taken ▸ spelled)
      · exact nomatch taken
    | _ => exact nomatch taken
  · rintro (_ | nearest | nearest | spelled)
    · rfl
    · simp only [numberOf, nearest]
    · simp only [numberOf, nearest]
    · simp only [numberOf, spelled]

theorem exists_urlOf_iff : (∃ url, urlOf given = .ok url) ↔
    ∀ value, given = some value → ∃ text, value = .str text := by
  cases given with
  | none => exact iff_of_true ⟨_, rfl⟩ nofun
  | some value => cases value <;> simp [urlOf]

theorem timeoutOf_some_eq_ok_iff {number : Binary64} :
    timeoutOf (some value) = .ok number ↔ StandsFor value number ∧ number.isPositive = true := by
  rw [← numberOf_eq_ok_iff, timeoutOf.eq_def]
  dsimp only
  cases numberOf value with
  | error fault => simp only [reduceCtorEq, false_and]
  | ok other =>
    dsimp only
    split_ifs with positive
    · simp only [Except.ok.injEq]
      exact ⟨fun same => ⟨same, same ▸ positive⟩, And.left⟩
    · simp only [Except.ok.injEq, false_iff, not_and]
      rintro rfl
      exact positive

theorem isPositive_of_timeoutOf {number : Binary64} (taken : timeoutOf given = .ok number) :
    number.isPositive = true := by
  cases given with
  | none => exact Except.ok.inj taken ▸ rfl
  | some value => exact (timeoutOf_some_eq_ok_iff.mp taken).2

theorem exists_timeoutOf_iff : (∃ timeout, timeoutOf given = .ok timeout) ↔
    ∀ value, given = some value → ∃ number, StandsFor value number ∧ number.isPositive = true := by
  cases given with
  | none => exact iff_of_true ⟨_, rfl⟩ nofun
  | some value => simp only [timeoutOf_some_eq_ok_iff, Option.some.injEq, forall_eq']

theorem mapError_eq_ok_iff {ε ε' α : Type} {f : ε → ε'} {outcome : Except ε α} {result : α} :
    outcome.mapError f = .ok result ↔ outcome = .ok result := by
  cases outcome <;> simp [Except.mapError]

theorem exists_releaseOf_iff : (∃ release, releaseOf given = .ok release) ↔
    ∀ value, given = some value → ∃ release, Names value release := by
  cases given with
  | none => exact iff_of_true ⟨_, rfl⟩ nofun
  | some value =>
    simp only [Option.some.injEq, forall_eq']
    constructor
    · rintro ⟨release, taken⟩
      cases value with
      | str text => exact ⟨release, .text (mapError_eq_ok_iff.mp taken)⟩
      | int number =>
        obtain rfl := Release.parse_number_eq_ok_iff.mp (mapError_eq_ok_iff.mp taken)
        exact ⟨release, .int release⟩
      | float number =>
        rw [releaseOf] at taken
        split at taken
        · next other found =>
          have same := List.find?_some found
          exact ⟨other, .float same⟩
        · exact nomatch taken
      | _ => exact nomatch taken
    · rintro ⟨release, names⟩
      cases names with
      | text named => exact ⟨release, mapError_eq_ok_iff.mpr named⟩
      | int => exact ⟨release, mapError_eq_ok_iff.mpr (Release.parse_number_eq_ok_iff.mpr rfl)⟩
      | float same =>
        rw [releaseOf]
        split
        · next other _ => exact ⟨other, rfl⟩
        · next none =>
          exact absurd same (List.find?_eq_none.mp none release (Release.mem_all release))

/-- A text setting is taken as it is given, and null as if it were not. -/
theorem textOf_member?_eq_ok_iff {text? : Option String} :
    textOf (member? name members) = .ok text? ↔
      memberOrNull name members = text?.elim .null .str := by
  rw [memberOrNull, ← member?]
  cases member? name members with
  | none => cases text? <;> simp [textOf]
  | some value => cases value <;> cases text? <;> simp [textOf]

/-- The path of a cookie file is taken with a home directory in place of a tilde. -/
theorem expandOf_member?_eq_ok_iff {path? : Option Path} :
    expandOf host (pathOf (member? name members)) = .ok (.ok path?) ↔
      (memberOrNull name members = .null ∧ path? = none) ∨
        ∃ text path, memberOrNull name members = .str text ∧
          host.expand (Path.ofString text) = .ok path ∧ path? = some path := by
  rw [memberOrNull, ← member?]
  cases member? name members with
  | none => simp [pathOf, expandOf, eq_comm]
  | some value =>
    cases value with
    | null => simp [pathOf, expandOf, eq_comm]
    | str text =>
      cases expands : host.expand (Path.ofString text) with
      | ok path => simp [pathOf, expandOf, expands, eq_comm]
      | error fault => cases fault <;> simp [pathOf, expandOf, expands]
    | _ => simp [pathOf, expandOf]

/-- Credentials are judged sound when a user and a password come together and without a cookie file. -/
theorem credentialFault?_eq_none_iff {settings : Settings} :
    settings.credentialFault? = none ↔
      (settings.user? = none ↔ settings.password? = none) ∧
        (settings.cookieFile? = none ∨ settings.user? = none) := by
  obtain ⟨_, _, _, user?, password?, cookieFile?⟩ := settings
  cases user? <;> cases password? <;> cases cookieFile? <;> simp [credentialFault?]

end

theorem elim_eq_null_iff {text? : Option String} :
    text?.elim .null .str = (.null : Json) ↔ text? = none := by
  cases text? <;> simp

theorem elim_eq_str_iff {text? : Option String} {text : String} :
    text?.elim .null .str = (.str text : Json) ↔ text? = some text := by
  cases text? <;> simp

section

variable {host : Host} {members : List (String × Json)} {settings : Settings}

/-- What settings that are judged to be those of an object have for its cookie file. -/
theorem Judged.cookieFile_eq_some_iff
    (judged : Judged host (fun name => member? name members) settings) {path : Path} :
    settings.cookieFile? = some path ↔
      ∃ text, memberOrNull "cookie_file" members = .str text ∧
        host.expand (Path.ofString text) = .ok path := by
  rcases expandOf_member?_eq_ok_iff.mp judged.cookieFile with
    ⟨null, absent⟩ | ⟨text, other, given, expands, present⟩
  · simp [null, absent]
  · simp [given, present, expands]

theorem Judged.cookieFile_eq_none_iff
    (judged : Judged host (fun name => member? name members) settings) :
    settings.cookieFile? = none ↔ memberOrNull "cookie_file" members = .null := by
  rcases expandOf_member?_eq_ok_iff.mp judged.cookieFile with
    ⟨null, absent⟩ | ⟨text, other, given, expands, present⟩
  · simp [null, absent]
  · simp [given, present]

/-- Settings that are judged to be those of an object make it sound. -/
theorem Judged.sound (judged : Judged host (fun name => member? name members) settings) :
    Sound host members := by
  have user := textOf_member?_eq_ok_iff.mp judged.user
  have password := textOf_member?_eq_ok_iff.mp judged.password
  obtain ⟨together, apart⟩ := credentialFault?_eq_none_iff.mp judged.credentials
  exact {
    known := fun member listed =>
      judged.known member.1 (isSome_member?_iff.mpr (List.mem_map_of_mem listed))
    url := exists_urlOf_iff.mp ⟨_, judged.url⟩
    timeout := exists_timeoutOf_iff.mp ⟨_, judged.timeout⟩
    release := exists_releaseOf_iff.mp ⟨_, judged.release⟩
    cookieFile := by
      rcases expandOf_member?_eq_ok_iff.mp judged.cookieFile with
        ⟨null, _⟩ | ⟨text, path, given, expands, _⟩
      · exact .inl null
      · exact .inr ⟨text, path, given, expands⟩
    paired := by
      rw [user, password]
      cases known : settings.user? with
      | none =>
        rw [together.mp known]
        exact .inl ⟨rfl, rfl⟩
      | some text =>
        have present : settings.password? ≠ none := mt together.mpr (by rw [known]; nofun)
        obtain ⟨secret, present⟩ := Option.ne_none_iff_exists'.mp present
        rw [present]
        exact .inr ⟨text, secret, rfl, rfl⟩
    exclusive := by
      refine apart.imp judged.cookieFile_eq_none_iff.mp fun none => ?_
      rw [user, none, Option.elim_none] }

/-- Settings are judged to be those of an object that is sound. -/
theorem Sound.exists_judged (sound : Sound host members) :
    ∃ settings, Judged host (fun name => member? name members) settings := by
  obtain ⟨url, urlTaken⟩ := exists_urlOf_iff.mpr sound.url
  obtain ⟨timeout, timeoutTaken⟩ := exists_timeoutOf_iff.mpr sound.timeout
  obtain ⟨release, releaseTaken⟩ := exists_releaseOf_iff.mpr sound.release
  obtain ⟨cookieFile?, cookieFileTaken⟩ : ∃ cookieFile?,
      expandOf host (pathOf (member? "cookie_file" members)) = .ok (.ok cookieFile?) := by
    rcases sound.cookieFile with null | ⟨text, path, given, expands⟩
    · exact ⟨none, expandOf_member?_eq_ok_iff.mpr (.inl ⟨null, rfl⟩)⟩
    · exact ⟨some path, expandOf_member?_eq_ok_iff.mpr (.inr ⟨text, path, given, expands, rfl⟩)⟩
  obtain ⟨user?, password?, user, password, together⟩ : ∃ user? password? : Option String,
      memberOrNull "rpc_user" members = user?.elim .null .str ∧
        memberOrNull "rpc_password" members = password?.elim .null .str ∧
        (user? = none ↔ password? = none) := by
    rcases sound.paired with ⟨user, password⟩ | ⟨user?, password?, user, password⟩
    · exact ⟨none, none, user, password, Iff.rfl⟩
    · exact ⟨some user?, some password?, user, password, by simp⟩
  refine ⟨⟨url, timeout, release, user?, password?, cookieFile?⟩, urlTaken, timeoutTaken,
    releaseTaken, textOf_member?_eq_ok_iff.mpr user, textOf_member?_eq_ok_iff.mpr password,
    cookieFileTaken, ?_, credentialFault?_eq_none_iff.mpr ⟨together, ?_⟩⟩
  · intro name given
    obtain ⟨member, listed, rfl⟩ := List.mem_map.mp (isSome_member?_iff.mp given)
    exact sound.known member listed
  · rcases sound.exclusive with noFile | noUser
    · rcases expandOf_member?_eq_ok_iff.mp cookieFileTaken with ⟨_, absent⟩ | ⟨text, _, given, _⟩
      · exact .inl absent
      · exact nomatch noFile.symm.trans given
    · rw [user] at noUser
      cases user? with
      | none => exact .inr rfl
      | some text => exact nomatch noUser

/-- How settings with sound credentials authenticate. -/
theorem credentialOption_of_sound (sound : settings.credentialFault? = none) :
    (∀ path, settings.credentialOption = .cookieFile path ↔ settings.cookieFile? = some path) ∧
    (∀ user password, settings.credentialOption = .userPassword user password ↔
      settings.user? = some user ∧ settings.password? = some password) ∧
    (settings.credentialOption = .noAuth ↔
      settings.cookieFile? = none ∧ settings.user? = none) := by
  rw [credentialFault?_eq_none_iff] at sound
  obtain ⟨_, _, _, user?, password?, cookieFile?⟩ := settings
  cases user? <;> cases password? <;> cases cookieFile? <;> simp_all [credentialOption]

/-- An object is accepted exactly when its settings are sound. Accepted settings have a timeout above
zero and a release, and authenticate with the cookie file where one is given, with the user and the
password where they are given, and not at all where none of these is given. -/
theorem ofJson_accepts_sound (host : Host) (members : List (String × Json)) :
    ((∃ settings, ofJson host (.obj members) = .ok settings) ↔ Sound host members) ∧
    ∀ settings, ofJson host (.obj members) = .ok settings →
      settings.timeout.isPositive = true ∧ settings.timeout ≠ .nan ∧
      settings.release ∈ Release.all ∧
      (∀ path, settings.credentialOption = .cookieFile path ↔
        ∃ text, memberOrNull "cookie_file" members = .str text ∧
          host.expand (Path.ofString text) = .ok path) ∧
      (∀ user password, settings.credentialOption = .userPassword user password ↔
        memberOrNull "rpc_user" members = .str user ∧
          memberOrNull "rpc_password" members = .str password) ∧
      (settings.credentialOption = .noAuth ↔
        memberOrNull "cookie_file" members = .null ∧ memberOrNull "rpc_user" members = .null) := by
  simp only [ofJson, ofMembers_eq_ok_iff]
  refine ⟨⟨fun ⟨_, judged⟩ => judged.sound, Sound.exists_judged⟩, fun settings judged => ?_⟩
  have positive := isPositive_of_timeoutOf judged.timeout
  have user := textOf_member?_eq_ok_iff.mp judged.user
  have password := textOf_member?_eq_ok_iff.mp judged.password
  obtain ⟨byFile, byPassword, without⟩ := credentialOption_of_sound judged.credentials
  refine ⟨positive, ?_, Release.mem_all _, fun path => ?_, fun name secret => ?_, ?_⟩
  · intro nan
    rw [nan] at positive
    exact nomatch positive
  · rw [byFile, judged.cookieFile_eq_some_iff]
  · rw [byPassword, user, password, elim_eq_str_iff, elim_eq_str_iff]
  · rw [without, judged.cookieFile_eq_none_iff, user, elim_eq_null_iff]

/-- An empty user and an empty password are credentials, and a null cookie file is none. -/
theorem ofJson_accepts_sound_empty :
    let host : Host := { nodes := [], workingDirectory := [], environment := [], accounts := [] }
    let members : List (String × Json) :=
      [("cookie_file", .null), ("rpc_password", .str ""), ("timeout", .str " inf "),
        ("rpc_user", .str ""), ("protocol_version", .str "0.17.1")]
    ∃ settings, ofJson host (.obj members) = .ok settings ∧ Sound host members ∧
      settings.timeout.isPositive = true ∧ settings.credentialOption = .userPassword "" "" := by
  intro host members
  have accepted : ofJson host (.obj members) =
      .ok ⟨defaultUrl, .infinite false, .v17, some "", some "", none⟩ := by
    decide +kernel
  obtain ⟨sound, described⟩ := ofJson_accepts_sound host members
  obtain ⟨positive, _, _, _, byPassword, _⟩ := described _ accepted
  exact ⟨_, accepted, sound.mp ⟨_, accepted⟩, positive, (byPassword "" "").mpr ⟨rfl, rfl⟩⟩

end

end NodeClient.Settings
