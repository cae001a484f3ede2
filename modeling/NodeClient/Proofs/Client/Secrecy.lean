import NodeClient.Proofs.Client.Redaction
import NodeClient.Proofs.Client.Session
import NodeClient.Proofs.CookieFile.FirstLine
import NodeClient.Proofs.Settings.Acceptance

/-! # Passwords stay hidden

Two configurations that differ in the password alone give clients that nobody tells apart by what is
shown of them or by what they do, as long as the servers treat them alike. What is logged about a
cookie file depends on its path and its permission bits alone.
-/

namespace NodeClient

namespace Settings

/-- Two objects that both have a password, and agree under every other name. -/
structure DifferInPassword (members others : List (String × Json)) : Prop where
  password : ∃ text, Value.member? "rpc_password" members = some (.str text)
  otherPassword : ∃ text, Value.member? "rpc_password" others = some (.str text)
  rest : ∀ name, name ≠ "rpc_password" →
    Value.member? name members = Value.member? name others

/-- Settings with a password have a user, and no cookie file. -/
theorem exists_user_of_password {settings : Settings} {password : String}
    (sound : settings.credentialFault? = none) (given : settings.password? = some password) :
    ∃ user, settings.user? = some user ∧ settings.cookieFile? = none := by
  rw [credentialFault?, given] at sound
  cases named : settings.user? with
  | none => simp [named] at sound
  | some user =>
    cases file : settings.cookieFile? with
    | none => exact ⟨user, rfl, rfl⟩
    | some path => simp [named, file] at sound

/-- Accepted objects that differ in the password stand for settings with one user that differ in the
password. -/
theorem exists_of_differInPassword {host : Host} {members others : List (String × Json)}
    {settings other : Settings} (differ : DifferInPassword members others)
    (accepted : ofMembers host members = .ok settings)
    (otherAccepted : ofMembers host others = .ok other) :
    ∃ url timeout release user password otherPassword,
      settings = ⟨url, timeout, release, some user, some password, none⟩ ∧
      other = ⟨url, timeout, release, some user, some otherPassword, none⟩ := by
  have judged := ofMembers_eq_ok_iff.mp accepted
  have judged' := ofMembers_eq_ok_iff.mp otherAccepted
  obtain ⟨password, set⟩ := differ.password
  obtain ⟨otherPassword, set'⟩ := differ.otherPassword
  have given : settings.password? = some password := by
    have valid := judged.password
    rw [set] at valid
    exact (Except.ok.inj valid).symm
  have given' : other.password? = some otherPassword := by
    have valid := judged'.password
    rw [set'] at valid
    exact (Except.ok.inj valid).symm
  obtain ⟨user, named, fileless⟩ := exists_user_of_password judged.credentials given
  obtain ⟨user', named', fileless'⟩ := exists_user_of_password judged'.credentials given'
  have url : settings.url = other.url := by
    have valid := judged.url
    rw [differ.rest _ (by decide)] at valid
    exact Except.ok.inj (valid.symm.trans judged'.url)
  have timeout : settings.timeout = other.timeout := by
    have valid := judged.timeout
    rw [differ.rest _ (by decide)] at valid
    exact Except.ok.inj (valid.symm.trans judged'.timeout)
  have release : settings.release = other.release := by
    have valid := judged.release
    rw [differ.rest _ (by decide)] at valid
    exact Except.ok.inj (valid.symm.trans judged'.release)
  have user_eq : settings.user? = other.user? := by
    have valid := judged.user
    rw [differ.rest _ (by decide)] at valid
    exact Except.ok.inj (valid.symm.trans judged'.user)
  refine ⟨settings.url, settings.timeout, settings.release, user, password, otherPassword, ?_, ?_⟩
  · rw [← named, ← given, ← fileless]
  · rw [← named, user_eq, url, timeout, release, ← given', ← fileless']

end Settings

namespace Client

def ofUser (url : String) (timeout : Binary64) (release : Release) (user password : String) :
    Client :=
  let transport : Transport := ⟨url, some ⟨user, password⟩, .float timeout, .float timeout, true⟩
  ⟨release.profile, transport, true⟩

/-- Settings with a user and a password make a client on every host. -/
theorem ofSettings_of_user (host : Host) (url : String) (timeout : Binary64) (release : Release)
    (user password : String) :
    let client := ofUser url timeout release user password
    ofSettings host ⟨url, timeout, release, some user, some password, none⟩ =
      ⟨[release.profile.announcement, client.announcement], .ok client⟩ := rfl

theorem ofUser_sameButPassword (url : String) (timeout : Binary64) (release : Release)
    (user password otherPassword : String) :
    (ofUser url timeout release user password).SameButPassword
      (ofUser url timeout release user otherPassword) :=
  ⟨rfl, ⟨rfl, rfl, rfl, rfl, rfl⟩, rfl⟩

/-- Nobody tells two new clients apart: they are shown alike, and whatever they are used for, as long
as they get the same replies, they make the same attempts but for the authorization that they send:
with the same log records, the same answers and the same errors. -/
structure Indistinguishable (client other : Client) : Prop where
  transport : client.transport.shown = other.transport.shown
  shown : client.shown = other.shown
  attempts : ∀ rounds others : List Round, rounds.map Round.action = others.map Round.action →
    client.replies Transport.initial rounds = other.replies Transport.initial others →
    (client.performAll Transport.initial rounds).map Attempt.redacted =
      (other.performAll Transport.initial others).map Attempt.redacted

theorem SameButPassword.indistinguishable {left right : Client}
    (same : left.SameButPassword right) : left.Indistinguishable right :=
  ⟨same.transport.shown_eq, same.shown_eq, fun _ _ => same.performAll_redacted⟩

end Client

/-- Passwords stay hidden. Of two accepted configurations that differ in the password, the settings,
their credential options, and the records of making clients of them are the same, and so is all that
is shown of the clients and that their calls answer, as long as the servers treat them alike. Two
cookie files at one path with the same permission bits that give credentials are logged alike. -/
theorem passwords_stay_hidden :
    (∀ (host : Host) (members others : List (String × Json)) (settings other : Settings),
      Settings.DifferInPassword members others →
      Settings.ofJson host (.obj members) = .ok settings →
      Settings.ofJson host (.obj others) = .ok other →
      settings.shown = other.shown ∧
      settings.credentialOption.shown = other.credentialOption.shown ∧
      ∃ records client otherClient,
        Client.ofSettings host settings = ⟨records, .ok client⟩ ∧
        Client.ofSettings host other = ⟨records, .ok otherClient⟩ ∧
        client.Indistinguishable otherClient) ∧
    ∀ (host other : Host) (path : Path) (credentials otherCredentials : Credentials),
      (host.lookUp path).map FileNode.mode = (other.lookUp path).map FileNode.mode →
      (CookieFile.read host path).outcome = .ok credentials →
      (CookieFile.read other path).outcome = .ok otherCredentials →
      (CookieFile.read host path).records = (CookieFile.read other path).records := by
  constructor
  · intro host members others settings other differ accepted otherAccepted
    obtain ⟨url, timeout, release, user, password, otherPassword, rfl, rfl⟩ :=
      Settings.exists_of_differInPassword differ accepted otherAccepted
    have same := Client.ofUser_sameButPassword url timeout release user password otherPassword
    refine ⟨rfl, rfl, _, _, _, Client.ofSettings_of_user host url timeout release user password, ?_,
      same.indistinguishable⟩
    rw [same.announcement_eq]
    exact Client.ofSettings_of_user host url timeout release user otherPassword
  · intro host other path credentials otherCredentials modes given otherGiven
    obtain ⟨node, found, records⟩ := CookieFile.exists_read_records given
    obtain ⟨otherNode, otherFound, otherRecords⟩ := CookieFile.exists_read_records otherGiven
    rw [found, otherFound] at modes
    rw [records, otherRecords, Except.ok.inj modes]

def aliceMembers (password : String) : List (String × Json) :=
  [("rpc_user", .str "alice"), ("rpc_password", .str password)]

def cookieText (password : String) : String := "__cookie__:" ++ password

/-- A host with a cookie file that others may read. -/
def cookieHost (password : String) : Host :=
  { nodes := [([".cookie"], .file (Text.encode (cookieText password).toList) 0o640 false)]
    workingDirectory := []
    environment := []
    accounts := [] }

theorem lookUp_cookieHost (password : String) :
    (cookieHost password).lookUp ⟨.single, [".cookie"]⟩ =
      .ok (.file (Text.encode (cookieText password).toList) 0o640 false) := rfl

theorem mode_cookieHost (password : String) :
    ((cookieHost password).lookUp ⟨.single, [".cookie"]⟩).map FileNode.mode = .ok 0o640 := by
  rw [lookUp_cookieHost]
  rfl

/-- Such a cookie file gives the credentials in its one line. -/
theorem read_cookieHost {password : String} {credentials : Credentials}
    (first : CookieFile.lineOf none (CookieFile.blocks (Text.encode (cookieText password).toList)) =
      .ok (cookieText password).toList)
    (parts : CookieFile.split (cookieText password).toList = .ok credentials) :
    (CookieFile.read (cookieHost password) ⟨.single, [".cookie"]⟩).outcome = .ok credentials := by
  have found := lookUp_cookieHost password
  rw [CookieFile.read_of_line (CookieFile.readFile_of_lookUp found) first found, parts]
  rfl

theorem ofJson_aliceMembers (host : Host) (password : String) :
    Settings.ofJson host (.obj (aliceMembers password)) =
      .ok ⟨Settings.defaultUrl, Settings.defaultTimeout, .v28, some "alice", some password, none⟩ := by
  rw [Settings.ofJson]
  exact Settings.ofMembers_eq_ok_iff.mpr
    ⟨rfl, rfl, rfl, rfl, rfl, rfl, Settings.unknownKeys_eq_nil_iff.mp rfl, rfl⟩

theorem differInPassword_aliceMembers (password other : String) :
    Settings.DifferInPassword (aliceMembers password) (aliceMembers other) := by
  refine ⟨⟨_, rfl⟩, ⟨_, rfl⟩, fun name different => ?_⟩
  simp only [aliceMembers, Value.member?, List.lookup_cons, beq_false_of_ne different]

theorem pingServer_blind : Client.pingServer.Blind := fun _ => rfl

/-- Two passwords make no difference to what a ping and a check of the version of the server lead to,
and two cookie files that others may read are logged alike. -/
theorem passwords_stay_hidden_alice :
    let client := Client.ofUser Settings.defaultUrl Settings.defaultTimeout .v28 "alice"
    let rounds : List Round := [⟨.inquiry (.call ⟨.ping, []⟩), Client.pingServer⟩,
      ⟨.checkServerVersion, Client.pingServer⟩]
    ((client "pa:ss").performAll Transport.initial rounds).map Attempt.redacted =
      ((client "word").performAll Transport.initial rounds).map Attempt.redacted ∧
    (CookieFile.read (cookieHost "one") ⟨.single, [".cookie"]⟩).records =
      (CookieFile.read (cookieHost "two") ⟨.single, [".cookie"]⟩).records := by
  intro client rounds
  obtain ⟨configured, cookies⟩ := passwords_stay_hidden
  constructor
  · obtain ⟨-, -, records, first, second, made, made', alike⟩ := configured (cookieHost "one") _ _ _ _
      (differInPassword_aliceMembers "pa:ss" "word") (ofJson_aliceMembers _ "pa:ss")
      (ofJson_aliceMembers _ "word")
    rw [Client.ofSettings_of_user] at made made'
    obtain rfl : client "pa:ss" = first := Except.ok.inj (congrArg Traced.outcome made)
    obtain rfl : client "word" = second := Except.ok.inj (congrArg Traced.outcome made')
    have same := Client.ofUser_sameButPassword Settings.defaultUrl Settings.defaultTimeout .v28
      "alice" "pa:ss" "word"
    have blind : ∀ round ∈ rounds, round.server.Blind := by
      simp only [rounds, List.forall_mem_cons, pingServer_blind, List.not_mem_nil, false_imp_iff,
        implies_true, and_self]
    exact alike.attempts rounds rounds rfl (same.replies_of_blind blind)
  · have modes := (mode_cookieHost "one").trans (mode_cookieHost "two").symm
    exact cookies _ _ _ _ _ modes (read_cookieHost (by cbv) rfl) (read_cookieHost (by cbv) rfl)

end NodeClient
