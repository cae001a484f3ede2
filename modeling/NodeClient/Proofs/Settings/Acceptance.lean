import NodeClient.Proofs.Settings.Overlay
import NodeClient.Settings.Layer

/-! # Settings that are accepted

The members of an object are accepted when each setting is valid on its own, no other name is there
and the credentials are sound together. What is judged is only what stands under each name, so an
object laid over another is judged as the names are found in the upper object first.
-/

namespace NodeClient.Settings

/-- Settings that stand for what is given under each name: every setting is the valid value of its
name, only names of settings are given, and the credentials are sound together. -/
structure Judged (host : Host) (given : String → Option Json) (settings : Settings) : Prop where
  url : urlOf (given "url") = .ok settings.url
  timeout : timeoutOf (given "timeout") = .ok settings.timeout
  release : releaseOf (given "protocol_version") = .ok settings.release
  user : textOf (given "rpc_user") = .ok settings.user?
  password : textOf (given "rpc_password") = .ok settings.password?
  cookieFile : expandOf host (pathOf (given "cookie_file")) = .ok (.ok settings.cookieFile?)
  known : ∀ name, (given name).isSome = true → name ∈ keys
  credentials : settings.credentialFault? = none

theorem unknownKeys_eq_nil_iff {members : List (String × Json)} :
    unknownKeys members = [] ↔
      ∀ name, (Value.member? name members).isSome = true → name ∈ keys := by
  simp only [Value.isSome_member?_iff]
  rw [unknownKeys, List.map_eq_nil_iff, List.filter_eq_nil_iff]
  simp only [List.contains_eq_mem, Bool.not_eq_true, Bool.not_eq_false', decide_eq_true_eq,
    List.forall_mem_map]

theorem judge_eq_ok_iff {settings judged : Settings} :
    judge settings = .ok judged ↔ settings = judged ∧ judged.credentialFault? = none := by
  rw [judge]
  cases fault : settings.credentialFault? with
  | some cause =>
    simp only [reduceCtorEq, false_iff, not_and]
    rintro rfl none
    exact nomatch fault.symm.trans none
  | none =>
    simp only [Except.ok.injEq]
    exact ⟨fun same => ⟨same, same ▸ fault⟩, And.left⟩

/-- The members of an object are accepted exactly when settings stand for them. -/
theorem ofMembers_eq_ok_iff {host : Host} {members : List (String × Json)} {settings : Settings} :
    ofMembers host members = .ok settings ↔
      Judged host (fun name => Value.member? name members) settings := by
  constructor
  · intro accepted
    rw [ofMembers] at accepted
    dsimp only at accepted
    split at accepted
    · exact nomatch accepted
    · next cookieFile expanded =>
      split at accepted
      · next url timeout release user password none =>
        obtain ⟨rfl, credentials⟩ := judge_eq_ok_iff.mp accepted
        simp only [List.append_eq_nil_iff] at none
        exact ⟨url, timeout, release, user, password, expanded,
          unknownKeys_eq_nil_iff.mp none.2, credentials⟩
      · exact nomatch accepted
  · intro judged
    rw [ofMembers]
    simp only [judged.url, judged.timeout, judged.release, judged.user, judged.password,
      judged.cookieFile, unknownKeys_eq_nil_iff.mpr judged.known, problemOf, List.append_nil]
    exact judge_eq_ok_iff.mpr ⟨rfl, judged.credentials⟩

/-- An object laid over another is judged by what the upper one has under each name, and by what the
lower one has where the upper one has nothing. -/
theorem judged_overlay_iff {host : Host} {upper lower : List (String × Json)} {settings : Settings}
    (distinct : (upper.map Prod.fst).Nodup) :
    Judged host (fun name => Value.member? name (overlay upper lower)) settings ↔
      Judged host (fun name => (Value.member? name upper).or (Value.member? name lower))
        settings := by
  have agrees (accepts : Option Json → Prop) (scalar : ∀ members, ¬ accepts (some (.obj members)))
      (name : String) :
      accepts (Value.member? name (overlay upper lower)) ↔
        accepts ((Value.member? name upper).or (Value.member? name lower)) :=
    iff_of_overlay accepts scalar distinct name
  have present : ∀ name, (Value.member? name (overlay upper lower)).isSome =
      ((Value.member? name upper).or (Value.member? name lower)).isSome := by
    intro name
    rw [member?_overlay distinct]
    cases Value.member? name upper <;> rfl
  have url := agrees (urlOf · = .ok settings.url) nofun "url"
  have timeout := agrees (timeoutOf · = .ok settings.timeout) nofun "timeout"
  have release := agrees (releaseOf · = .ok settings.release) nofun "protocol_version"
  have user := agrees (textOf · = .ok settings.user?) nofun "rpc_user"
  have password := agrees (textOf · = .ok settings.password?) nofun "rpc_password"
  have cookieFile :=
    agrees (fun given => expandOf host (pathOf given) = .ok (.ok settings.cookieFile?)) nofun
      "cookie_file"
  constructor
  · intro judged
    refine ⟨url.mp judged.url, timeout.mp judged.timeout, release.mp judged.release,
      user.mp judged.user, password.mp judged.password, cookieFile.mp judged.cookieFile, ?_,
      judged.credentials⟩
    exact fun name given => judged.known name ((present name).trans given)
  · intro judged
    refine ⟨url.mpr judged.url, timeout.mpr judged.timeout, release.mpr judged.release,
      user.mpr judged.user, password.mpr judged.password, cookieFile.mpr judged.cookieFile, ?_,
      judged.credentials⟩
    exact fun name given => judged.known name ((present name).symm.trans given)

end NodeClient.Settings
