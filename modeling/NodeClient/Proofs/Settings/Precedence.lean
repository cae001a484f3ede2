import NodeClient.Proofs.Settings.Layer
import Mathlib

/-! # The upper layer comes first

Each setting is the one of the local file if that file has its key, null included, or else the one of
the global file, or else the default. The credentials are judged together only then, so a user and a
password may come from different files. A file that is named counts alone. Every file is read as a whole,
so an integer of too many digits in it fails loading even where it would not count.
-/

namespace NodeClient.Settings

variable {host : Host} {path home : Path} {directory? : Option Path} {failure : LoadFailure}
  {lower upper : List (String × Json)} {settings : Settings}

/-- The layer in a directory, or else in the working directory. -/
def localLayer (host : Host) (directory? : Option Path) : Path :=
  layerBelow (directory?.getD ⟨.single, host.workingDirectory⟩)

/-- What is given under each name by two objects of which the upper one comes first. -/
def givenBy (upper lower : List (String × Json)) (name : String) : Option Json :=
  (Value.member? name upper).or (Value.member? name lower)

/-- Two hosts have the same file at a path, and the same directories behind a tilde. -/
structure SameFile (host other : Host) (path : Path) : Prop where
  resolves : other.resolve path = host.resolve path
  found : ∀ resolved, host.resolve path = .ok resolved →
    other.lookUp resolved = host.lookUp resolved
  expands : ∀ path, other.expand path = host.expand path

/-- An object laid over nothing gives what it has. -/
theorem member?_overlay_nil (distinct : (upper.map Prod.fst).Nodup) (name : String) :
    Value.member? name (overlay upper []) = Value.member? name upper := by
  rw [overlay_nil distinct]

theorem announce_outcome (layers found : List Path) : (announce layers found).outcome = .ok () := by
  rw [announce]
  split <;> rfl

theorem judgeMerged_eq_ok_iff {members : List (String × Json)} {sources : List Path} :
    judgeMerged host members sources = .ok settings ↔ ofMembers host members = .ok settings := by
  rw [judgeMerged]
  cases ofMembers host members with
  | ok judged => simp only [Except.ok.injEq]
  | error refusal => cases refusal <;> simp only [reduceCtorEq]

theorem layersOf_eq {resolvedUpper resolvedLower : Path}
    (known : host.home? = some home)
    (upperResolves : host.resolve (localLayer host directory?) = .ok resolvedUpper)
    (lowerResolves : host.resolve (layerBelow home) = .ok resolvedLower) :
    layersOf host directory? =
      .ok (if resolvedUpper = resolvedLower then [layerBelow home]
        else [layerBelow home, localLayer host directory?]) := by
  rw [localLayer] at upperResolves
  simp only [layersOf, known, Option.elim_some, bind, Except.bind, upperResolves, lowerResolves,
    Except.mapError, localLayer]
  split_ifs <;> rfl

/-- The settings of the layers are what is judged when they are merged. -/
theorem loadLayers_outcome {layers sources : List Path}
    {members : List (String × Json)} (found : layersOf host directory? = .ok layers)
    (merges : (mergeLayers host [] [] layers).outcome = .ok (members, sources)) :
    (loadLayers host directory?).outcome = judgeMerged host members sources := by
  simp only [loadLayers, found, merges, Traced.bind_outcome, Traced.ofExcept_outcome, Except.bind,
    announce_outcome]

/-- What two layers are judged by: the local one laid over the global one, or that one file if they
are the same. -/
theorem exists_loadLayers_outcome
    (known : host.home? = some home) (lowerAdds : Adds host (layerBelow home) lower)
    (upperAdds : Adds host (localLayer host directory?) upper) :
    ∃ members sources, (loadLayers host directory?).outcome = judgeMerged host members sources ∧
      (members = overlay upper (overlay lower []) ∨ upper = lower ∧ members = overlay lower []) := by
  obtain ⟨resolvedUpper, upperResolves⟩ := upperAdds.resolves
  obtain ⟨resolvedLower, lowerResolves⟩ := lowerAdds.resolves
  have layers := layersOf_eq known upperResolves lowerResolves
  by_cases same : resolvedUpper = resolvedLower
  · rw [if_pos same] at layers
    obtain ⟨sources, merges⟩ := lowerAdds.exists_mergeLayers [] [] []
    refine ⟨_, sources, loadLayers_outcome layers merges, .inr ⟨?_, rfl⟩⟩
    have alike : host.resolve (localLayer host directory?) = host.resolve (layerBelow home) := by
      rw [upperResolves, lowerResolves, same]
    exact upperAdds.unique (lowerAdds.of_resolve_eq alike)
  · rw [if_neg same] at layers
    obtain ⟨found, merges⟩ := lowerAdds.exists_mergeLayers [] [] [localLayer host directory?]
    obtain ⟨sources, mergesToo⟩ := upperAdds.exists_mergeLayers (overlay lower []) found []
    exact ⟨_, sources, loadLayers_outcome layers (merges.trans mergesToo), .inl rfl⟩

/-- Layers are judged by what is given under each name, the local one first. -/
theorem loadLayers_eq_ok_iff
    (known : host.home? = some home) (lowerAdds : Adds host (layerBelow home) lower)
    (upperAdds : Adds host (localLayer host directory?) upper) :
    (loadLayers host directory?).outcome = .ok settings ↔
      Judged host (givenBy upper lower) settings := by
  have alone : (fun name => Value.member? name (overlay lower [])) =
      fun name => Value.member? name lower :=
    funext (member?_overlay_nil lowerAdds.nodup)
  obtain ⟨members, sources, loads, merged⟩ := exists_loadLayers_outcome known lowerAdds upperAdds
  rw [loads, judgeMerged_eq_ok_iff, ofMembers_eq_ok_iff]
  rcases merged with rfl | ⟨rfl, rfl⟩
  · rw [judged_overlay_iff upperAdds.nodup]
    have given : (fun name => (Value.member? name upper).or (Value.member? name (overlay lower []))) =
        givenBy upper lower :=
      funext fun name => congrArg _ (member?_overlay_nil lowerAdds.nodup name)
    rw [given]
  · have given : givenBy upper upper = fun name => Value.member? name upper :=
      funext fun name => Option.or_self
    rw [alone, given]

theorem loadLayers_of_merge_error {layers : List Path} (found : layersOf host directory? = .ok layers)
    (failed : (mergeLayers host [] [] layers).outcome = .error failure) :
    (loadLayers host directory?).outcome = .error failure := by
  rw [loadLayers, found, Traced.ofExcept_ok_bind, Traced.bind_outcome, failed]
  rfl

theorem mergeLayers_of_error {merged : List (String × Json)} {found rest : List Path}
    (read : (readLayer host path false).outcome = .error failure) :
    (mergeLayers host merged found (path :: rest)).outcome = .error failure := by
  rw [mergeLayers, Traced.bind_outcome, read]
  rfl

/-- A failure to read the lower layer is that of loading. -/
theorem loadLayers_of_lower_error {resolved resolvedLower : Path} (known : host.home? = some home)
    (upperResolves : host.resolve (localLayer host directory?) = .ok resolved)
    (lowerResolves : host.resolve (layerBelow home) = .ok resolvedLower)
    (read : (readLayer host (layerBelow home) false).outcome = .error failure) :
    (loadLayers host directory?).outcome = .error failure := by
  refine loadLayers_of_merge_error (layersOf_eq known upperResolves lowerResolves) ?_
  split_ifs <;> exact mergeLayers_of_error read

/-- A failure to read the upper layer is that of loading if the lower one is read. -/
theorem loadLayers_of_upper_error {resolved : Path} (known : host.home? = some home)
    (upperResolves : host.resolve (localLayer host directory?) = .ok resolved)
    (lowerAdds : Adds host (layerBelow home) lower)
    (read : (readLayer host (localLayer host directory?) false).outcome = .error failure) :
    (loadLayers host directory?).outcome = .error failure := by
  obtain ⟨resolvedLower, lowerResolves⟩ := lowerAdds.resolves
  refine loadLayers_of_merge_error (layersOf_eq known upperResolves lowerResolves) ?_
  split_ifs with same
  · -- The upper layer is the lower one here, which was read.
    have alike : host.resolve (localLayer host directory?) = host.resolve (layerBelow home) := by
      rw [upperResolves, lowerResolves, same]
    obtain ⟨members?, reads, _⟩ := (lowerAdds.of_resolve_eq alike).exists_outcome
    exact nomatch reads.symm.trans read
  · obtain ⟨found, merges⟩ := lowerAdds.exists_mergeLayers [] [] [localLayer host directory?]
    exact merges.trans (mergeLayers_of_error read)

/-- A missing file that is named is refused. -/
theorem loadFile_of_missing (missing : Missing host path) :
    (loadFile host path).outcome = .error (.refused (.layer path .missing)) := by
  rw [loadFile, Traced.bind_outcome, missing.readLayer_outcome]
  rfl

/-- A file that is named is judged by what it holds. -/
theorem loadFile_outcome {members : List (String × Json)}
    (holds : Holds host path members) :
    (loadFile host path).outcome = judgeMerged host members [path] := by
  simp only [loadFile, Traced.bind_outcome, holds.readLayer_outcome, Except.bind, announce_outcome,
    Traced.ofExcept_outcome, Option.getD_some]

theorem loadFile_of_error (read : (readLayer host path true).outcome = .error failure) :
    (loadFile host path).outcome = .error failure := by
  rw [loadFile, Traced.bind_outcome, read]
  rfl

/-- What a named file gives is the same on every host that has the file. -/
theorem SameFile.loadFile_eq {other : Host} (same : SameFile host other path) :
    loadFile other path = loadFile host path := by
  have expands : expandOf other = expandOf host := by
    funext given
    cases given with
    | error fault => rfl
    | ok path? =>
      cases path? with
      | none => rfl
      | some path => rw [expandOf, expandOf, same.expands]
  have judges : ofMembers other = ofMembers host := by
    funext members
    rw [ofMembers, ofMembers, expands]
  have reads : readLayer other path true = readLayer host path true := by
    rw [readLayer, readLayer, same.resolves]
    cases resolves : host.resolve path with
    | error error => rfl
    | ok resolved =>
      have found := same.found resolved resolves
      have present : other.isFile resolved = host.isFile resolved := by
        rw [Host.isFile, Host.isFile, found]
      have content : readFound other path resolved = readFound host path resolved := by
        rw [readFound, readFound, Host.readFile, Host.readFile, found]
      simp only [Except.mapError, Traced.ofExcept_ok_bind, present, content]
  rw [loadFile, loadFile, reads]
  simp only [judgeMerged, judges]

/-- An integer of too many digits in the lower layer fails loading if the path of the upper one leads
somewhere. -/
theorem load_of_tooLong_lower {digits : Nat} {resolved : Path} (known : host.home? = some home)
    (resolves : host.resolve (localLayer host directory?) = .ok resolved)
    (long : TooLong host (layerBelow home) digits) :
    (load host none directory?).outcome = .error (.tooLong digits) := by
  have read := long.readLayer_outcome false
  obtain ⟨resolvedLower, _, _, lowerResolves, _⟩ := long
  exact loadLayers_of_lower_error known resolves lowerResolves read

/-- One in the upper layer fails loading if the lower one is read. -/
theorem load_of_tooLong_upper {digits : Nat} (known : host.home? = some home)
    (lowerAdds : Adds host (layerBelow home) lower)
    (long : TooLong host (localLayer host directory?) digits) :
    (load host none directory?).outcome = .error (.tooLong digits) := by
  have read := long.readLayer_outcome false
  obtain ⟨resolved, _, _, resolves, _⟩ := long
  exact loadLayers_of_upper_error known resolves lowerAdds read

/-- The settings follow the layers. Without a named file they are loaded, from two files that hold
members, exactly when the local object laid over the global one is accepted, and each setting is then
the valid value of the local key if there is one, or else of the global key, or else the default; the
credentials are judged only of the settings that this gives. A file with an integer of too many digits
fails loading, also where the other layer has another value for it. A named file that is missing is
refused, one that is there is judged alone, and no other file has a part in what it gives. -/
theorem load_follows_layers (host : Host) :
    (∀ directory? home lower upper, host.home? = some home → Adds host (layerBelow home) lower →
      Adds host (localLayer host directory?) upper → ∀ settings,
        ((load host none directory?).outcome = .ok settings ↔
          ofMembers host (overlay upper lower) = .ok settings) ∧
        ((load host none directory?).outcome = .ok settings ↔
          Judged host (givenBy upper lower) settings)) ∧
    (∀ directory? home digits, host.home? = some home →
      (∀ resolved, host.resolve (localLayer host directory?) = .ok resolved →
        TooLong host (layerBelow home) digits →
          (load host none directory?).outcome = .error (.tooLong digits)) ∧
      ∀ lower, Adds host (layerBelow home) lower →
        TooLong host (localLayer host directory?) digits →
          (load host none directory?).outcome = .error (.tooLong digits)) ∧
    ∀ path directory?,
      (Missing host path →
        (load host (some path) directory?).outcome = .error (.refused (.layer path .missing))) ∧
      (∀ members, Holds host path members → ∀ settings,
        (load host (some path) directory?).outcome = .ok settings ↔
          ofMembers host members = .ok settings) ∧
      (∀ digits, TooLong host path digits →
        (load host (some path) directory?).outcome = .error (.tooLong digits)) ∧
      ∀ other otherDirectory?, SameFile host other path →
        load other (some path) otherDirectory? = load host (some path) directory? := by
  refine ⟨?_, ?_, ?_⟩
  · intro directory? home lower upper known lowerAdds upperAdds settings
    have judged : (load host none directory?).outcome = .ok settings ↔
        Judged host (givenBy upper lower) settings :=
      loadLayers_eq_ok_iff known lowerAdds upperAdds
    refine ⟨judged.trans ?_, judged⟩
    rw [ofMembers_eq_ok_iff]
    exact (judged_overlay_iff upperAdds.nodup).symm
  · intro directory? home digits known
    exact ⟨fun _ => load_of_tooLong_lower known, fun _ => load_of_tooLong_upper known⟩
  · intro path directory?
    refine ⟨loadFile_of_missing, ?_, ?_, fun other _ same => same.loadFile_eq⟩
    · intro members holds settings
      rw [load, loadFile_outcome holds, judgeMerged_eq_ok_iff]
    · exact fun digits long => loadFile_of_error (long.readLayer_outcome true)

/-- The user and a cookie file that a global file states. -/
def userText : String :=
  "\x7b\"rpc_user\":\"alice\",\"timeout\":5,\"cookie_file\":\"~/.cookie\"\x7d"

/-- The password of a local file, which takes the cookie file back. -/
def passwordText : String := "\x7b\"rpc_password\":\"pa:ss\",\"cookie_file\":null\x7d\n"

def localNodes : List (List String × FileNode) :=
  [(["work"], .directory 0o700), (["work", ".corerpc"], .directory 0o700),
    (["work", ".corerpc", "config.json"], .file (Text.encode passwordText.toList) 0o600 false)]

/-- A host whose two layers share the credentials between them. -/
def splitHost : Host :=
  { nodes := localNodes ++
      [(["home"], .directory 0o700), (["home", ".corerpc"], .directory 0o700),
        (["home", ".corerpc", "config.json"], .file (Text.encode userText.toList) 0o600 false)]
    workingDirectory := ["work"]
    environment := [("HOME", "/home")]
    accounts := [] }

theorem splitHost_holds :
    Holds splitHost (layerBelow ⟨.single, ["home"]⟩)
      [("rpc_user", .str "alice"), ("timeout", .int 5), ("cookie_file", .str "~/.cookie")] ∧
    Holds splitHost (localLayer splitHost none)
      [("rpc_password", .str "pa:ss"), ("cookie_file", .null)] := by
  constructor
  · have content : splitHost.readFile ⟨.single, ["home", ".corerpc", "config.json"]⟩ =
        .ok (Text.encode userText.toList) := rfl
    have decoded : decodeMarked (Text.encode userText.toList) = .ok userText.toList := by cbv
    exact .object rfl content decoded (by cbv)
  · have content : splitHost.readFile ⟨.single, ["work", ".corerpc", "config.json"]⟩ =
        .ok (Text.encode passwordText.toList) := rfl
    have decoded : decodeMarked (Text.encode passwordText.toList) = .ok passwordText.toList := by
      cbv
    exact .object rfl content decoded (by cbv)

/-- The user is that of the global file, the password that of the local one, and there is no cookie
file. The local file alone is refused, whatever stands in the global one, and so is a file that is
not there. -/
theorem load_follows_layers_splitHost :
    (load splitHost none none).outcome =
      .ok ⟨"http://127.0.0.1:8332", .finite false 5629499534213120 (-50), .v28, some "alice",
        some "pa:ss", none⟩ ∧
    (¬ ∃ settings,
      (load splitHost (some (localLayer splitHost none)) none).outcome = .ok settings) ∧
    load { splitHost with nodes := localNodes } (some (localLayer splitHost none)) none =
      load splitHost (some (localLayer splitHost none)) none ∧
    (load splitHost (some ⟨.relative, ["node.json"]⟩) none).outcome =
      .error (.refused (.layer ⟨.relative, ["node.json"]⟩ .missing)) := by
  obtain ⟨lowerHolds, upperHolds⟩ := splitHost_holds
  obtain ⟨layered, -, named⟩ := load_follows_layers splitHost
  refine ⟨?_, ?_, ?_, ?_⟩
  · refine (layered none _ _ _ rfl (.held lowerHolds) (.held upperHolds) _).2.mpr
      ⟨rfl, by decide +kernel, rfl, rfl, rfl, rfl, ?_, rfl⟩
    intro name given
    rw [givenBy, Option.isSome_or, Bool.or_eq_true] at given
    rcases given with above | below
    · exact unknownKeys_eq_nil_iff.mp rfl name above
    · exact unknownKeys_eq_nil_iff.mp rfl name below
  · rintro ⟨settings, loaded⟩
    have accepted := ((named (localLayer splitHost none) none).2.1 _ upperHolds settings).mp loaded
    have judged := ofMembers_eq_ok_iff.mp accepted
    have user : settings.user? = none := (Except.ok.inj judged.user).symm
    have password : settings.password? = some "pa:ss" := (Except.ok.inj judged.password).symm
    have credentials := judged.credentials
    rw [credentialFault?, user, password] at credentials
    exact nomatch credentials
  · refine (named _ none).2.2.2 _ none ⟨rfl, ?_, fun _ => rfl⟩
    rintro resolved resolves
    obtain rfl : ⟨.single, ["work", ".corerpc", "config.json"]⟩ = resolved := Except.ok.inj resolves
    rfl
  · exact (named _ none).1 ⟨⟨.single, ["work", "node.json"]⟩, rfl, rfl⟩

/-- A global file with a timeout of 4301 digits. -/
def longTimeout : List (String × Json) := [("timeout", .int (10 ^ Number.digitLimit))]

def shortTimeout : List (String × Json) := [("timeout", .int 5)]

def longHost : Host :=
  let content (members : List (String × Json)) : FileNode :=
    .file (Text.encode (Value.write (.obj members : Json)).toList) 0o600 false
  { nodes := [(["home"], .directory 0o700), (["home", ".corerpc"], .directory 0o700),
      (["home", ".corerpc", "config.json"], content longTimeout),
      (["work"], .directory 0o700), (["work", ".corerpc"], .directory 0o700),
      (["work", ".corerpc", "config.json"], content shortTimeout)]
    workingDirectory := ["work"]
    environment := [("HOME", "/home")]
    accounts := [] }

/-- Both files hold the text of an object, and the local one laid over the global one is accepted: its
timeout hides the long one. Loading fails all the same. -/
theorem load_escapes_longTimeout :
    longHost.readFile ⟨.single, ["home", ".corerpc", "config.json"]⟩ =
      .ok (Text.encode (Value.write (.obj longTimeout : Json)).toList) ∧
    longHost.readFile ⟨.single, ["work", ".corerpc", "config.json"]⟩ =
      .ok (Text.encode (Value.write (.obj shortTimeout : Json)).toList) ∧
    (∃ settings, ofMembers longHost (overlay shortTimeout longTimeout) = .ok settings) ∧
    (load longHost none none).outcome = .error (.tooLong 4301) := by
  have lower : longHost.readFile ⟨.single, ["home", ".corerpc", "config.json"]⟩ =
      .ok (Text.encode (Value.write (.obj longTimeout : Json)).toList) := rfl
  have upper : longHost.readFile ⟨.single, ["work", ".corerpc", "config.json"]⟩ =
      .ok (Text.encode (Value.write (.obj shortTimeout : Json)).toList) := rfl
  have digits : (Nat.toDigits 10 (10 ^ Number.digitLimit : Int).natAbs).length = 4301 := by
    rw [Int.natAbs_pow, show (10 : Int).natAbs = 10 from rfl, Text.length_toDigits_pow]
    rfl
  have resolves : longHost.resolve (layerBelow ⟨.single, ["home"]⟩) =
      .ok ⟨.single, ["home", ".corerpc", "config.json"]⟩ := rfl
  have long : TooLong longHost (layerBelow ⟨.single, ["home"]⟩) 4301 := by
    have found := TooLong.of_write "timeout" (by rw [digits]; decide) resolves lower
    rwa [digits] at found
  have hidden : overlay shortTimeout longTimeout = shortTimeout := rfl
  have accepted : ∃ settings, ofMembers longHost shortTimeout = .ok settings :=
    ⟨⟨"http://127.0.0.1:8332", .finite false 5629499534213120 (-50), .v28, none, none, none⟩, rfl⟩
  have upperResolves : longHost.resolve (localLayer longHost none) =
      .ok ⟨.single, ["work", ".corerpc", "config.json"]⟩ := rfl
  exact ⟨lower, upper, hidden ▸ accepted, load_of_tooLong_lower rfl upperResolves long⟩

end NodeClient.Settings
