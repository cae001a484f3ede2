import NodeClient.Proofs.Settings.Precedence

/-! # Errors that loading does not make its own

Loading gives settings or refuses the configuration, but for these errors of lower levels: a path
that the system does not answer for, a file that is no text, an integer of too many digits in it, and
a home directory that is not known, be it that of the layers or the one behind the tilde of a cookie
file.
-/

namespace NodeClient.Settings

variable {host : Host} {path home : Path} {directory? : Option Path} {failure : LoadFailure}
  {members lower upper : List (String × Json)}

/-- The errors of lower levels that reading the file at a path leads to. -/
inductive Raises (host : Host) (path : Path) : LoadFailure → Prop where
  | unresolved {error : AccessError} (resolves : host.resolve path = .error error) :
      Raises host path (.access error)
  | unanswered {resolved : Path} {error : AccessError} (resolves : host.resolve path = .ok resolved)
      (present : host.isFile resolved = .error error) : Raises host path (.access error)
  | notText {resolved : Path} {bytes : List UInt8} {fault : Text.Utf8Fault}
      (resolves : host.resolve path = .ok resolved) (content : host.readFile resolved = .ok bytes)
      (decoded : decodeMarked bytes = .error fault) : Raises host path (.notText fault)
  | tooLong {resolved : Path} {bytes : List UInt8} {text : List Char} {digits : Nat}
      (resolves : host.resolve path = .ok resolved) (content : host.readFile resolved = .ok bytes)
      (decoded : decodeMarked bytes = .ok text)
      (read : Json.read (bareText text) = .error (.tooLong digits)) :
      Raises host path (.tooLong digits)

/-- What is given for the cookie file is a path whose tilde stands for no home directory. -/
def Homeless (host : Host) (given : Option Json) : Prop :=
  ∃ text, given = some (.str text) ∧ host.expand (Path.ofString text) = .error .noHome

/-- The errors of lower levels that loading leads to. The upper layer is resolved first and read
last. -/
inductive Escapes (host : Host) : Option Path → Option Path → LoadFailure → Prop where
  | file {path : Path} {directory? : Option Path} {failure : LoadFailure}
      (raises : Raises host path failure) : Escapes host (some path) directory? failure
  | fileTilde {path : Path} {directory? : Option Path} {members : List (String × Json)}
      (holds : Holds host path members)
      (homeless : Homeless host (Value.member? "cookie_file" members)) :
      Escapes host (some path) directory? .noHome
  | unknownHome {directory? : Option Path} (unknown : host.home? = none) :
      Escapes host none directory? .noHome
  | unresolved {home : Path} {directory? : Option Path} {error : AccessError}
      (known : host.home? = some home)
      (resolves : host.resolve (localLayer host directory?) = .error error) :
      Escapes host none directory? (.access error)
  | lower {home resolved : Path} {directory? : Option Path} {failure : LoadFailure}
      (known : host.home? = some home)
      (resolves : host.resolve (localLayer host directory?) = .ok resolved)
      (raises : Raises host (layerBelow home) failure) : Escapes host none directory? failure
  | upper {home resolved : Path} {directory? : Option Path} {failure : LoadFailure}
      {lower : List (String × Json)} (known : host.home? = some home)
      (resolves : host.resolve (localLayer host directory?) = .ok resolved)
      (lowerAdds : Adds host (layerBelow home) lower)
      (raises : Raises host (localLayer host directory?) failure) :
      Escapes host none directory? failure
  | tilde {home : Path} {directory? : Option Path} {lower upper : List (String × Json)}
      (known : host.home? = some home) (lowerAdds : Adds host (layerBelow home) lower)
      (upperAdds : Adds host (localLayer host directory?) upper)
      (homeless : Homeless host (givenBy upper lower "cookie_file")) :
      Escapes host none directory? .noHome

theorem Raises.ne_refused (raises : Raises host path failure) (fault : ConfigFault) :
    failure ≠ .refused fault := by
  cases raises <;> exact nofun

theorem Escapes.ne_refused {path? : Option Path} (escapes : Escapes host path? directory? failure)
    (fault : ConfigFault) : failure ≠ .refused fault := by
  cases escapes with
  | file raises | lower _ _ raises | upper _ _ _ raises => exact raises.ne_refused fault
  | _ => exact nofun

/-! ## Reading a layer -/

theorem Raises.readLayer_outcome (raises : Raises host path failure) (required : Bool) :
    (readLayer host path required).outcome = .error failure := by
  cases raises with
  | unresolved resolves => simp only [readLayer, resolves, Except.mapError]; rfl
  | unanswered resolves present =>
    simp only [readLayer, resolves, present, Except.mapError, Traced.ofExcept_ok_bind]
    rfl
  | notText resolves content decoded =>
    rw [readLayer_of_isFile resolves (Host.isFile_of_readFile content), readFound, content]
    simp only [decoded, Except.map]
  | tooLong resolves content decoded read =>
    exact TooLong.readLayer_outcome ⟨_, _, _, resolves, content, decoded, read⟩ required

/-- The file at a path holds members, is refused, or leads to an error of a lower level. -/
theorem readFound_cases {resolved : Path} (resolves : host.resolve path = .ok resolved) :
    (∃ members, Holds host path members) ∨
      (∃ fault, readFound host path resolved = .error (.refused fault)) ∨
      ∃ failure, Raises host path failure := by
  cases content : host.readFile resolved with
  | error error => exact .inr (.inl ⟨.layer path (.unreadable error), by rw [readFound, content]⟩)
  | ok bytes =>
    cases decoded : decodeMarked bytes with
    | error fault => exact .inr (.inr ⟨_, .notText resolves content decoded⟩)
    | ok text =>
      have reads : readFound host path resolved = parseLayer path text :=
        readFound_of_content content decoded
      cases parsed : parseLayer path text with
      | ok members =>
        rcases parseLayer_eq_ok_iff.mp parsed with ⟨blank, rfl⟩ | read
        · exact .inl ⟨_, .blank resolves content decoded blank⟩
        · exact .inl ⟨_, .object resolves content decoded read⟩
      | error failure =>
        rcases parseLayer_error parsed with ⟨fault, rfl⟩ | ⟨digits, rfl⟩
        · exact .inr (.inl ⟨_, reads.trans parsed⟩)
        · have read := parseLayer_eq_tooLong_iff.mp parsed
          exact .inr (.inr ⟨_, .tooLong resolves content decoded read⟩)

/-- A layer is missing or holds members, or is refused, or leads to an error of a lower level. -/
theorem readLayer_cases (host : Host) (path : Path) :
    Missing host path ∨ (∃ members, Holds host path members) ∨
      (∃ fault, ∀ required, (readLayer host path required).outcome = .error (.refused fault)) ∨
      ∃ failure, Raises host path failure := by
  cases resolves : host.resolve path with
  | error error => exact .inr (.inr (.inr ⟨_, .unresolved resolves⟩))
  | ok resolved =>
    cases present : host.isFile resolved with
    | error error => exact .inr (.inr (.inr ⟨_, .unanswered resolves present⟩))
    | ok isFile =>
      cases isFile with
      | false => exact .inl ⟨resolved, resolves, present⟩
      | true =>
        rcases readFound_cases resolves with holds | ⟨fault, refused⟩ | raises
        · exact .inr (.inl holds)
        · refine .inr (.inr (.inl ⟨fault, fun required => ?_⟩))
          rw [readLayer_of_isFile resolves present, refused]
          rfl
        · exact .inr (.inr (.inr raises))

/-- A layer below another one adds members, is refused, or leads to an error of a lower level. -/
theorem adds_cases (host : Host) (path : Path) :
    (∃ members, Adds host path members) ∨
      (∃ fault, (readLayer host path false).outcome = .error (.refused fault)) ∨
      ∃ failure, Raises host path failure := by
  rcases readLayer_cases host path with missing | ⟨members, holds⟩ | ⟨fault, refused⟩ | raises
  · exact .inl ⟨[], .missing missing⟩
  · exact .inl ⟨members, .held holds⟩
  · exact .inr (.inl ⟨fault, refused false⟩)
  · exact .inr (.inr raises)

/-! ## Judging what the layers hold -/

theorem expandOf_pathOf_eq_error_iff {given : Option Json} {refusal : SettingsRefusal} :
    expandOf host (pathOf given) = .error refusal ↔ refusal = .noHome ∧ Homeless host given := by
  constructor
  · intro failed
    rw [expandOf.eq_def] at failed
    split at failed
    · next path set =>
      rw [pathOf.eq_def] at set
      split at set
      · exact nomatch set
      · exact nomatch set
      · next text =>
        obtain rfl := Option.some.inj (Except.ok.inj set)
        split at failed
        · exact nomatch failed
        · exact nomatch failed
        · next expands => exact ⟨(Except.error.inj failed).symm, text, rfl, expands⟩
      · exact nomatch set
    · exact nomatch failed
  · rintro ⟨rfl, text, rfl, expands⟩
    simp only [pathOf, expandOf, expands]

/-- Members are refused for want of a home directory exactly when the cookie file needs one. -/
theorem ofMembers_eq_noHome_iff :
    ofMembers host members = .error .noHome ↔
      Homeless host (Value.member? "cookie_file" members) := by
  constructor
  · intro refused
    rw [ofMembers] at refused
    dsimp only at refused
    split at refused
    · next refusal failed => exact (expandOf_pathOf_eq_error_iff.mp failed).2
    · split at refused
      · rw [judge] at refused
        split at refused <;> cases refused
      · cases refused
  · intro homeless
    rw [ofMembers]
    simp only [expandOf_pathOf_eq_error_iff.mpr ⟨rfl, homeless⟩]

theorem judgeMerged_of_homeless {sources : List Path}
    (homeless : Homeless host (Value.member? "cookie_file" members)) :
    judgeMerged host members sources = .error .noHome := by
  rw [judgeMerged, ofMembers_eq_noHome_iff.mpr homeless]

/-- Merged settings are accepted or refused, unless there is no home for the cookie file. -/
theorem judgeMerged_cases (host : Host) (members : List (String × Json)) (sources : List Path) :
    (∃ settings, judgeMerged host members sources = .ok settings) ∨
      (∃ fault, judgeMerged host members sources = .error (.refused fault)) ∨
      Homeless host (Value.member? "cookie_file" members) := by
  rw [← ofMembers_eq_noHome_iff, judgeMerged]
  cases ofMembers host members with
  | ok settings => exact .inl ⟨settings, rfl⟩
  | error refusal =>
    cases refusal with
    | problems problems => exact .inr (.inl ⟨_, rfl⟩)
    | noHome => exact .inr (.inr rfl)

/-! ## The layers -/

theorem loadLayers_of_layersOf_error (failed : layersOf host directory? = .error failure) :
    (loadLayers host directory?).outcome = .error failure := by
  rw [loadLayers, failed]
  rfl

theorem layersOf_of_unknownHome (unknown : host.home? = none) :
    layersOf host directory? = .error .noHome := by
  rw [layersOf, unknown]
  rfl

/-- Each layer's path must be resolved, the upper one's first. -/
theorem layersOf_of_unresolved {error : AccessError} (known : host.home? = some home)
    (unresolved : host.resolve (localLayer host directory?) = .error error ∨
      (∃ resolved, host.resolve (localLayer host directory?) = .ok resolved) ∧
        host.resolve (layerBelow home) = .error error) :
    layersOf host directory? = .error (.access error) := by
  simp only [localLayer] at unresolved
  rcases unresolved with upper | ⟨⟨resolved, upper⟩, lower⟩
  · simp only [layersOf, known, Option.elim_some, bind, Except.bind, upper, Except.mapError]
  · simp only [layersOf, known, Option.elim_some, bind, Except.bind, upper, lower, Except.mapError]

theorem homeless_iff {merged : List (String × Json)} (lowerAdds : Adds host path lower)
    (distinct : (upper.map Prod.fst).Nodup)
    (merges : merged = overlay upper (overlay lower []) ∨ upper = lower ∧ merged = overlay lower []) :
    Homeless host (Value.member? "cookie_file" merged) ↔
      Homeless host (givenBy upper lower "cookie_file") := by
  have alone := member?_overlay_nil lowerAdds.nodup "cookie_file"
  rcases merges with rfl | ⟨rfl, rfl⟩
  · have scalar : ∀ members, ¬ Homeless host (some (.obj members)) :=
      fun members ⟨text, object, _⟩ => nomatch object
    rw [iff_of_overlay (Homeless host) scalar distinct, alone, givenBy]
  · rw [alone, givenBy, Option.or_self]

/-! ## How loading ends -/

/-- Each of the errors ends loading. -/
theorem Escapes.load_outcome {path? : Option Path} (escapes : Escapes host path? directory? failure) :
    (load host path? directory?).outcome = .error failure := by
  cases escapes with
  | file raises => exact loadFile_of_error (raises.readLayer_outcome true)
  | fileTilde holds homeless =>
    exact (loadFile_outcome holds).trans (judgeMerged_of_homeless homeless)
  | unknownHome unknown => exact loadLayers_of_layersOf_error (layersOf_of_unknownHome unknown)
  | unresolved known resolves =>
    exact loadLayers_of_layersOf_error (layersOf_of_unresolved known (.inl resolves))
  | @lower home resolved directory? failure known resolves raises =>
    have read := raises.readLayer_outcome false
    -- Paths are resolved before any layer is read: a path that is not resolved fails earlier, with
    -- the error that reading it would have.
    cases lowerResolves : host.resolve (layerBelow home) with
    | error error =>
      have unread := (Raises.unresolved lowerResolves).readLayer_outcome false
      obtain rfl := Except.error.inj (read.symm.trans unread)
      exact loadLayers_of_layersOf_error
        (layersOf_of_unresolved known (.inr ⟨⟨resolved, resolves⟩, lowerResolves⟩))
    | ok resolvedLower => exact loadLayers_of_lower_error known resolves lowerResolves read
  | upper known resolves lowerAdds raises =>
    exact loadLayers_of_upper_error known resolves lowerAdds (raises.readLayer_outcome false)
  | tilde known lowerAdds upperAdds homeless =>
    obtain ⟨members, sources, loads, merges⟩ :=
      exists_loadLayers_outcome known lowerAdds upperAdds
    have without := (homeless_iff lowerAdds upperAdds.nodup merges).mpr homeless
    exact loads.trans (judgeMerged_of_homeless without)

/-- How loading may end: with settings, with a refusal of the configuration, or with an error of a
lower level that the files and the home directories lead to. -/
def Ends (host : Host) (path? directory? : Option Path) : Prop :=
  (∃ settings, (load host path? directory?).outcome = .ok settings) ∨
    (∃ fault, (load host path? directory?).outcome = .error (.refused fault)) ∨
    ∃ failure, Escapes host path? directory? failure ∧
      (load host path? directory?).outcome = .error failure

theorem Escapes.ends {path? : Option Path} (escapes : Escapes host path? directory? failure) :
    Ends host path? directory? :=
  .inr (.inr ⟨failure, escapes, escapes.load_outcome⟩)

theorem ends_file (host : Host) (path : Path) (directory? : Option Path) :
    Ends host (some path) directory? := by
  rcases readLayer_cases host path with
    missing | ⟨members, holds⟩ | ⟨fault, refused⟩ | ⟨failure, raises⟩
  · exact .inr (.inl ⟨_, loadFile_of_missing missing⟩)
  · have judged : (load host (some path) directory?).outcome = judgeMerged host members [path] :=
      loadFile_outcome holds
    rcases judgeMerged_cases host members [path] with
      ⟨settings, accepted⟩ | ⟨fault, refused⟩ | homeless
    · exact .inl ⟨settings, judged.trans accepted⟩
    · exact .inr (.inl ⟨fault, judged.trans refused⟩)
    · exact (Escapes.fileTilde holds homeless).ends
  · exact .inr (.inl ⟨fault, loadFile_of_error (refused true)⟩)
  · exact (Escapes.file raises).ends

/-- Loading from layers that both add members ends with what they are judged to be. -/
theorem ends_of_adds (known : host.home? = some home) (lowerAdds : Adds host (layerBelow home) lower)
    (upperAdds : Adds host (localLayer host directory?) upper) : Ends host none directory? := by
  obtain ⟨members, sources, judged, merges⟩ := exists_loadLayers_outcome known lowerAdds upperAdds
  rcases judgeMerged_cases host members sources with
    ⟨settings, accepted⟩ | ⟨fault, refused⟩ | homeless
  · exact .inl ⟨settings, judged.trans accepted⟩
  · exact .inr (.inl ⟨fault, judged.trans refused⟩)
  · have without := (homeless_iff lowerAdds upperAdds.nodup merges).mp homeless
    exact (Escapes.tilde known lowerAdds upperAdds without).ends

theorem ends_layers (host : Host) (directory? : Option Path) : Ends host none directory? := by
  cases known : host.home? with
  | none => exact (Escapes.unknownHome known).ends
  | some home =>
    cases upperResolves : host.resolve (localLayer host directory?) with
    | error error => exact (Escapes.unresolved known upperResolves).ends
    | ok resolved =>
      cases lowerResolves : host.resolve (layerBelow home) with
      | error error =>
        exact (Escapes.lower known upperResolves (.unresolved lowerResolves)).ends
      | ok resolvedLower =>
        rcases adds_cases host (layerBelow home) with
          ⟨lower, lowerAdds⟩ | ⟨fault, refused⟩ | ⟨failure, raises⟩
        · rcases adds_cases host (localLayer host directory?) with
            ⟨upper, upperAdds⟩ | ⟨fault, refused⟩ | ⟨failure, raises⟩
          · exact ends_of_adds known lowerAdds upperAdds
          · have failed := loadLayers_of_upper_error known upperResolves lowerAdds refused
            exact .inr (.inl ⟨fault, failed⟩)
          · exact (Escapes.upper known upperResolves lowerAdds raises).ends
        · have failed := loadLayers_of_lower_error known upperResolves lowerResolves refused
          exact .inr (.inl ⟨fault, failed⟩)
        · exact (Escapes.lower known upperResolves raises).ends

/-- Loading gives settings, refuses the configuration, or ends with an error of a lower level to
which the files or the home directories lead, and each such error ends it. None of these errors is a
refusal. -/
theorem load_ends (host : Host) (path? directory? : Option Path) :
    Ends host path? directory? ∧ ∀ failure, Escapes host path? directory? failure →
      (load host path? directory?).outcome = .error failure ∧ ∀ fault, failure ≠ .refused fault := by
  constructor
  · cases path? with
    | none => exact ends_layers host directory?
    | some path => exact ends_file host path directory?
  · exact fun failure escapes => ⟨escapes.load_outcome, escapes.ne_refused⟩

/-- A host on which one file with the given content is in the directory of the lower layer. -/
def lowerHost (content : List UInt8) : Host :=
  { nodes := [(["home"], .directory 0o700), (["home", ".corerpc"], .directory 0o700),
      (["home", ".corerpc", "config.json"], .file content 0o600 false)]
    workingDirectory := []
    environment := [("HOME", "/home")]
    accounts := [] }

/-- A cookie file in the home directory of an account that is not there. -/
def strangerText : String := "\x7b\"cookie_file\":\"~stranger/.cookie\"\x7d"

/-- A host whose lower layer states such a cookie file. -/
def strangerHost : Host := lowerHost (Text.encode strangerText.toList)

/-- No account of this name is there, and the error of its home directory ends loading. -/
theorem load_ends_stranger :
    (load strangerHost (some (layerBelow ⟨.single, ["home"]⟩)) none).outcome = .error .noHome := by
  have resolves : strangerHost.resolve (layerBelow ⟨.single, ["home"]⟩) =
      .ok ⟨.single, ["home", ".corerpc", "config.json"]⟩ := rfl
  have decoded : decodeMarked (Text.encode strangerText.toList) = .ok strangerText.toList := by
    cbv
  have holds : Holds strangerHost (layerBelow ⟨.single, ["home"]⟩)
      [("cookie_file", .str "~stranger/.cookie")] :=
    .object resolves rfl decoded (by cbv)
  have homeless : Homeless strangerHost (some (.str "~stranger/.cookie")) := ⟨_, rfl, rfl⟩
  exact ((load_ends strangerHost _ none).2 _ (.fileTilde holds homeless)).1

/-- A byte that starts no character ends loading with an error that is neither settings nor a refusal
of the configuration. -/
theorem load_escapes_notText :
    let outcome := (load (lowerHost [0xFF]) none none).outcome
    outcome = .error (.notText ⟨.start, 0, 1, 255⟩) ∧
      ¬ ((∃ settings, outcome = .ok settings) ∨ ∃ fault, outcome = .error (.refused fault)) := by
  intro outcome
  have ended : outcome = .error (.notText ⟨.start, 0, 1, 255⟩) := by cbv
  rw [ended]
  refine ⟨rfl, ?_⟩
  rintro (⟨settings, loaded⟩ | ⟨fault, refused⟩)
  · exact nomatch loaded
  · exact nomatch refused

end NodeClient.Settings
