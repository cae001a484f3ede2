import NodeClient.Proofs.Json.Line
import NodeClient.Proofs.Json.Names
import NodeClient.Proofs.Json.RoundTrip
import NodeClient.Proofs.Settings.Acceptance
import NodeClient.Proofs.Text.Cut
import Mathlib.Data.List.DropRight

/-! # What layers add to the settings

A layer adds nothing if its file is missing or blank, and otherwise the members of the object in it,
unless an integer there has too many digits. What the layers add is laid over each other, lowest first,
and where both layers are one file it counts once.
-/

namespace NodeClient

namespace Text

theorem trim_eq_nil_iff {drop : Char → Bool} {text : List Char} :
    trim drop text = [] ↔ ∀ c ∈ text, drop c = true := by
  rw [trim, trimRight, List.reverse_eq_nil_iff, List.dropWhile_eq_nil_iff]
  simp only [List.mem_reverse]
  constructor
  · intro rest
    rw [← List.dropWhile_eq_nil_iff]
    by_contra some
    exact Bool.false_ne_true
      ((List.head_dropWhile_not drop some).symm.trans (rest _ (List.head_mem some)))
  · exact fun all c member => all c (List.dropWhile_subset drop member)

/-- Folding the line ends of a text leaves it blank or not. -/
theorem isBlank_foldLines_iff (text : List Char) :
    (∀ c ∈ foldLines text, isBlank c = true) ↔ ∀ c ∈ text, isBlank c = true := by
  have carriage : isBlank '\r' = true := by decide
  have newline : isBlank '\n' = true := by decide
  fun_induction foldLines text with
  | case1 => rfl
  | case2 rest ih => simpa [List.forall_mem_cons, carriage] using ih
  | case3 rest other ih => simpa [List.forall_mem_cons, carriage, newline] using ih
  | case4 c rest other ih => simp only [List.forall_mem_cons, ih]

end Text

namespace Host

variable {host : Host} {path : Path}

theorem isFile_of_readFile {bytes : List UInt8} (content : host.readFile path = .ok bytes) :
    host.isFile path = .ok true := by
  rw [readFile] at content
  rw [isFile]
  cases found : host.lookUp path with
  | error error => exact nomatch found ▸ content
  | ok node =>
    cases node with
    | directory mode => exact nomatch found ▸ content
    | file bytes mode denied => rfl

end Host

namespace Settings

/-- The text of a layer that is read: its line ends are line feeds, and no blanks are around it. -/
def bareText (text : List Char) : String :=
  String.ofList (Text.trim Text.isBlank (Text.foldLines text))

/-- What the file at a path holds for the settings: nothing if it is blank, and otherwise the members
of its object. -/
inductive Holds (host : Host) (path : Path) : List (String × Json) → Prop where
  | blank {resolved : Path} {bytes : List UInt8} {text : List Char}
      (resolves : host.resolve path = .ok resolved) (content : host.readFile resolved = .ok bytes)
      (decoded : decodeMarked bytes = .ok text) (blank : ∀ c ∈ text, Text.isBlank c = true) :
      Holds host path []
  | object {resolved : Path} {bytes : List UInt8} {text : List Char}
      {members : List (String × Json)} (resolves : host.resolve path = .ok resolved)
      (content : host.readFile resolved = .ok bytes) (decoded : decodeMarked bytes = .ok text)
      (read : Json.read (bareText text) = .ok (.obj members)) :
      Holds host path members

/-- The file at a path holds an integer with a count of digits that is too many. -/
def TooLong (host : Host) (path : Path) (digits : Nat) : Prop :=
  ∃ resolved bytes text, host.resolve path = .ok resolved ∧ host.readFile resolved = .ok bytes ∧
    decodeMarked bytes = .ok text ∧ Json.read (bareText text) = .error (.tooLong digits)

/-- No file is found at a path. -/
def Missing (host : Host) (path : Path) : Prop :=
  ∃ resolved, host.resolve path = .ok resolved ∧ host.isFile resolved = .ok false

/-- What the layer at a path adds to the settings: nothing if no file is there, and otherwise what
the file holds. -/
inductive Adds (host : Host) (path : Path) : List (String × Json) → Prop where
  | missing (missing : Missing host path) : Adds host path []
  | held {members : List (String × Json)} (holds : Holds host path members) :
      Adds host path members

variable {host : Host} {path : Path} {members : List (String × Json)} {text : List Char}

theorem parseLayer_eq (path : Path) (text : List Char) :
    parseLayer path text =
      if Text.trim Text.isBlank (Text.foldLines text) = [] then .ok []
      else
        match Json.read (bareText text) with
        | .error (.tooLong digits) => .error (.tooLong digits)
        | .error problem => .error (.refused (.layer path (.malformed problem.message)))
        | .ok (.obj members) => .ok members
        | .ok other => .error (.refused (.layer path (.notObject other.kindName))) := by
  by_cases blank : Text.trim Text.isBlank (Text.foldLines text) = []
  · rw [if_pos blank, parseLayer, blank]
    rfl
  · rw [if_neg blank, parseLayer, if_neg (List.isEmpty_iff.not.mpr blank)]
    rfl

/-- A text that is blank is read as nothing, which is neither an object nor too long. -/
theorem read_bareText_of_blank (blank : Text.trim Text.isBlank (Text.foldLines text) = []) :
    Json.read (bareText text) = .error (.malformed .value 1 1 0) := by
  rw [bareText, blank]
  rfl

/-- The text of a layer gives members exactly when it is blank or their object. -/
theorem parseLayer_eq_ok_iff :
    parseLayer path text = .ok members ↔
      ((∀ c ∈ text, Text.isBlank c = true) ∧ members = []) ∨
        Json.read (bareText text) = .ok (.obj members) := by
  rw [← Text.isBlank_foldLines_iff, ← Text.trim_eq_nil_iff, parseLayer_eq]
  split_ifs with blank
  · rw [read_bareText_of_blank blank]
    simp only [Except.ok.injEq, blank, true_and, reduceCtorEq, or_false, eq_comm]
  · simp only [blank, false_and, false_or]
    cases Json.read (bareText text) with
    | error problem => cases problem <;> simp only [reduceCtorEq]
    | ok value => cases value <;> simp only [reduceCtorEq, Except.ok.injEq, Value.obj.injEq]

/-- The text of a layer holds an integer of too many digits exactly when the reader says so. -/
theorem parseLayer_eq_tooLong_iff {digits : Nat} :
    parseLayer path text = .error (.tooLong digits) ↔
      Json.read (bareText text) = .error (.tooLong digits) := by
  rw [parseLayer_eq]
  split_ifs with blank
  · rw [read_bareText_of_blank blank]
    simp only [reduceCtorEq, Except.error.injEq]
  · cases Json.read (bareText text) with
    | error problem =>
      cases problem <;> simp only [reduceCtorEq, Except.error.injEq, LoadFailure.tooLong.injEq,
        Json.ReadError.tooLong.injEq]
    | ok value => cases value <;> simp only [reduceCtorEq, Except.error.injEq]

/-- A text that gives no members is refused, but for an integer of too many digits. -/
theorem parseLayer_error {failure : LoadFailure} (failed : parseLayer path text = .error failure) :
    (∃ fault, failure = .refused (.layer path fault)) ∨ ∃ digits, failure = .tooLong digits := by
  rw [parseLayer_eq] at failed
  split_ifs at failed
  split at failed <;> cases failed
  · exact .inr ⟨_, rfl⟩
  · exact .inl ⟨_, rfl⟩
  · exact .inl ⟨_, rfl⟩

theorem readFound_of_content {resolved : Path} {bytes : List UInt8}
    (content : host.readFile resolved = .ok bytes) (decoded : decodeMarked bytes = .ok text) :
    readFound host path resolved = parseLayer path text := by
  rw [readFound, content]
  dsimp only
  rw [decoded]

/-- A layer whose file is there is read as what is found in it. -/
theorem readLayer_of_isFile {resolved : Path} (resolves : host.resolve path = .ok resolved)
    (present : host.isFile resolved = .ok true) (required : Bool) :
    (readLayer host path required).outcome = (readFound host path resolved).map some := by
  simp only [readLayer, resolves, Except.mapError, Traced.bind_outcome, Traced.ofExcept_outcome,
    Except.bind, present, ↓reduceIte]
  cases readFound host path resolved <;> rfl

theorem Holds.readLayer_outcome (holds : Holds host path members) (required : Bool) :
    (readLayer host path required).outcome = .ok (some members) := by
  cases holds with
  | blank resolves content decoded blank =>
    rw [readLayer_of_isFile resolves (Host.isFile_of_readFile content),
      readFound_of_content content decoded, parseLayer_eq_ok_iff.mpr (.inl ⟨blank, rfl⟩)]
    rfl
  | object resolves content decoded read =>
    rw [readLayer_of_isFile resolves (Host.isFile_of_readFile content),
      readFound_of_content content decoded, parseLayer_eq_ok_iff.mpr (.inr read)]
    rfl

/-- An integer of too many digits fails the layer, required or not. -/
theorem TooLong.readLayer_outcome {digits : Nat} (long : TooLong host path digits)
    (required : Bool) : (readLayer host path required).outcome = .error (.tooLong digits) := by
  obtain ⟨resolved, bytes, text, resolves, content, decoded, read⟩ := long
  rw [readLayer_of_isFile resolves (Host.isFile_of_readFile content),
    readFound_of_content content decoded, parseLayer_eq_tooLong_iff.mpr read]
  rfl

/-- A missing layer is refused if it is required, and otherwise left out. -/
theorem Missing.readLayer_outcome (missing : Missing host path) (required : Bool) :
    (readLayer host path required).outcome =
      if required then .error (.refused (.layer path .missing)) else .ok none := by
  obtain ⟨resolved, resolves, absent⟩ := missing
  simp only [readLayer, resolves, Except.mapError, Traced.bind_outcome, Traced.ofExcept_outcome,
    Except.bind, absent, Bool.false_eq_true, ↓reduceIte]
  cases required <;> rfl

theorem Adds.exists_outcome (adds : Adds host path members) :
    ∃ members?, (readLayer host path false).outcome = .ok members? ∧ members?.getD [] = members := by
  cases adds with
  | missing missing => exact ⟨none, missing.readLayer_outcome false, rfl⟩
  | held holds => exact ⟨some members, holds.readLayer_outcome false, rfl⟩

theorem Adds.resolves (adds : Adds host path members) :
    ∃ resolved, host.resolve path = .ok resolved := by
  cases adds with
  | missing missing => exact ⟨_, missing.choose_spec.1⟩
  | held holds => cases holds with
    | blank resolves => exact ⟨_, resolves⟩
    | object resolves => exact ⟨_, resolves⟩

/-- What a layer adds is up to the file that its path leads to. -/
theorem Adds.of_resolve_eq {other : Path} (adds : Adds host path members)
    (same : host.resolve other = host.resolve path) : Adds host other members := by
  cases adds with
  | missing missing =>
    obtain ⟨resolved, resolves, absent⟩ := missing
    exact .missing ⟨resolved, same.trans resolves, absent⟩
  | held holds => cases holds with
    | blank resolves content decoded blank =>
      exact .held (.blank (same.trans resolves) content decoded blank)
    | object resolves content decoded read =>
      exact .held (.object (same.trans resolves) content decoded read)

theorem Adds.unique {others : List (String × Json)} (adds : Adds host path members)
    (adds' : Adds host path others) : members = others := by
  obtain ⟨members?, read, rfl⟩ := adds.exists_outcome
  obtain ⟨others?, read', rfl⟩ := adds'.exists_outcome
  rw [Except.ok.inj (read.symm.trans read')]

/-- What a layer adds names each member once. -/
theorem Adds.nodup (adds : Adds host path members) : (members.map Prod.fst).Nodup := by
  cases adds with
  | missing => exact List.nodup_nil
  | held holds => cases holds with
    | blank => exact List.nodup_nil
    | object _ _ _ read => exact (Json.namesDistinct_of_read read).1

/-- What a layer adds is laid over what was merged before. -/
theorem Adds.exists_mergeLayers (adds : Adds host path members) (merged : List (String × Json))
    (found rest : List Path) :
    ∃ found', (mergeLayers host merged found (path :: rest)).outcome =
      (mergeLayers host (overlay members merged) found' rest).outcome := by
  obtain ⟨members?, read, rfl⟩ := adds.exists_outcome
  rw [mergeLayers, Traced.bind_outcome, read]
  cases members? with
  | none => exact ⟨found, rfl⟩
  | some members => exact ⟨found ++ [path], rfl⟩

/-! ## The text of an object as a layer -/

section

variable (members)

theorem written_obj :
    Value.written (.obj members : Json) = '\x7b' :: (Value.writtenMembers members ++ ['\x7d']) := by
  rw [Value.written]

/-- A written object is on one line and has no blanks around it. -/
theorem bareText_write :
    bareText (Value.write (.obj members : Json)).toList = Value.write (.obj members : Json) := by
  have plain : '\r' ∉ Value.written (.obj members : Json) := fun listed =>
    absurd (Value.onLine_written (.obj members : Json) _ listed) (by decide)
  rw [bareText, Value.write, String.toList_ofList, Text.foldLines_eq_self plain, written_obj,
    Text.trim_eq_self (by decide) (by decide)]

/-- No mark stands in front of a written object. -/
theorem decodeMarked_write :
    decodeMarked (Text.encode (Value.write (.obj members : Json)).toList) =
      .ok (Value.write (.obj members : Json)).toList := by
  rw [Value.write, String.toList_ofList, written_obj]
  have bytes (rest : List Char) : Text.encode ('\x7b' :: rest) = 0x7B :: Text.encode rest := rfl
  have decoded (rest : List Char) := Text.decode_encode ('\x7b' :: rest)
  simp only [bytes] at decoded ⊢
  rw [decodeMarked, if_neg, if_neg, decoded]
  · rintro ⟨⟩
  · rintro ⟨-, ⟨⟩⟩

variable {members} {resolved : Path}

/-- A file with the text of an object in which an integer has too many digits holds no members. -/
theorem TooLong.of_write (name : String) {number : Int}
    (long : Number.digitLimit < (Nat.toDigits 10 number.natAbs).length)
    (resolves : host.resolve path = .ok resolved)
    (content : host.readFile resolved =
      .ok (Text.encode (Value.write (.obj [(name, .int number)] : Json)).toList)) :
    TooLong host path (Nat.toDigits 10 number.natAbs).length :=
  ⟨resolved, _, _, resolves, content, decodeMarked_write _,
    (congrArg Json.read (bareText_write _)).trans (Json.read_write_of_tooLong name long)⟩

end

end Settings

end NodeClient
