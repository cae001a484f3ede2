import NodeClient.Frame.Response
import NodeClient.Proofs.Json.Members
import NodeClient.Proofs.Json.RoundTrip

/-! # The frames that are responses

Two framings are told apart by nothing but their members: which of them are there, and which of those
are null. What a frame must have is stated here for each member on its own. A value is a response
exactly when it is an object that has all of it, and the response carries the members as they are.
-/

namespace NodeClient.Response

/-- A value that may identify a request. -/
inductive Identifies : Json → Prop where
  | null : Identifies .null
  | text (value : String) : Identifies (.str value)
  | number (value : Int) : Identifies (.int value)
  | flag (value : Bool) : Identifies (.bool value)

/-- An object with a code and a message. -/
def IsErrorObject (error : Json) : Prop :=
  ∃ fields, error = .obj fields ∧ (Value.member? "code" fields).isSome = true ∧
    (Value.member? "message" fields).isSome = true

/-- The members of a frame that is a response. -/
structure IsFrame (members : List (String × Json)) : Prop where
  version : ∀ version, Value.member? "jsonrpc" members = some version →
    version ∈ [.null, .str "1.0", .str "1.1", .str "2.0"]
  id : ∃ id, Value.member? "id" members = some id ∧ Identifies id
  outcome : (Value.member? "result" members).isSome = true ∨
    (Value.member? "error" members).isSome = true
  error : ∀ error, Value.member? "error" members = some error → error ≠ .null →
    IsErrorObject error ∧ ∀ result, Value.member? "result" members = some result → result = .null

/-- A response holds the members of a frame, null where one is absent. -/
structure Carries (response : Response) (members : List (String × Json)) : Prop where
  version : response.version = Value.memberOrNull "jsonrpc" members
  id : response.id = Value.memberOrNull "id" members
  result : response.result = Value.memberOrNull "result" members
  error : (response.error?.map Value.obj).getD .null = Value.memberOrNull "error" members

variable {members : List (String × Json)}

theorem isId_iff {id : Json} : isId id = true ↔ Identifies id := by
  constructor
  · intro accepted
    cases id with
    | null => exact .null
    | bool value => exact .flag value
    | int value => exact .number value
    | str value => exact .text value
    | _ => exact nomatch accepted
  · rintro (_ | _ | _ | _) <;> rfl

theorem isVersion_iff {version : Json} :
    isVersion version = true ↔ version ∈ [.null, .str "1.0", .str "1.1", .str "2.0"] := by
  cases version <;> simp [isVersion, or_assoc]

theorem isErrorObject_obj_iff {fields : List (String × Json)} :
    IsErrorObject (.obj fields) ↔ (Value.member? "code" fields).isSome = true ∧
      (Value.member? "message" fields).isSome = true := by
  simp [IsErrorObject]

/-- The error of a frame is taken when it is null, or an error object beside no result. -/
theorem errorOf_eq_ok_iff {error? : Option (List (String × Json))} :
    errorOf members = .ok error? ↔
      (∀ error, Value.member? "error" members = some error → error ≠ .null →
        IsErrorObject error ∧
          ∀ result, Value.member? "result" members = some result → result = .null) ∧
      (error?.map Value.obj).getD .null = Value.memberOrNull "error" members := by
  rw [← Value.memberOrNull_iff (· = .null) rfl,
    ← Value.memberOrNull_iff (fun error => error ≠ .null → IsErrorObject error ∧ _)
      (absurd rfl), errorOf]
  generalize Value.memberOrNull "error" members = error
  cases error with
  | null => cases error? <;> simp
  | obj fields =>
    have carried : (error?.map Value.obj).getD .null = .obj fields ↔ error? = some fields := by
      cases error? <;> simp
    rw [isErrorObject_obj_iff, carried]
    dsimp only
    split_ifs with lacking both
    · rw [Bool.or_eq_true, Option.isNone_iff_eq_none, Option.isNone_iff_eq_none] at lacking
      rcases lacking with none | none <;> simp [none]
    · rw [Bool.not_eq_true', ← Bool.not_eq_true, Value.isNull_iff] at both
      simp [both]
    · rw [Bool.not_eq_true', Bool.not_eq_false, Value.isNull_iff] at both
      simp only [Bool.or_eq_true, not_or, Option.isNone_iff_eq_none,
        ← Option.isSome_iff_ne_none] at lacking
      simp [both, lacking, eq_comm]
  | _ => simp [IsErrorObject]

theorem isVersion_memberOrNull_iff :
    isVersion (Value.memberOrNull "jsonrpc" members) = true ↔
      ∀ version, Value.member? "jsonrpc" members = some version →
        version ∈ [.null, .str "1.0", .str "1.1", .str "2.0"] := by
  rw [isVersion_iff, Value.memberOrNull_iff (· ∈ _) List.mem_cons_self]

/-- The members of an object are a response exactly when they are a frame, and that response carries
them. -/
theorem ofMembers_eq_ok_iff {response : Response} :
    ofMembers members = .ok response ↔ IsFrame members ∧ response.Carries members := by
  constructor
  · intro framed
    rw [ofMembers] at framed
    cases found : Value.member? "id" members with
    | none =>
      simp only [found] at framed
      split_ifs at framed
    | some id =>
      simp only [found] at framed
      split_ifs at framed with refused foreign silent
      cases stated : errorOf members with
      | error fault => simp [stated, Except.map] at framed
      | ok error? =>
        simp only [stated, Except.map, Except.ok.injEq] at framed
        subst framed
        obtain ⟨error, carried⟩ := errorOf_eq_ok_iff.mp stated
        rw [Bool.not_eq_true', Bool.not_eq_false] at refused foreign
        rw [Bool.and_eq_true, not_and_or] at silent
        refine ⟨⟨isVersion_memberOrNull_iff.mp refused, ⟨id, found, isId_iff.mp foreign⟩, ?_,
          error⟩, ⟨rfl, ?_, rfl, carried⟩⟩
        · simpa only [Bool.not_eq_true, Option.isNone_eq_false_iff] using silent
        · exact (Value.memberOrNull_of_member? found).symm
  · rintro ⟨frame, carries⟩
    obtain ⟨_, _, _, error?⟩ := response
    obtain ⟨rfl, rfl, rfl, carried⟩ := carries
    obtain ⟨id, found, identifies⟩ := frame.id
    have stated := errorOf_eq_ok_iff.mpr ⟨frame.error, carried⟩
    have spoken : ((Value.member? "result" members).isNone &&
        (Value.member? "error" members).isNone) = false := by
      rw [Bool.and_eq_false_iff, Option.isNone_eq_false_iff, Option.isNone_eq_false_iff]
      exact frame.outcome
    simp only [ofMembers, isVersion_memberOrNull_iff.mpr frame.version, found,
      isId_iff.mpr identifies, spoken, stated, Except.map, Bool.not_true, Bool.false_eq_true,
      ↓reduceIte, Value.memberOrNull_of_member? found]

/-- The error of a frame, where it is not null, is an error object beside no result. -/
theorem IsFrame.error_of_ne_null (frame : IsFrame members)
    (stated : Value.memberOrNull "error" members ≠ .null) :
    IsErrorObject (Value.memberOrNull "error" members) ∧
      Value.memberOrNull "result" members = .null := by
  rw [Value.memberOrNull_iff (· = .null) rfl]
  exact (Value.memberOrNull_iff (fun error => error ≠ .null → IsErrorObject error ∧ _)
    (absurd rfl)).mpr frame.error stated

/-- Every frame is carried by a response. -/
theorem IsFrame.exists_carries (frame : IsFrame members) :
    ∃ response : Response, response.Carries members := by
  by_cases null : Value.memberOrNull "error" members = .null
  · exact ⟨⟨_, _, _, none⟩, rfl, rfl, rfl, null.symm⟩
  · obtain ⟨⟨fields, same, _⟩, _⟩ := frame.error_of_ne_null null
    exact ⟨⟨_, _, _, some fields⟩, rfl, rfl, rfl, same.symm⟩

/-- What carries a frame has no result beside an error. -/
theorem Carries.error_or_result {response : Response} (carries : response.Carries members)
    (frame : IsFrame members) : response.error? = none ∨ response.result = .null := by
  cases stated : response.error? with
  | none => exact .inl rfl
  | some fields =>
    have error : Value.obj fields = Value.memberOrNull "error" members := by
      rw [← carries.error, stated, Option.map_some, Option.getD_some]
    refine .inr (carries.result.trans (frame.error_of_ne_null ?_).2)
    rw [← error]
    exact nofun

theorem ofJson_eq_ok_iff {value : Json} {response : Response} :
    ofJson value = .ok response ↔
      ∃ members, value = .obj members ∧ IsFrame members ∧ response.Carries members := by
  cases value with
  | obj members => simp [ofJson, ofMembers_eq_ok_iff]
  | _ => simp [ofJson]

/-- A body is a response exactly when it reads as an object with the members of a frame, which the
response then carries. -/
theorem parse_eq_ok_iff {body : String} {response : Response} :
    parse body = .ok response ↔
      ∃ members, Json.read body = .ok (.obj members) ∧ IsFrame members ∧
        response.Carries members := by
  rw [parse]
  cases read : Json.read body with
  | error problem => cases problem <;> simp
  | ok value =>
    have stated : (ofJson value).mapError FrameError.fault = .ok response ↔
        ofJson value = .ok response := by
      cases ofJson value <;> simp [Except.mapError]
    simp only [stated, ofJson_eq_ok_iff, Except.ok.injEq]

/-- Only the reader of the body finds integers with too many digits. -/
theorem parse_eq_tooLong_iff {body : String} {digits : Nat} :
    parse body = .error (.tooLong digits) ↔ Json.read body = .error (.tooLong digits) := by
  rw [parse]
  cases Json.read body with
  | error problem => cases problem <;> simp
  | ok value => cases framed : ofJson value <;> simp [framed, Except.mapError]

/-- A body that reads as a value is a response exactly when the value is an object with the members of
a frame. The response carries these members, and never a result beside an error; every other value is
refused with a fault of the frame. -/
theorem parse_accepts_frames {body : String} {value : Json} (read : Json.read body = .ok value) :
    ((∃ response, parse body = .ok response) ↔
      ∃ members, value = .obj members ∧ IsFrame members) ∧
    (∀ response, parse body = .ok response →
      (∃ members, value = .obj members ∧ response.Carries members) ∧
        (response.error? = none ∨ response.result = .null)) ∧
    ((¬ ∃ members, value = .obj members ∧ IsFrame members) →
      ∃ fault, parse body = .error (.fault fault)) := by
  have parsed : ∀ response, parse body = .ok response ↔
      ∃ members, value = .obj members ∧ IsFrame members ∧ response.Carries members := by
    simp only [parse_eq_ok_iff, read, Except.ok.injEq, implies_true]
  refine ⟨?_, ?_, ?_⟩
  · simp only [parsed]
    constructor
    · rintro ⟨response, members, same, frame, _⟩
      exact ⟨members, same, frame⟩
    · rintro ⟨members, same, frame⟩
      obtain ⟨response, carries⟩ := frame.exists_carries
      exact ⟨response, members, same, frame, carries⟩
  · intro response accepted
    obtain ⟨members, same, frame, carries⟩ := (parsed response).mp accepted
    exact ⟨⟨members, same, carries⟩, carries.error_or_result frame⟩
  · intro other
    rw [parse, read]
    cases framed : ofJson value with
    | error fault => exact ⟨fault, by simp only [framed, Except.mapError]⟩
    | ok response =>
      obtain ⟨members, same, frame, _⟩ := ofJson_eq_ok_iff.mp framed
      exact absurd ⟨members, same, frame⟩ other

/-- An error object alone is a response, under any version that is known and with a boolean for its id.
Beside a result it is none, although each of the two would be. -/
theorem parse_accepts_frames_error :
    let error : List (String × Json) := [("code", .int (-1)), ("message", .null)]
    let frame : List (String × Json) :=
      [("jsonrpc", .str "1.1"), ("error", .obj error), ("id", .bool true)]
    let mixed : List (String × Json) := [("result", .int 5), ("error", .obj error), ("id", .int 1)]
    let text := "\x7b\"jsonrpc\":\"1.1\",\"error\":\x7b\"code\":-1,\"message\":null\x7d,\"id\":true\x7d"
    let other := "\x7b\"result\":5,\"error\":\x7b\"code\":-1,\"message\":null\x7d,\"id\":1\x7d"
    Json.read text = .ok (.obj frame) ∧ (∃ response, parse text = .ok response) ∧
      Json.read other = .ok (.obj mixed) ∧ ∃ fault, parse other = .error (.fault fault) := by
  intro error frame mixed text other
  have short {value : Int} (digits : (Nat.toDigits 10 value.natAbs).length ≤ Number.digitLimit) :
      (Value.int value : Json).Readable := by
    rwa [Value.Readable]
  have errorReadable : (Value.obj error : Json).Readable :=
    ⟨by decide, short (by decide), trivial, trivial⟩
  have read : Json.read text = .ok (.obj frame) := by
    have written : Value.write (.obj frame) = text := by decide +kernel
    rw [← written]
    exact Json.read_write ⟨by decide, trivial, errorReadable, trivial, trivial⟩
  have readOther : Json.read other = .ok (.obj mixed) := by
    have written : Value.write (.obj mixed) = other := by decide +kernel
    rw [← written]
    exact Json.read_write ⟨by decide, short (by decide), errorReadable, short (by decide), trivial⟩
  have isFrame : IsFrame frame := by
    refine ⟨?_, ⟨_, rfl, .flag true⟩, .inr rfl, ?_⟩
    · rintro _ ⟨⟩
      exact .tail _ (.tail _ (.head _))
    · rintro _ ⟨⟩ _
      exact ⟨⟨error, rfl, rfl, rfl⟩, nofun⟩
  refine ⟨read, (parse_accepts_frames read).1.mpr ⟨_, rfl, isFrame⟩, readOther,
    (parse_accepts_frames readOther).2.2 ?_⟩
  rintro ⟨_, ⟨⟩, both⟩
  exact nomatch (both.error _ rfl nofun).2 _ rfl

end NodeClient.Response
