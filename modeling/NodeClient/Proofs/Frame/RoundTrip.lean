import NodeClient.Frame.Request
import NodeClient.Proofs.Frame.Acceptance
import NodeClient.Proofs.Json.RoundTrip

/-! # Framing loses nothing

A request is sent on one line of ASCII, and a reader takes from this line the very members that were
put into it. A response that is written in the same way is parsed to the result and the id that it
carries.
-/

namespace NodeClient

namespace Json

/-- The members of a request whose parameters and id are JSON values, as a reader finds them. -/
def requestMembers (version method : String) (params : List Json) (id : Json) :
    List (String × Json) :=
  [("jsonrpc", .str version), ("method", .str method), ("params", .arr params)] ++
    if id.isNull then [] else [("id", id)]

def resultMembers (result id : Json) : List (String × Json) :=
  [("result", result), ("error", .null), ("id", id)]

end Json

namespace Request

/-- The request of a method with JSON values for its parameters and its id. -/
def ofJson (version method : String) (params : List Json) (id : Json) : Request :=
  { version, method, params := Value.ofJson (.arr params), id := Value.ofJson id }

variable {version method : String} {params : List Json} {id : Json}

theorem members_ofJson :
    (ofJson version method params id).members =
      Value.ofJsonMembers (Json.requestMembers version method params id) := by
  rw [members, ofJson, Json.requestMembers, Value.isNull_ofJson]
  split_ifs <;> rfl

/-- A request is sent as its members are written. -/
theorem line_ofJson :
    (ofJson version method params id).line =
      Value.write (.obj (Json.requestMembers version method params id)) := by
  rw [line, members_ofJson]
  exact congrArg String.ofList (Value.written_ofJson (.obj _))

theorem onLine_line (request : Request) : Text.OnLine request.line.toList := by
  rw [line, Value.write, String.toList_ofList]
  exact Value.onLine_written _

/-- The members of a request can be read if its parameters and its id can. -/
theorem readable_requestMembers (paramsReadable : ∀ param ∈ params, param.Readable)
    (idReadable : id.Readable) :
    (Value.obj (Json.requestMembers version method params id) : Json).Readable := by
  have items := Value.itemsReadable_of_forall paramsReadable
  rw [Json.requestMembers]
  split_ifs
  · have distinct : ["jsonrpc", "method", "params"].Nodup := by decide
    exact ⟨distinct, trivial, trivial, items, trivial⟩
  · have distinct : ["jsonrpc", "method", "params", "id"].Nodup := by decide
    exact ⟨distinct, trivial, trivial, items, idReadable, trivial⟩

end Request

namespace Response

variable {result id : Json}

theorem readable_resultMembers (resultReadable : result.Readable) (idReadable : id.Readable) :
    (Value.obj (Json.resultMembers result id) : Json).Readable := by
  have distinct : ["result", "error", "id"].Nodup := by decide
  exact ⟨distinct, resultReadable, trivial, idReadable, trivial⟩

/-- A result with a null error and an id has the members of a frame. -/
theorem isFrame_resultMembers (identifies : isId id = true) :
    IsFrame (Json.resultMembers result id) where
  version _ stated := nomatch stated
  id := ⟨id, rfl, isId_iff.mp identifies⟩
  outcome := .inl rfl
  error := by
    rintro _ ⟨⟩ stated
    contradiction

theorem parse_write (resultReadable : result.Readable) (idReadable : id.Readable)
    (identifies : isId id = true) :
    parse (Value.write (.obj (Json.resultMembers result id))) =
      .ok { version := .null, id, result, error? := none } := by
  have read := Json.read_write (readable_resultMembers resultReadable idReadable)
  exact parse_eq_ok_iff.mpr
    ⟨_, read, isFrame_resultMembers identifies, ⟨rfl, rfl, rfl, rfl⟩⟩

end Response

/-- With an id that can be read, every request is one line of ASCII that reads as exactly its members,
and every result that is written is parsed to the result and the id. -/
theorem framing_lossless {id : Json} (idReadable : id.Readable)
    (identifies : Response.isId id = true) :
    (∀ (version method : String) (params : List Json), (∀ param ∈ params, param.Readable) →
      Text.OnLine (Request.ofJson version method params id).line.toList ∧
        Json.read (Request.ofJson version method params id).line =
          .ok (.obj (Json.requestMembers version method params id))) ∧
      ∀ result : Json, result.Readable →
        Response.parse (Value.write (.obj (Json.resultMembers result id))) =
          .ok { version := .null, id, result, error? := none } := by
  constructor
  · intro version method params paramsReadable
    refine ⟨Request.onLine_line _, ?_⟩
    rw [Request.line_ofJson]
    exact Json.read_write (Request.readable_requestMembers paramsReadable idReadable)
  · intro result resultReadable
    exact Response.parse_write resultReadable idReadable identifies

/-- A call with text beyond ASCII, empty and nested values and a fraction among its parameters. -/
theorem framing_lossless_addNode :
    let params : List Json := [.str "é😀\n", .arr [],
      .obj [("depth", .int (-5)), ("", .float (.finite true 7205759403792794 (-56)))]]
    let line := "\x7b\"jsonrpc\":\"2.0\",\"method\":\"addnode\",\"params\":" ++
      "[\"\\u00e9\\ud83d\\ude00\\n\",[],\x7b\"depth\":-5,\"\":-0.1\x7d],\"id\":7\x7d"
    Text.OnLine line.toList ∧
      Json.read line = .ok (.obj (Json.requestMembers "2.0" "addnode" params (.int 7))) ∧
      Response.parse "\x7b\"result\":[true],\"error\":null,\"id\":7\x7d" =
        .ok { version := .null, id := .int 7, result := .arr [.bool true], error? := none } := by
  intro params line
  have digits : (Nat.toDigits 10 5).length ≤ Number.digitLimit := by decide
  have number : Binary64.IsNormal 7205759403792794 (-56) :=
    ⟨by decide, by decide, by decide, by decide⟩
  have distinct : ["depth", ""].Nodup := by decide
  have paramsReadable : ∀ param ∈ params, param.Readable :=
    List.forall_mem_cons.mpr ⟨trivial, List.forall_mem_cons.mpr ⟨trivial,
      List.forall_mem_singleton.mpr ⟨distinct, digits, number, trivial⟩⟩⟩
  have idReadable : (Value.int 7 : Json).Readable := by
    rw [Value.Readable]
    decide
  have sent : (Request.ofJson "2.0" "addnode" params (.int 7)).line = line := by decide +kernel
  have answered : Value.write (.obj (Json.resultMembers (.arr [.bool true]) (.int 7))) =
      "\x7b\"result\":[true],\"error\":null,\"id\":7\x7d" := by decide +kernel
  obtain ⟨requests, responses⟩ := framing_lossless idReadable rfl
  obtain ⟨onLine, reads⟩ := requests "2.0" "addnode" params paramsReadable
  have parsed := responses (.arr [.bool true]) ⟨trivial, trivial⟩
  rw [sent] at onLine reads
  rw [answered] at parsed
  exact ⟨onLine, reads, parsed⟩

end NodeClient
