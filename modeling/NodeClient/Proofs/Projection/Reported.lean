import NodeClient.Projection.Basic
import NodeClient.Proofs.Shape.Reading

/-! # Fields that stand for one member

A field that some releases lack is tied to the member of one name: where the shape declares the
member, the field is set to the value that the object holds, and elsewhere it is not set, whatever
the object holds. A member that is required cannot be read as anything but a value of its kind, so
the field is never unset where the member is declared.
-/

namespace NodeClient

def Value.texts (texts : List String) : Json := .arr (texts.map .str)

theorem Value.texts_injective : Function.Injective Value.texts := fun _ _ same =>
  List.map_injective_iff.mpr (fun _ _ => Value.str.inj) (Value.arr.inj same)

theorem Raw.textsOf_map (texts : List String) : Raw.textsOf (texts.map .text) = texts := by
  induction texts with
  | nil => rfl
  | cons text rest ih => rw [List.map_cons, Raw.textsOf, ih]

/-- A field is set exactly where its member is reported, and then to the value of the member. -/
structure Reports {α : Type} (reported : Prop) (wire : α → Json) (name : String)
    (members : List (String × Json)) (field : Option α) : Prop where
  isSome : field.isSome = true ↔ reported
  eq_some : ∀ value, field = some value ↔
    reported ∧ Value.member? name members = some (wire value)

namespace Reports

open Shape

variable {reported : Prop} [Decidable reported] {name shape : String} {fields : List Field}
  {members : List (String × Json)} {rows : List (String × Raw)}

/-- A member that is required wherever it is reported, of a kind that is read one to one. -/
theorem of_required {α : Type} {wire : α → Json} {read : α → Raw} {kind : Shape}
    {field : Option α}
    (faithful : ∀ json raw, kind.read json = .ok raw ↔ ∃ value, json = wire value ∧ raw = read value)
    (injective : Function.Injective wire)
    (success : readFields fields members = .ok rows)
    (declared : (fields.find? fun field => field.name == name) =
      if reported then some (required name kind) else none)
    (unset : rows.lookup name = none → field = none)
    (set : ∀ value, rows.lookup name = some (read value) → field = some value) :
    Reports reported wire name members field := by
  by_cases status : reported
  · rw [if_pos status] at declared
    obtain ⟨raw, member, found⟩ := lookup_of_declared success declared
    obtain ⟨json, present, decoded⟩ := readMember_required_eq_ok_iff.mp member
    obtain ⟨value, rfl, rfl⟩ := (faithful _ _).mp decoded
    rw [set value found]
    refine ⟨iff_of_true rfl status, fun other => ?_⟩
    rw [and_iff_right status, present, Option.some.injEq, Option.some.injEq, injective.eq_iff]
  · rw [if_neg status] at declared
    rw [unset (lookup_of_undeclared success declared)]
    refine ⟨iff_of_false Bool.false_ne_true status, fun other => ?_⟩
    simp only [reduceCtorEq, status, false_and]

theorem of_int (success : readFields fields members = .ok rows)
    (declared : (fields.find? fun field => field.name == name) =
      if reported then some (required name .int) else none) :
    Reports reported Value.int name members ((Raw.record shape rows).reportedInt name) := by
  refine of_required (fun _ _ => read_int_eq_ok_iff) (fun _ _ => Value.int.inj) success declared
    (fun absent => ?_) (fun value found => ?_)
  · rw [Raw.reportedInt, Raw.member?, absent]
  · rw [Raw.reportedInt, Raw.member?, found]

theorem of_bool (success : readFields fields members = .ok rows)
    (declared : (fields.find? fun field => field.name == name) =
      if reported then some (required name .bool) else none) :
    Reports reported Value.bool name members ((Raw.record shape rows).reportedBool name) := by
  refine of_required (fun _ _ => read_bool_eq_ok_iff) (fun _ _ => Value.bool.inj) success declared
    (fun absent => ?_) (fun value found => ?_)
  · rw [Raw.reportedBool, Raw.member?, absent]
  · rw [Raw.reportedBool, Raw.member?, found]

theorem of_text (success : readFields fields members = .ok rows)
    (declared : (fields.find? fun field => field.name == name) =
      if reported then some (required name .text) else none) :
    Reports reported Value.str name members ((Raw.record shape rows).reportedText name) := by
  refine of_required (fun _ _ => read_text_eq_ok_iff) (fun _ _ => Value.str.inj) success declared
    (fun absent => ?_) (fun value found => ?_)
  · rw [Raw.reportedText, Raw.member?, absent]
  · rw [Raw.reportedText, Raw.member?, found]

theorem of_texts (success : readFields fields members = .ok rows)
    (declared : (fields.find? fun field => field.name == name) =
      if reported then some (required name (.list .text)) else none) :
    Reports reported Value.texts name members ((Raw.record shape rows).reportedTexts name) := by
  refine of_required (fun _ _ => read_texts_eq_ok_iff) Value.texts_injective success declared
    (fun absent => ?_) (fun value found => ?_)
  · rw [Raw.reportedTexts, Raw.member?, absent]
  · rw [Raw.reportedTexts, Raw.member?, found]
    exact congrArg some (Raw.textsOf_map value)

/-- An empty list on the wire is an empty list, and not an unset field. -/
theorem eq_nil {reported : Prop} {field : Option (List String)}
    (reports : Reports reported Value.texts name members field) (holds : reported)
    (empty : Value.member? name members = some (.arr [])) : field = some [] :=
  (reports.eq_some []).mpr ⟨holds, empty⟩

end Reports

/-- A field for a member that may be left out where it is reported: the field is the value of the
member, or unset where that is null. -/
structure MayReport {α : Type} (reported : Prop) (wire : α → Json) (name : String)
    (members : List (String × Json)) (field : Option α) : Prop where
  eq_none : ¬ reported → field = none
  value : reported → Value.memberOrNull name members = (field.map wire).getD .null

theorem MayReport.of_int {reported : Prop} [Decidable reported] {name shape : String}
    {fields : List Field} {members : List (String × Json)} {rows : List (String × Raw)}
    (success : Shape.readFields fields members = .ok rows)
    (declared : (fields.find? fun field => field.name == name) =
      if reported then some (Shape.optional name .int) else none) :
    MayReport reported Value.int name members ((Raw.record shape rows).reportedInt name) := by
  refine ⟨fun status => ?_, fun status => ?_⟩
  · rw [if_neg status] at declared
    rw [Raw.reportedInt, Raw.member?, Shape.lookup_of_undeclared success declared]
  · rw [if_pos status] at declared
    obtain ⟨raw, member, found⟩ := Shape.lookup_of_declared success declared
    rw [Shape.readMember_optional_eq_ok_iff] at member
    rw [Raw.reportedInt, Raw.member?, found]
    split_ifs at member with null
    · subst member
      cases absent : Value.memberOrNull name members with
      | null => rfl
      | _ => simp only [absent, Value.isNull, Bool.false_eq_true] at null
    · obtain ⟨value, held, rfl⟩ := Shape.read_int_eq_ok_iff.mp member
      rw [held]
      rfl

end NodeClient
