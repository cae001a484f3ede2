import NodeClient.Shape.Catalogue
import Mathlib.Data.List.Forall2

/-! # Values that a shape reads

A reading succeeds exactly when every part of it does, so a list is read item by item and a record
member by member. What a record answers for a name is what was read for the first member declared
under this name; a name that is not declared is not answered, whatever the object holds.
-/

namespace NodeClient

namespace Reading

variable {α : Type}

theorem cons_eq_ok_iff {head : Reading α} {tail : Reading (List α)} {values : List α} :
    cons head tail = .ok values ↔
      ∃ first rest, head = .ok first ∧ tail = .ok rest ∧ values = first :: rest := by
  cases head <;> cases tail <;> simp [cons, eq_comm]

theorem under_eq_ok_iff {step : Step} {reading : Reading α} {value : α} :
    under step reading = .ok value ↔ reading = .ok value := by
  cases reading <;> simp [under]

theorem map_eq_ok_iff {β : Type} {f : α → β} {reading : Reading α} {value : β} :
    reading.map f = .ok value ↔ ∃ source, reading = .ok source ∧ f source = value := by
  cases reading <;> simp [Except.map]

/-- A list is read item by item. -/
theorem items_eq_ok_iff {read : Json → Reading Raw} {index : Nat} {list : List Json}
    {rows : List Raw} :
    items read index list = .ok rows ↔
      List.Forall₂ (fun item row => read item = .ok row) list rows := by
  induction list generalizing index rows with
  | nil => simp [items, eq_comm]
  | cons item rest ih =>
    simp only [items, cons_eq_ok_iff, under_eq_ok_iff, ih, List.forall₂_cons_left_iff,
      exists_and_left]

end Reading

namespace Shape

variable {json : Json} {raw : Raw}

theorem read_bool_eq_ok_iff :
    Shape.bool.read json = .ok raw ↔ ∃ value, json = .bool value ∧ raw = .bool value := by
  cases json <;> simp [read, Reading.refuse, eq_comm]

theorem read_int_eq_ok_iff :
    Shape.int.read json = .ok raw ↔ ∃ value, json = .int value ∧ raw = .int value := by
  cases json <;> simp [read, Reading.refuse, eq_comm]

theorem read_text_eq_ok_iff :
    Shape.text.read json = .ok raw ↔ ∃ value, json = .str value ∧ raw = .text value := by
  cases json <;> simp [read, Reading.refuse, eq_comm]

theorem read_list_eq_ok_iff {item : Shape} :
    (Shape.list item).read json = .ok raw ↔
      ∃ items rows, json = .arr items ∧ raw = .list rows ∧
        List.Forall₂ (fun json row => item.read json = .ok row) items rows := by
  cases json with
  | arr items =>
    simp only [read, Reading.map_eq_ok_iff, Reading.items_eq_ok_iff]
    constructor
    · rintro ⟨rows, each, rfl⟩
      exact ⟨items, rows, rfl, rfl, each⟩
    · rintro ⟨_, rows, same, rfl, each⟩
      exact ⟨rows, Value.arr.inj same ▸ each, rfl⟩
  | _ => simp [read, Reading.refuse]

theorem read_record_eq_ok_iff {name : String} {fields : List Field} :
    (Shape.record name fields).read json = .ok raw ↔
      ∃ members rows, json = .obj members ∧ raw = .record name rows ∧
        readFields fields members = .ok rows := by
  cases json with
  | obj members =>
    simp only [read, Reading.map_eq_ok_iff]
    constructor
    · rintro ⟨rows, each, rfl⟩
      exact ⟨members, rows, rfl, rfl, each⟩
    · rintro ⟨_, rows, same, rfl, each⟩
      exact ⟨rows, Value.obj.inj same ▸ each, rfl⟩
  | _ => simp [read, Reading.refuse]

/-- A list of a kind that is read one to one is read as the values of its items. -/
theorem read_items_eq_ok_iff {α : Type} {wire : α → Json} {read : α → Raw} {kind : Shape}
    (faithful : ∀ json raw, kind.read json = .ok raw ↔
      ∃ value, json = wire value ∧ raw = read value) :
    (Shape.list kind).read json = .ok raw ↔
      ∃ values : List α, json = .arr (values.map wire) ∧ raw = .list (values.map read) := by
  rw [read_list_eq_ok_iff]
  constructor
  · rintro ⟨items, rows, rfl, rfl, each⟩
    induction each with
    | nil => exact ⟨[], rfl, rfl⟩
    | cons head _ ih =>
      obtain ⟨value, rfl, rfl⟩ := (faithful _ _).mp head
      obtain ⟨values, items, rows⟩ := ih
      refine ⟨value :: values, ?_, ?_⟩
      · rw [List.map_cons, Value.arr.inj items]
      · rw [List.map_cons, Raw.list.inj rows]
  · rintro ⟨values, rfl, rfl⟩
    refine ⟨_, _, rfl, rfl, List.forall₂_map_left_iff.mpr (List.forall₂_map_right_iff.mpr ?_)⟩
    exact List.forall₂_same.mpr fun value _ => (faithful _ _).mpr ⟨value, rfl, rfl⟩

/-- A list of integers is read as the integers. -/
theorem read_ints_eq_ok_iff :
    (Shape.list .int).read json = .ok raw ↔
      ∃ values : List Int, json = .arr (values.map .int) ∧ raw = .list (values.map .int) :=
  read_items_eq_ok_iff fun _ _ => read_int_eq_ok_iff

/-- A list of texts is read as the texts. -/
theorem read_texts_eq_ok_iff :
    (Shape.list .text).read json = .ok raw ↔
      ∃ texts : List String, json = .arr (texts.map .str) ∧ raw = .list (texts.map .text) :=
  read_items_eq_ok_iff fun _ _ => read_text_eq_ok_iff

def readMember (field : Field) (members : List (String × Json)) : Reading Raw :=
  match Value.member? field.name members, field.presence with
  | none, .required => Reading.refuse .present
  | none, .orNull => .ok .null
  | none, .orEmpty => .ok (.list [])
  | some .null, .orNull => .ok .null
  | some value, _ => read field.kind value

variable {members : List (String × Json)}

theorem readFields_cons (field : Field) (rest : List Field) :
    readFields (field :: rest) members =
      Reading.cons (Reading.under (.member field.name)
        ((readMember field members).map (field.name, ·))) (readFields rest members) := by
  rw [readFields]
  rfl

/-- A record is read member by member. -/
theorem readFields_eq_ok_iff {fields : List Field} {rows : List (String × Raw)} :
    readFields fields members = .ok rows ↔
      List.Forall₂ (fun field row => row.1 = field.name ∧ readMember field members = .ok row.2)
        fields rows := by
  induction fields generalizing rows with
  | nil => simp [readFields, eq_comm]
  | cons field rest ih =>
    rw [readFields_cons]
    simp only [Reading.cons_eq_ok_iff, Reading.under_eq_ok_iff, Reading.map_eq_ok_iff, ih,
      List.forall₂_cons_left_iff]
    constructor
    · rintro ⟨_, others, ⟨value, head, rfl⟩, tail, rfl⟩
      exact ⟨(field.name, value), others, ⟨rfl, head⟩, tail, rfl⟩
    · rintro ⟨⟨name, value⟩, others, ⟨rfl, head⟩, tail, rfl⟩
      exact ⟨(field.name, value), others, ⟨value, head, rfl⟩, tail, rfl⟩

/-- A name that is not declared is not answered. -/
theorem lookup_of_undeclared {fields : List Field} {rows : List (String × Raw)} {name : String}
    (success : readFields fields members = .ok rows)
    (undeclared : (fields.find? fun field => field.name == name) = none) :
    rows.lookup name = none := by
  rw [readFields_eq_ok_iff] at success
  induction success with
  | nil => rfl
  | @cons field row fields rows head _ ih =>
    rw [List.find?_cons] at undeclared
    cases same : field.name == name with
    | true => simp only [same, reduceCtorEq] at undeclared
    | false =>
      rw [List.lookup_cons, head.1, BEq.comm, same]
      exact ih (by simpa only [same] using undeclared)

/-- A declared name answers what was read for the first member of this name. -/
theorem lookup_of_declared {fields : List Field} {rows : List (String × Raw)} {name : String}
    {field : Field} (success : readFields fields members = .ok rows)
    (declared : (fields.find? fun field => field.name == name) = some field) :
    ∃ raw, readMember field members = .ok raw ∧ rows.lookup name = some raw := by
  rw [readFields_eq_ok_iff] at success
  induction success with
  | nil => contradiction
  | @cons first row fields rows head _ ih =>
    rw [List.find?_cons] at declared
    cases same : first.name == name with
    | true =>
      simp only [same, Option.some.injEq] at declared
      subst declared
      refine ⟨row.2, head.2, ?_⟩
      rw [List.lookup_cons, head.1, BEq.comm, same]
    | false =>
      rw [List.lookup_cons, head.1, BEq.comm, same]
      exact ih (by simpa only [same] using declared)

theorem readMember_required_eq_ok_iff {name : String} {kind : Shape} :
    readMember (required name kind) members = .ok raw ↔
      ∃ value, Value.member? name members = some value ∧ kind.read value = .ok raw := by
  cases found : Value.member? name members with
  | none => simp [readMember, required, found, Reading.refuse]
  | some value => simp [readMember, required, found]

theorem readMember_optional_eq_ok_iff {name : String} {kind : Shape} :
    readMember (optional name kind) members = .ok raw ↔
      if (Value.memberOrNull name members).isNull then raw = .null
      else kind.read (Value.memberOrNull name members) = .ok raw := by
  have present : Value.memberOrNull name members = (Value.member? name members).getD .null := rfl
  rw [present]
  cases found : Value.member? name members with
  | none => simp [readMember, optional, found, Value.isNull, eq_comm]
  | some value => cases value <;> simp [readMember, optional, found, Value.isNull, eq_comm]

end Shape

end NodeClient
