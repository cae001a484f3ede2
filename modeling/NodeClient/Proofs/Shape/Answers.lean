import NodeClient.Projection.Basic
import NodeClient.Proofs.Json.Members
import NodeClient.Proofs.Shape.Reading

/-! # Members that records answer

An object that is read by a list of members is read by every shorter one, whatever the order. A
member that both lists declare is read alike by both, so two records that were read from one object
give the same answer for it, and an answer of the declared kind.
-/

namespace NodeClient

/-- What stands in a list that is related item by item to another has an item there. -/
theorem exists_source_of_mem {α β : Type} {related : α → β → Prop} {sources : List α}
    {rows : List β} {row : β} (each : List.Forall₂ related sources rows) (listed : row ∈ rows) :
    ∃ source ∈ sources, related source row := by
  induction each with
  | nil => contradiction
  | cons head _ ih =>
    rcases List.mem_cons.mp listed with rfl | later
    · exact ⟨_, List.mem_cons_self, head⟩
    · obtain ⟨source, member, holds⟩ := ih later
      exact ⟨source, List.mem_cons_of_mem _ member, holds⟩

namespace Shape

variable {members : List (String × Json)} {fields : List Field} {field : Field}

/-- Members by their names, of which none is declared twice. -/
theorem find?_of_mem (distinct : (fields.map FieldOf.name).Nodup) (listed : field ∈ fields) :
    (fields.find? fun other => other.name == field.name) = some field := by
  induction fields with
  | nil => contradiction
  | cons first rest ih =>
    rw [List.map_cons, List.nodup_cons] at distinct
    rcases List.mem_cons.mp listed with rfl | later
    · exact List.find?_cons_of_pos (beq_self_eq_true _)
    · have other : first.name ≠ field.name := fun same =>
        distinct.1 (same ▸ List.mem_map_of_mem later)
      rw [List.find?_cons_of_neg (by simpa using other)]
      exact ih distinct.2 later

/-- An object is read exactly when every declared member is. -/
theorem exists_readFields_iff :
    (∃ rows, readFields fields members = .ok rows) ↔
      ∀ field ∈ fields, ∃ value, readMember field members = .ok value := by
  simp only [readFields_eq_ok_iff]
  induction fields with
  | nil => simp
  | cons first rest ih =>
    simp only [List.forall₂_cons_left_iff, List.forall_mem_cons, ← ih]
    constructor
    · rintro ⟨_, row, rows, ⟨_, read⟩, others, _⟩
      exact ⟨⟨row.2, read⟩, rows, others⟩
    · rintro ⟨⟨value, read⟩, rows, others⟩
      exact ⟨_, (first.name, value), rows, ⟨rfl, read⟩, others, rfl⟩

/-- An object that is read by some members is read by fewer. -/
theorem readFields_of_subset {more fewer : List Field} {rows : List (String × Raw)}
    (subset : fewer ⊆ more) (success : readFields more members = .ok rows) :
    ∃ others, readFields fewer members = .ok others := by
  have each := exists_readFields_iff.mp ⟨rows, success⟩
  exact exists_readFields_iff.mpr fun field listed => each field (subset listed)

/-- A member that may be null is null, or what its kind reads in the member of the object. -/
theorem null_or_of_readMember_optional {name : String} {kind : Shape} {raw : Raw}
    (held : readMember (optional name kind) members = .ok raw) :
    raw = .null ∨ ∃ json, Value.member? name members = some json ∧ kind.read json = .ok raw := by
  rw [readMember_optional_eq_ok_iff] at held
  cases found : Value.member? name members with
  | none =>
    have absent : Value.memberOrNull name members = .null := by
      rw [Value.memberOrNull, ← Value.member?, found, Option.getD_none]
    rw [absent] at held
    exact .inl held
  | some json =>
    rw [Value.memberOrNull_of_member? found] at held
    split_ifs at held
    · exact .inl held
    · exact .inr ⟨json, rfl, held⟩

/-- A list member that may be left out holds what the items of the object are read as. -/
theorem readMember_list {name : String} {presence : Presence} {item : Shape} {raw : Raw}
    (present : presence ≠ .orNull)
    (held : readMember ⟨name, presence, .list item⟩ members = .ok raw) :
    ∃ rows, raw = .list rows ∧ ∀ row ∈ rows, ∃ list json,
      Value.member? name members = some (.arr list) ∧ json ∈ list ∧ item.read json = .ok row := by
  rw [readMember] at held
  cases found : Value.member? name members with
  | none =>
    cases presence with
    | required => simp only [found, Reading.refuse, reduceCtorEq] at held
    | orNull => contradiction
    | orEmpty =>
      simp only [found] at held
      exact ⟨[], (Except.ok.inj held).symm, fun row listed => absurd listed List.not_mem_nil⟩
  | some json =>
    have read : (Shape.list item).read json = .ok raw := by
      cases presence <;> cases json <;> first | contradiction | simpa only [found] using held
    obtain ⟨list, rows, rfl, rfl, each⟩ := read_list_eq_ok_iff.mp read
    refine ⟨rows, rfl, fun row listed => ?_⟩
    obtain ⟨json, source, decoded⟩ := exists_source_of_mem each listed
    exact ⟨list, json, rfl, source, decoded⟩

theorem exists_number_of_read {json : Json} {raw : Raw} (read : Shape.number.read json = .ok raw) :
    ∃ value, raw = .number value := by
  rw [Shape.read] at read
  cases json with
  | float value => exact ⟨value, (Except.ok.inj read).symm⟩
  | int value =>
    rw [readNumber] at read
    cases rounded : Binary64.ofInt? value with
    | none => simp only [rounded, Reading.refuse, reduceCtorEq] at read
    | some number =>
      simp only [rounded, Except.ok.injEq] at read
      exact ⟨number, read.symm⟩
  | _ => simp only [readNumber, Reading.refuse, reduceCtorEq] at read

theorem exists_counters_of_read {json : Json} {raw : Raw}
    (read : Shape.counters.read json = .ok raw) : ∃ entries, raw = .counters entries := by
  cases json with
  | obj members =>
    obtain ⟨entries, _, rfl⟩ := Reading.map_eq_ok_iff.mp read
    exact ⟨entries, rfl⟩
  | _ => simp only [Shape.read, Reading.refuse, reduceCtorEq] at read

end Shape

namespace Raw

open Shape

/-- Two records answer every member of a list with what is read for it in an object. -/
def Shares (members : List (String × Json)) (fields : List Field) (raw other : Raw) : Prop :=
  ∀ name field, (fields.find? fun field => field.name == name) = some field →
    ∃ value, readMember field members = .ok value ∧ raw.member? name = some value ∧
      other.member? name = some value

variable {members : List (String × Json)} {fields : List Field} {raw other : Raw}

/-- Records that were read from objects share the members that both declare, if the objects hold the
same for these. -/
theorem shares_of_readFields {members' : List (String × Json)} {more fewer : List Field}
    {rows others : List (String × Raw)} {shape otherShape : String}
    (alike : ∀ field ∈ fields, readMember field members' = readMember field members)
    (distinct : (more.map FieldOf.name).Nodup) (distinct' : (fewer.map FieldOf.name).Nodup)
    (listed : fields ⊆ more) (listed' : fields ⊆ fewer)
    (success : readFields more members = .ok rows)
    (success' : readFields fewer members' = .ok others) :
    Shares members fields (.record shape rows) (.record otherShape others) := by
  intro name field declared
  have member := List.mem_of_find?_eq_some declared
  have named := List.find?_some declared
  obtain rfl := eq_of_beq named
  obtain ⟨value, read, answer⟩ :=
    lookup_of_declared success (find?_of_mem distinct (listed member))
  obtain ⟨value', read', answer'⟩ :=
    lookup_of_declared success' (find?_of_mem distinct' (listed' member))
  rw [alike field member, read] at read'
  exact ⟨value, read, answer, Except.ok.inj read' ▸ answer'⟩

/-- A record that was read from an object answers the members that it declares. -/
theorem shares_self {shape : String} {rows : List (String × Raw)}
    (success : readFields fields members = .ok rows) :
    Shares members fields (.record shape rows) (.record shape rows) := by
  intro name field declared
  have named := List.find?_some declared
  obtain rfl := eq_of_beq named
  obtain ⟨value, read, answer⟩ := lookup_of_declared success declared
  exact ⟨value, read, answer, answer⟩

namespace Shares

variable (shares : Shares members fields raw other) (name : String)

include shares

/-- A required member of a kind that is read one to one. -/
theorem required {α : Type} {wire : α → Json} {read : α → Raw} {kind : Shape}
    (faithful : ∀ json raw, kind.read json = .ok raw ↔
      ∃ value, json = wire value ∧ raw = read value)
    (declared : (fields.find? fun field => field.name == name) =
      some (Shape.required name kind)) :
    ∃ value, Value.member? name members = some (wire value) ∧
      raw.member? name = some (read value) ∧ other.member? name = some (read value) := by
  obtain ⟨answer, held, given, given'⟩ := shares name _ declared
  obtain ⟨json, present, decoded⟩ := readMember_required_eq_ok_iff.mp held
  obtain ⟨value, rfl, rfl⟩ := (faithful json answer).mp decoded
  exact ⟨value, present, given, given'⟩

theorem int (declared : (fields.find? fun field => field.name == name) =
      some (Shape.required name .int)) :
    ∃ value, Value.member? name members = some (.int value) ∧ raw.intAt name = .ok value ∧
      other.intAt name = .ok value := by
  obtain ⟨value, present, given, given'⟩ :=
    shares.required name (fun _ _ => read_int_eq_ok_iff) declared
  exact ⟨value, present, by rw [intAt, given], by rw [intAt, given']⟩

theorem bool (declared : (fields.find? fun field => field.name == name) =
      some (Shape.required name .bool)) :
    ∃ value, Value.member? name members = some (.bool value) ∧ raw.boolAt name = .ok value ∧
      other.boolAt name = .ok value := by
  obtain ⟨value, present, given, given'⟩ :=
    shares.required name (fun _ _ => read_bool_eq_ok_iff) declared
  exact ⟨value, present, by rw [boolAt, given], by rw [boolAt, given']⟩

theorem text (declared : (fields.find? fun field => field.name == name) =
      some (Shape.required name .text)) :
    ∃ value, Value.member? name members = some (.str value) ∧ raw.textAt name = .ok value ∧
      other.textAt name = .ok value := by
  obtain ⟨value, present, given, given'⟩ :=
    shares.required name (fun _ _ => read_text_eq_ok_iff) declared
  exact ⟨value, present, by rw [textAt, given], by rw [textAt, given']⟩

theorem textOrNull (declared : (fields.find? fun field => field.name == name) =
      some (optional name .text)) :
    ∃ value, (∀ text, value = some text → Value.member? name members = some (.str text)) ∧
      raw.textOrNullAt name = .ok value ∧ other.textOrNullAt name = .ok value := by
  obtain ⟨answer, held, given, given'⟩ := shares name _ declared
  rcases null_or_of_readMember_optional held with rfl | ⟨json, present, decoded⟩
  · refine ⟨none, ?_, by rw [textOrNullAt, given], by rw [textOrNullAt, given']⟩
    exact fun text absent => nomatch absent
  · obtain ⟨text, rfl, rfl⟩ := read_text_eq_ok_iff.mp decoded
    refine ⟨some text, ?_, by rw [textOrNullAt, given], by rw [textOrNullAt, given']⟩
    exact fun other same => Option.some.inj same ▸ present

theorem number (declared : (fields.find? fun field => field.name == name) =
      some (Shape.required name .number)) :
    ∃ value, True ∧ raw.numberAt name = .ok value ∧ other.numberAt name = .ok value := by
  obtain ⟨answer, held, given, given'⟩ := shares name _ declared
  obtain ⟨json, _, decoded⟩ := readMember_required_eq_ok_iff.mp held
  obtain ⟨value, rfl⟩ := exists_number_of_read decoded
  exact ⟨value, trivial, by rw [numberAt, given], by rw [numberAt, given']⟩

theorem numberOrNull (declared : (fields.find? fun field => field.name == name) =
      some (optional name .number)) :
    ∃ value, True ∧ raw.numberOrNullAt name = .ok value ∧
      other.numberOrNullAt name = .ok value := by
  obtain ⟨answer, held, given, given'⟩ := shares name _ declared
  rcases null_or_of_readMember_optional held with rfl | ⟨json, _, decoded⟩
  · exact ⟨none, trivial, by rw [numberOrNullAt, given], by rw [numberOrNullAt, given']⟩
  · obtain ⟨value, rfl⟩ := exists_number_of_read decoded
    exact ⟨some value, trivial, by rw [numberOrNullAt, given], by rw [numberOrNullAt, given']⟩

theorem counts (declared : (fields.find? fun field => field.name == name) =
      some (Shape.required name .counters)) :
    ∃ value, True ∧ raw.countsAt name = .ok value ∧ other.countsAt name = .ok value := by
  obtain ⟨answer, held, given, given'⟩ := shares name _ declared
  obtain ⟨json, _, decoded⟩ := readMember_required_eq_ok_iff.mp held
  obtain ⟨entries, rfl⟩ := exists_counters_of_read decoded
  exact ⟨_, trivial, by rw [countsAt, given], by rw [countsAt, given']⟩

theorem items {item : Shape} {presence : Presence} (present : presence ≠ .orNull)
    (declared : (fields.find? fun field => field.name == name) =
      some ⟨name, presence, .list item⟩) :
    ∃ rows, (∀ row ∈ rows, ∃ list json, Value.member? name members = some (.arr list) ∧
        json ∈ list ∧ item.read json = .ok row) ∧
      raw.itemsAt name = .ok rows ∧ other.itemsAt name = .ok rows := by
  obtain ⟨answer, held, given, given'⟩ := shares name _ declared
  obtain ⟨rows, rfl, sources⟩ := readMember_list present held
  exact ⟨rows, sources, by rw [itemsAt, given], by rw [itemsAt, given']⟩

theorem ints (declared : (fields.find? fun field => field.name == name) =
      some (Shape.required name (.list .int))) :
    ∃ value, True ∧ raw.intsAt name = .ok value ∧ other.intsAt name = .ok value := by
  obtain ⟨rows, _, given, given'⟩ := shares.items name Presence.noConfusion declared
  exact ⟨intsOf rows, trivial, by rw [intsAt, given]; rfl, by rw [intsAt, given']; rfl⟩

theorem record {kind : Shape} (declared : (fields.find? fun field => field.name == name) =
      some (Shape.required name kind)) :
    ∃ value, (∃ json, Value.member? name members = some json ∧ kind.read json = .ok value) ∧
      raw.recordAt name = .ok value ∧ other.recordAt name = .ok value := by
  obtain ⟨answer, held, given, given'⟩ := shares name _ declared
  have read := readMember_required_eq_ok_iff.mp held
  exact ⟨answer, read, by rw [recordAt, given], by rw [recordAt, given']⟩

end Shares

end Raw

end NodeClient
