import NodeClient.Proofs.Number.Rounding
import NodeClient.Proofs.Shape.Answers

/-! # Which values are read

What it takes for a value to conform to a shape is said here for each kind of value, without regard
to how it is read, and so is what an answer holds of the value. A value that conforms is read, and
one that does not is refused with some problem.
-/

namespace NodeClient

/-- A list can be related item by item when every item can. -/
theorem exists_forall₂_iff {α β : Type} {related : α → β → Prop} {sources : List α} :
    (∃ rows, List.Forall₂ related sources rows) ↔ ∀ source ∈ sources, ∃ row, related source row := by
  induction sources with
  | nil => simp
  | cons source rest ih =>
    simp only [List.forall₂_cons_left_iff, List.forall_mem_cons, ← ih]
    constructor
    · rintro ⟨_, row, rows, head, tail, _⟩
      exact ⟨⟨row, head⟩, rows, tail⟩
    · rintro ⟨⟨row, head⟩, rows, tail⟩
      exact ⟨_, row, rows, head, tail, rfl⟩

namespace Reading

variable {α β : Type}

/-- A reading that fails tells of some problem. -/
def Founded (reading : Reading α) : Prop := reading ≠ .error []

theorem founded_ok (value : α) : Founded (.ok value : Reading α) := fun failed => nomatch failed

theorem founded_refuse (expected : Expectation) : Founded (refuse expected : Reading α) :=
  fun none => nomatch none

theorem Founded.map {reading : Reading α} (founded : reading.Founded) (f : α → β) :
    Founded (reading.map f) := by
  cases reading with
  | ok value => exact founded_ok _
  | error problems => exact fun none => founded (congrArg Except.error (Except.error.inj none))

theorem Founded.under {reading : Reading α} (founded : reading.Founded) (step : Step) :
    Founded (reading.under step) := by
  cases reading with
  | ok value => exact founded_ok _
  | error problems =>
    intro none
    have empty := List.map_eq_nil_iff.mp (Except.error.inj none)
    exact founded (congrArg Except.error empty)

theorem Founded.cons {head : Reading α} {tail : Reading (List α)} (first : head.Founded)
    (rest : tail.Founded) : Founded (head.cons tail) := by
  cases head with
  | ok value =>
    cases tail with
    | ok values => exact founded_ok _
    | error problems => exact fun none => rest (congrArg Except.error (Except.error.inj none))
  | error problems =>
    cases tail with
    | ok values => exact fun none => first (congrArg Except.error (Except.error.inj none))
    | error others =>
      intro none
      have empty := List.append_eq_nil_iff.mp (Except.error.inj none)
      exact first (congrArg Except.error empty.1)

theorem founded_items {read : Json → Reading Raw} (each : ∀ json, (read json).Founded)
    (index : Nat) (list : List Json) : (items read index list).Founded := by
  induction list generalizing index with
  | nil => exact founded_ok []
  | cons item rest ih => exact ((each item).under _).cons (ih (index + 1))

theorem founded_counts (members : List (String × Json)) : (counts members).Founded := by
  induction members with
  | nil => exact founded_ok []
  | cons member rest ih =>
    obtain ⟨name, json⟩ := member
    cases json with
    | int value => exact (founded_ok (name, value)).cons ih
    | _ => exact ((founded_refuse .int).under (.member name)).cons ih

end Reading

namespace Shape

/-- Induction on shapes; a record stands on the kinds of its members. -/
@[elab_as_elim]
theorem inductionOn {motive : Shape → Prop} (null : motive .null) (bool : motive .bool)
    (int : motive .int) (number : motive .number) (text : motive .text)
    (counters : motive .counters) (list : ∀ item, motive item → motive (.list item))
    (record : ∀ name fields, (∀ field ∈ fields, motive field.kind) → motive (.record name fields))
    (shape : Shape) : motive shape :=
  @Shape.rec motive (fun fields => ∀ field ∈ fields, motive field.kind)
    (fun field => motive field.kind) null bool int number text counters list record
    (fun _ listed => absurd listed List.not_mem_nil)
    (fun _ _ first rest => List.forall_mem_cons.mpr ⟨first, rest⟩)
    (fun _ _ _ kind => kind) shape

/-- A value is what a shape says. An integer may stand for a floating-point number, up to half a unit
above the greatest finite one; nothing else stands for a value of another kind. -/
inductive Conforms : Shape → Json → Prop
  | null : Conforms .null .null
  | bool (value : Bool) : Conforms .bool (.bool value)
  | int (value : Int) : Conforms .int (.int value)
  | float (value : Binary64) : Conforms .number (.float value)
  | integral {value : Int} (finite : value.natAbs < (2 ^ 54 - 1) * 2 ^ 970) :
    Conforms .number (.int value)
  | text (value : String) : Conforms .text (.str value)
  | counters {members : List (String × Json)}
    (each : ∀ member ∈ members, ∃ count, member.2 = .int count) : Conforms .counters (.obj members)
  | list {item : Shape} {items : List Json} (each : ∀ json ∈ items, Conforms item json) :
    Conforms (.list item) (.arr items)
  | record {name : String} {fields : List Field} {members : List (String × Json)}
    (present : ∀ field ∈ fields, field.presence = .required →
      (Value.member? field.name members).isSome)
    (each : ∀ field ∈ fields, ∀ json, Value.member? field.name members = some json →
      ¬(field.presence = .orNull ∧ json = .null) → Conforms field.kind json) :
    Conforms (.record name fields) (.obj members)

/-- What was read is what stands in the value: under every declared name the record answers what was
read for the member that the object has under this name. -/
inductive Holds : Shape → Json → Raw → Prop
  | null : Holds .null .null .null
  | bool (value : Bool) : Holds .bool (.bool value) (.bool value)
  | int (value : Int) : Holds .int (.int value) (.int value)
  | float (value : Binary64) : Holds .number (.float value) (.number value)
  | integral {value : Int} {nearest : Binary64} (rounded : Binary64.ofInt? value = some nearest) :
    Holds .number (.int value) (.number nearest)
  | text (value : String) : Holds .text (.str value) (.text value)
  | counters (counts : List (String × Int)) :
    Holds .counters (.obj (counts.map fun count => (count.1, .int count.2))) (.counters counts)
  | list {item : Shape} {items : List Json} {rows : List Raw} (length : items.length = rows.length)
    (each : ∀ json row, (json, row) ∈ items.zip rows → Holds item json row) :
    Holds (.list item) (.arr items) (.list rows)
  | record {name : String} {fields : List Field} {members : List (String × Json)}
    {rows : List (String × Raw)} (names : rows.map Prod.fst = fields.map FieldOf.name)
    (each : ∀ field ∈ fields, ∀ json raw, Value.member? field.name members = some json →
      ¬(field.presence = .orNull ∧ json = .null) →
      Raw.member? field.name (.record name rows) = some raw → Holds field.kind json raw)
    (orNull : ∀ field ∈ fields, field.presence = .orNull →
      (Value.memberOrNull field.name members).isNull →
      Raw.member? field.name (.record name rows) = some .null)
    (orEmpty : ∀ field ∈ fields, field.presence = .orEmpty →
      Value.member? field.name members = none →
      Raw.member? field.name (.record name rows) = some (.list [])) :
    Holds (.record name fields) (.obj members) (.record name rows)

mutual

/-- Whether no record in a shape declares a name twice. -/
def distinct : Shape → Bool
  | .list item => item.distinct
  | .record _ fields => decide (fields.map FieldOf.name).Nodup && distinctKinds fields
  | _ => true

def distinctKinds : List Field → Bool
  | [] => true
  | ⟨_, _, kind⟩ :: rest => kind.distinct && distinctKinds rest

end

theorem distinct_of_mem {fields : List Field} {field : Field} (distinct : distinctKinds fields)
    (listed : field ∈ fields) : field.kind.distinct := by
  induction fields with
  | nil => contradiction
  | cons first rest ih =>
    rw [distinctKinds, Bool.and_eq_true] at distinct
    rcases List.mem_cons.mp listed with rfl | later
    · exact distinct.1
    · exact ih distinct.2 later

/-- What is read for a declared member, by whether the object has it. -/
theorem readMember_of_some {field : Field} {members : List (String × Json)} {json : Json}
    (found : Value.member? field.name members = some json)
    (present : ¬(field.presence = .orNull ∧ json = .null)) :
    readMember field members = field.kind.read json := by
  rw [readMember, found]
  cases presence : field.presence <;> cases json <;> first | rfl | exact absurd ⟨presence, rfl⟩ present

theorem readMember_of_some_null {field : Field} {members : List (String × Json)}
    (found : Value.member? field.name members = some .null) (presence : field.presence = .orNull) :
    readMember field members = .ok .null := by
  rw [readMember, found, presence]

theorem readMember_of_none {field : Field} {members : List (String × Json)}
    (absent : Value.member? field.name members = none) :
    readMember field members =
      match field.presence with
      | .required => Reading.refuse .present
      | .orNull => .ok .null
      | .orEmpty => .ok (.list []) := by
  rw [readMember, absent]
  cases field.presence <;> rfl

theorem readMember_of_null {field : Field} {members : List (String × Json)}
    (presence : field.presence = .orNull)
    (null : (Value.memberOrNull field.name members).isNull) :
    readMember field members = .ok .null := by
  cases found : Value.member? field.name members with
  | none => rw [readMember_of_none found, presence]
  | some json =>
    rw [Value.memberOrNull_of_member? found, Value.isNull_iff] at null
    rw [null] at found
    exact readMember_of_some_null found presence

theorem read_number_int_eq_ok_iff {value : Int} {raw : Raw} :
    Shape.number.read (.int value) = .ok raw ↔
      ∃ nearest, Binary64.ofInt? value = some nearest ∧ raw = .number nearest := by
  rw [Shape.read, readNumber]
  cases Binary64.ofInt? value <;> simp [Reading.refuse, eq_comm]

/-- Counters are read when each of them is an integer, and are kept as they are. -/
theorem counts_eq_ok_iff {members : List (String × Json)} {counts : List (String × Int)} :
    Reading.counts members = .ok counts ↔
      members = counts.map fun count => (count.1, .int count.2) := by
  induction members generalizing counts with
  | nil =>
    rw [Reading.counts, Except.ok.injEq]
    constructor
    · rintro rfl
      rfl
    · exact fun same => (List.map_eq_nil_iff.mp same.symm).symm
  | cons member rest ih =>
    obtain ⟨name, json⟩ := member
    rw [Reading.counts.eq_def]
    dsimp only
    rw [Reading.cons_eq_ok_iff]
    simp only [Reading.under_eq_ok_iff]
    constructor
    · rintro ⟨count, others, head, tail, rfl⟩
      cases json with
      | int value =>
        obtain rfl := Except.ok.inj head
        rw [List.map_cons, ← ih.mp tail]
      | _ => contradiction
    · intro same
      cases counts with
      | nil => contradiction
      | cons count others =>
        rw [List.map_cons, List.cons.injEq, Prod.mk.injEq] at same
        obtain ⟨⟨rfl, rfl⟩, tail⟩ := same
        exact ⟨count, others, rfl, ih.mpr tail, rfl⟩

theorem exists_counts_iff {members : List (String × Json)} :
    (∃ counts, Reading.counts members = .ok counts) ↔
      ∀ member ∈ members, ∃ count, member.2 = .int count := by
  induction members with
  | nil => exact ⟨fun _ _ listed => absurd listed List.not_mem_nil, fun _ => ⟨[], rfl⟩⟩
  | cons member rest ih =>
    rw [List.forall_mem_cons, ← ih]
    simp only [counts_eq_ok_iff]
    constructor
    · rintro ⟨_ | ⟨count, others⟩, same⟩
      · contradiction
      · rw [List.map_cons, List.cons.injEq] at same
        exact ⟨⟨count.2, congrArg Prod.snd same.1⟩, others, same.2⟩
    · rintro ⟨⟨count, same⟩, others, tail⟩
      refine ⟨(member.1, count) :: others, ?_⟩
      rw [List.map_cons, ← tail, ← same]

/-- A declared member is read unless it is required and absent, or present and not of its kind. -/
theorem exists_readMember_iff {field : Field} {members : List (String × Json)} :
    (∃ raw, readMember field members = .ok raw) ↔
      (field.presence = .required → (Value.member? field.name members).isSome) ∧
        ∀ json, Value.member? field.name members = some json →
          ¬(field.presence = .orNull ∧ json = .null) → ∃ raw, field.kind.read json = .ok raw := by
  cases found : Value.member? field.name members with
  | none =>
    rw [readMember_of_none found]
    cases presence : field.presence <;> simp [Reading.refuse]
  | some json =>
    by_cases null : field.presence = .orNull ∧ json = .null
    · rw [readMember_of_some_null (null.2 ▸ found) null.1]
      simp [null]
    · rw [readMember_of_some found null]
      constructor
      · exact fun read => ⟨fun _ => rfl, fun other same _ => Option.some.inj same ▸ read⟩
      · exact fun conditions => conditions.2 json rfl null

/-- A value is read exactly when it conforms. -/
theorem exists_read_iff (shape : Shape) (json : Json) :
    (∃ raw, shape.read json = .ok raw) ↔ shape.Conforms json := by
  induction shape using inductionOn generalizing json with
  | null =>
    constructor
    · rintro ⟨raw, read⟩
      cases json with
      | null => exact .null
      | _ => contradiction
    · intro conforms
      cases conforms with
      | null => exact ⟨.null, rfl⟩
  | bool =>
    constructor
    · rintro ⟨raw, read⟩
      obtain ⟨value, rfl, _⟩ := read_bool_eq_ok_iff.mp read
      exact .bool value
    · intro conforms
      cases conforms with
      | bool value => exact ⟨.bool value, rfl⟩
  | int =>
    constructor
    · rintro ⟨raw, read⟩
      obtain ⟨value, rfl, _⟩ := read_int_eq_ok_iff.mp read
      exact .int value
    · intro conforms
      cases conforms with
      | int value => exact ⟨.int value, rfl⟩
  | number =>
    constructor
    · rintro ⟨raw, read⟩
      cases json with
      | float value => exact .float value
      | int value =>
        obtain ⟨nearest, rounded, _⟩ := read_number_int_eq_ok_iff.mp read
        refine .integral ((Binary64.ofInt?_isSome_iff value).mp ?_)
        rw [rounded, Option.isSome_some]
      | _ => contradiction
    · intro conforms
      cases conforms with
      | float value => exact ⟨.number value, rfl⟩
      | integral finite =>
        obtain ⟨nearest, rounded⟩ :=
          Option.isSome_iff_exists.mp ((Binary64.ofInt?_isSome_iff _).mpr finite)
        exact ⟨_, read_number_int_eq_ok_iff.mpr ⟨nearest, rounded, rfl⟩⟩
  | text =>
    constructor
    · rintro ⟨raw, read⟩
      obtain ⟨value, rfl, _⟩ := read_text_eq_ok_iff.mp read
      exact .text value
    · intro conforms
      cases conforms with
      | text value => exact ⟨.text value, rfl⟩
  | counters =>
    constructor
    · rintro ⟨raw, read⟩
      cases json with
      | obj members =>
        obtain ⟨counts, read, _⟩ := Reading.map_eq_ok_iff.mp read
        exact .counters (exists_counts_iff.mp ⟨counts, read⟩)
      | _ => contradiction
    · intro conforms
      cases conforms with
      | counters each =>
        obtain ⟨counts, read⟩ := exists_counts_iff.mpr each
        exact ⟨.counters counts, Reading.map_eq_ok_iff.mpr ⟨counts, read, rfl⟩⟩
  | list item ih =>
    constructor
    · rintro ⟨raw, read⟩
      obtain ⟨items, rows, rfl, rfl, each⟩ := read_list_eq_ok_iff.mp read
      have each := exists_forall₂_iff.mp ⟨rows, each⟩
      exact .list fun json listed => (ih json).mp (each json listed)
    · intro conforms
      cases conforms with
      | list each =>
        obtain ⟨rows, related⟩ :=
          exists_forall₂_iff.mpr fun json listed => (ih json).mpr (each json listed)
        exact ⟨.list rows, read_list_eq_ok_iff.mpr ⟨_, rows, rfl, rfl, related⟩⟩
  | record name fields ih =>
    constructor
    · rintro ⟨raw, read⟩
      obtain ⟨members, rows, rfl, rfl, success⟩ := read_record_eq_ok_iff.mp read
      have each := exists_readFields_iff.mp ⟨rows, success⟩
      refine .record (fun field listed => ?_) fun field listed json found present => ?_
      · exact (exists_readMember_iff.mp (each field listed)).1
      · exact (ih field listed json).mp
          ((exists_readMember_iff.mp (each field listed)).2 json found present)
    · intro conforms
      cases conforms with
      | record present each =>
        obtain ⟨rows, success⟩ := exists_readFields_iff.mpr fun field listed =>
          exists_readMember_iff.mpr ⟨present field listed, fun json found other =>
            (ih field listed json).mpr (each field listed json found other)⟩
        exact ⟨.record name rows, read_record_eq_ok_iff.mpr ⟨_, rows, rfl, rfl, success⟩⟩

/-- A record answers the declared names in their order. -/
theorem names_of_readFields {fields : List Field} {members : List (String × Json)}
    {rows : List (String × Raw)} (success : readFields fields members = .ok rows) :
    rows.map Prod.fst = fields.map FieldOf.name := by
  rw [readFields_eq_ok_iff] at success
  induction success with
  | nil => rfl
  | cons head _ ih => rw [List.map_cons, List.map_cons, head.1, ih]

/-- What a reading answers is what stands in the value. -/
theorem holds_of_read {shape : Shape} (distinct : shape.distinct) {json : Json} {raw : Raw}
    (read : shape.read json = .ok raw) : shape.Holds json raw := by
  induction shape using inductionOn generalizing json raw with
  | null =>
    cases json with
    | null =>
      obtain rfl := Except.ok.inj read
      exact .null
    | _ => contradiction
  | bool =>
    obtain ⟨value, rfl, rfl⟩ := read_bool_eq_ok_iff.mp read
    exact .bool value
  | int =>
    obtain ⟨value, rfl, rfl⟩ := read_int_eq_ok_iff.mp read
    exact .int value
  | number =>
    cases json with
    | float value =>
      obtain rfl := Except.ok.inj read
      exact .float value
    | int value =>
      obtain ⟨nearest, rounded, rfl⟩ := read_number_int_eq_ok_iff.mp read
      exact .integral rounded
    | _ => contradiction
  | text =>
    obtain ⟨value, rfl, rfl⟩ := read_text_eq_ok_iff.mp read
    exact .text value
  | counters =>
    cases json with
    | obj members =>
      obtain ⟨counts, counted, rfl⟩ := Reading.map_eq_ok_iff.mp read
      obtain rfl := counts_eq_ok_iff.mp counted
      exact .counters counts
    | _ => contradiction
  | list item ih =>
    obtain ⟨items, rows, rfl, rfl, each⟩ := read_list_eq_ok_iff.mp read
    refine .list each.length_eq fun json row paired => ?_
    exact ih distinct (List.forall₂_zip each paired)
  | record name fields ih =>
    obtain ⟨members, rows, rfl, rfl, success⟩ := read_record_eq_ok_iff.mp read
    rw [Shape.distinct, Bool.and_eq_true, decide_eq_true_iff] at distinct
    obtain ⟨apart, kinds⟩ := distinct
    have answers : ∀ field ∈ fields, ∃ raw, readMember field members = .ok raw ∧
        Raw.member? field.name (.record name rows) = some raw :=
      fun field listed => lookup_of_declared success (find?_of_mem apart listed)
    refine .record (names_of_readFields success) ?_ ?_ ?_
    · intro field listed json raw found present answered
      obtain ⟨raw', read, given⟩ := answers field listed
      obtain rfl := Option.some.inj (given.symm.trans answered)
      rw [readMember_of_some found present] at read
      exact ih field listed (distinct_of_mem kinds listed) read
    · intro field listed presence null
      obtain ⟨raw, read, given⟩ := answers field listed
      rw [readMember_of_null presence null] at read
      rw [given, Except.ok.inj read]
    · intro field listed presence absent
      obtain ⟨raw, read, given⟩ := answers field listed
      rw [readMember_of_none absent, presence] at read
      rw [given, Except.ok.inj read]

theorem founded_readMember {field : Field} (each : ∀ json, (field.kind.read json).Founded)
    (members : List (String × Json)) : (readMember field members).Founded := by
  cases found : Value.member? field.name members with
  | none =>
    rw [readMember_of_none found]
    cases field.presence with
    | required => exact Reading.founded_refuse _
    | orNull => exact Reading.founded_ok _
    | orEmpty => exact Reading.founded_ok _
  | some json =>
    by_cases null : field.presence = .orNull ∧ json = .null
    · rw [readMember_of_some_null (null.2 ▸ found) null.1]
      exact Reading.founded_ok _
    · rw [readMember_of_some found null]
      exact each json

theorem founded_readFields {fields : List Field}
    (each : ∀ field ∈ fields, ∀ json, (field.kind.read json).Founded)
    (members : List (String × Json)) : (readFields fields members).Founded := by
  induction fields with
  | nil => exact Reading.founded_ok []
  | cons field rest ih =>
    obtain ⟨kind, others⟩ := List.forall_mem_cons.mp each
    rw [readFields_cons]
    exact (((founded_readMember kind members).map _).under _).cons (ih others)

/-- A value that is not read has a problem. -/
theorem founded_read (shape : Shape) (json : Json) : (shape.read json).Founded := by
  induction shape using inductionOn generalizing json with
  | list item ih =>
    cases json with
    | arr items => exact (Reading.founded_items ih 0 items).map _
    | _ => exact Reading.founded_refuse _
  | record name fields ih =>
    cases json with
    | obj members => exact (founded_readFields ih members).map _
    | _ => exact Reading.founded_refuse _
  | counters =>
    cases json with
    | obj members => exact (Reading.founded_counts members).map _
    | _ => exact Reading.founded_refuse _
  | number =>
    cases json with
    | int value =>
      rw [read, readNumber]
      cases Binary64.ofInt? value with
      | none => exact Reading.founded_refuse _
      | some nearest => exact Reading.founded_ok _
    | float value => exact Reading.founded_ok _
    | _ => exact Reading.founded_refuse _
  | _ => cases json <;> first | exact Reading.founded_ok _ | exact Reading.founded_refuse _

end Shape

end NodeClient
