import NodeClient.Proofs.Json.Equality
import NodeClient.Proofs.Json.Members
import NodeClient.Proofs.Shape.Conformance

/-! # Order and undeclared members

Two values are rearrangements of each other for a shape when their objects have the same declared
members, in any order, and any members that the shape does not declare. What is read for both is the
same but for the order of counters, so it is compared with the counters in order.
-/

namespace NodeClient

namespace Shape

/-- The members that a shape declares, with what they hold; every counter is one. -/
inductive Declares : Shape → String → Shape → Prop
  | member (record : String) {fields : List Field} {field : Field} (listed : field ∈ fields) :
    Declares (.record record fields) field.name field.kind
  | counter (name : String) : Declares .counters name .int

theorem declares_record_iff {record name : String} {fields : List Field} {kind : Shape} :
    Declares (.record record fields) name kind ↔
      ∃ field ∈ fields, field.name = name ∧ field.kind = kind := by
  constructor
  · intro declares
    cases declares with
    | member _ listed => exact ⟨_, listed, rfl, rfl⟩
  · rintro ⟨field, listed, rfl, rfl⟩
    exact .member record listed

/-- A record that declares no name twice declares one kind for each of its names. -/
theorem kind_of_declares {record name : String} {fields : List Field} {kind : Shape} {field : Field}
    (distinct : (fields.map FieldOf.name).Nodup)
    (found : (fields.find? fun field => field.name == name) = some field)
    (declares : Declares (.record record fields) name kind) : kind = field.kind := by
  obtain ⟨other, listed, rfl, rfl⟩ := declares_record_iff.mp declares
  rw [Option.some.inj (found.symm.trans (find?_of_mem distinct listed))]

/-- A value becomes another one by steps: the members of an object change their order, or a member
that is not declared is added, and this also in an item of a list or in a member, by the shape that
is declared there, if any; each step may be taken back. -/
inductive Rearranged : Shape → Json → Json → Prop
  | refl (shape : Shape) (json : Json) : Rearranged shape json json
  | symm {shape : Shape} {json other : Json} (back : Rearranged shape json other) :
    Rearranged shape other json
  | trans {shape : Shape} {json between other : Json} (first : Rearranged shape json between)
    (second : Rearranged shape between other) : Rearranged shape json other
  | order (shape : Shape) {members others : List (String × Json)}
    (distinct : (members.map Prod.fst).Nodup) (perm : members.Perm others) :
    Rearranged shape (.obj members) (.obj others)
  | add {shape : Shape} {name : String} (undeclared : ∀ kind, ¬ shape.Declares name kind)
    (value : Json) (members : List (String × Json)) :
    Rearranged shape (.obj members) (.obj ((name, value) :: members))
  | item {shape kind : Shape} {json other : Json}
    (declared : ∀ item, shape = .list item → item = kind) (inner : Rearranged kind json other)
    (before after : List Json) :
    Rearranged shape (.arr (before ++ json :: after)) (.arr (before ++ other :: after))
  | member {shape kind : Shape} {name : String} {json other : Json}
    (declared : ∀ member, shape.Declares name member → member = kind)
    (inner : Rearranged kind json other) (before after : List (String × Json)) :
    Rearranged shape (.obj (before ++ (name, json) :: after))
      (.obj (before ++ (name, other) :: after))

end Shape

namespace Raw

mutual

/-- A value with all its counters in the order of their names. -/
def sorted : Raw → Raw
  | .counters entries => .counters (entries.mergeSort nameLe)
  | .list items => .list (sortedItems items)
  | .record shape members => .record shape (sortedMembers members)
  | raw => raw

def sortedItems : List Raw → List Raw
  | [] => []
  | item :: rest => item.sorted :: sortedItems rest

def sortedMembers : List (String × Raw) → List (String × Raw)
  | [] => []
  | (name, value) :: rest => (name, value.sorted) :: sortedMembers rest

end

@[simp] theorem sortedItems_eq (items : List Raw) : sortedItems items = items.map sorted := by
  induction items with
  | nil => rfl
  | cons item rest ih => rw [sortedItems, ih, List.map_cons]

@[simp] theorem sortedMembers_eq (members : List (String × Raw)) :
    sortedMembers members = members.map fun member => (member.1, member.2.sorted) := by
  induction members with
  | nil => rfl
  | cons member rest ih => rw [sortedMembers, ih, List.map_cons]

theorem nameLe_trans (first second third : String × Int) (lower : nameLe first second)
    (upper : nameLe second third) : nameLe first third := by
  rw [nameLe, decide_eq_true_iff] at lower upper ⊢
  exact String.le_trans lower upper

theorem nameLe_total (first second : String × Int) :
    (nameLe first second || nameLe second first) = true := by
  rw [nameLe, nameLe, Bool.or_eq_true, decide_eq_true_iff, decide_eq_true_iff]
  exact String.le_total _ _

theorem pairwise_mergeSort_nameLe (entries : List (String × Int)) :
    (entries.mergeSort nameLe).Pairwise fun first second => nameLe first second :=
  List.pairwise_mergeSort nameLe_trans nameLe_total entries

/-- Counters with distinct names have one order. -/
theorem mergeSort_eq_of_perm {entries others : List (String × Int)}
    (distinct : (entries.map Prod.fst).Nodup) (perm : entries.Perm others) :
    entries.mergeSort nameLe = others.mergeSort nameLe := by
  have same : (entries.mergeSort nameLe).Perm (others.mergeSort nameLe) :=
    (List.mergeSort_perm entries nameLe).trans (perm.trans (List.mergeSort_perm others nameLe).symm)
  refine List.Perm.eq_of_pairwise ?_ (pairwise_mergeSort_nameLe entries)
    (pairwise_mergeSort_nameLe others) same
  intro first second listed listed' lower upper
  rw [nameLe, decide_eq_true_iff] at lower upper
  have member := List.mem_mergeSort.mp listed
  have member' := perm.mem_iff.mpr (List.mem_mergeSort.mp listed')
  exact List.inj_on_of_nodup_map distinct member member' (String.le_antisymm lower upper)

/-- Counters with distinct names ascend strictly once they are in order. -/
theorem pairwise_lt_mergeSort {entries : List (String × Int)}
    (distinct : (entries.map Prod.fst).Nodup) :
    (entries.mergeSort nameLe).Pairwise fun first second => first.1 < second.1 := by
  have apart : (entries.mergeSort nameLe).Pairwise fun first second => first.1 ≠ second.1 := by
    have perm := (List.mergeSort_perm entries nameLe).map Prod.fst
    exact List.pairwise_map.mp (perm.nodup_iff.mpr distinct)
  refine (pairwise_mergeSort_nameLe entries).imp₂ ?_ apart
  intro first second lower different
  rw [nameLe, decide_eq_true_iff] at lower
  exact String.not_le.mp fun upper => different (String.le_antisymm lower upper)

end Raw

namespace Reading

variable {α β : Type}

theorem toOption_cons (head : Reading α) (tail : Reading (List α)) :
    (head.cons tail).toOption =
      head.toOption.bind fun first => tail.toOption.map fun rest => first :: rest := by
  cases head <;> cases tail <;> rfl

theorem toOption_under (step : Step) (reading : Reading α) :
    (reading.under step).toOption = reading.toOption := by
  cases reading <;> rfl

theorem toOption_map (f : α → β) (reading : Reading α) :
    (Except.map f reading).toOption = reading.toOption.map f := by
  cases reading <;> rfl

end Reading

namespace Shape

/-- What is read for a value, with the counters in order. -/
def answer (shape : Shape) (json : Json) : Option Raw := (shape.read json).toOption.map Raw.sorted

/-- The items of a list are answered one by one. -/
theorem answer_list (item : Shape) (items : List Json) :
    (Shape.list item).answer (.arr items) = (items.mapM item.answer).map .list := by
  have each (index : Nat) : (Reading.items item.read index items).toOption.map (List.map Raw.sorted) =
      items.mapM item.answer := by
    induction items generalizing index with
    | nil => rfl
    | cons json rest ih =>
      rw [Reading.items, Reading.toOption_cons, Reading.toOption_under, List.mapM_cons, ← ih (index + 1),
        answer]
      cases (item.read json).toOption <;> cases (Reading.items item.read (index + 1) rest).toOption <;> rfl
  rw [answer, Shape.read, Reading.toOption_map, ← each 0, Option.map_map, Option.map_map]
  congr 1
  funext rows
  rw [Function.comp_apply, Function.comp_apply, Raw.sorted, Raw.sortedItems_eq]

/-- Objects of which every declared member is answered alike are answered alike. -/
theorem answer_record_congr {name : String} {fields : List Field}
    {members others : List (String × Json)}
    (alike : ∀ field ∈ fields, (readMember field members).toOption.map Raw.sorted =
      (readMember field others).toOption.map Raw.sorted) :
    (Shape.record name fields).answer (.obj members) =
      (Shape.record name fields).answer (.obj others) := by
  have rows : (readFields fields members).toOption.map Raw.sortedMembers =
      (readFields fields others).toOption.map Raw.sortedMembers := by
    induction fields with
    | nil => rfl
    | cons field rest ih =>
      obtain ⟨head, tail⟩ := List.forall_mem_cons.mp alike
      have step (object : List (String × Json)) :
          (readFields (field :: rest) object).toOption.map Raw.sortedMembers =
            ((readMember field object).toOption.map Raw.sorted).bind fun value =>
              ((readFields rest object).toOption.map Raw.sortedMembers).map
                fun others => (field.name, value) :: others := by
        rw [readFields_cons, Reading.toOption_cons, Reading.toOption_under, Reading.toOption_map]
        cases (readMember field object).toOption <;> cases (readFields rest object).toOption <;> rfl
      rw [step, step, head, ih tail]
  have record (object : List (String × Json)) : (Shape.record name fields).answer (.obj object) =
      ((readFields fields object).toOption.map Raw.sortedMembers).map (.record name) := by
    rw [answer, Shape.read, Reading.toOption_map, Option.map_map, Option.map_map]
    rfl
  rw [record, record, rows]

theorem readMember_congr {field : Field} {members others : List (String × Json)}
    (same : Value.member? field.name members = Value.member? field.name others) :
    readMember field members = readMember field others := by
  rw [readMember, same, readMember]

theorem answer_counters (members : List (String × Json)) :
    Shape.counters.answer (.obj members) =
      (Reading.counts members).toOption.map fun counts => .counters (counts.mergeSort Raw.nameLe) := by
  rw [answer, Shape.read, Reading.toOption_map, Option.map_map]
  rfl

/-- Counters are answered alike whatever their order. -/
theorem answer_counters_of_perm {members others : List (String × Json)}
    (distinct : (members.map Prod.fst).Nodup) (perm : members.Perm others) :
    Shape.counters.answer (.obj members) = Shape.counters.answer (.obj others) := by
  rw [answer_counters, answer_counters]
  cases counted : Reading.counts members with
  | error problems =>
    cases counted' : Reading.counts others with
    | error problems' => rfl
    | ok counts =>
      have each := exists_counts_iff.mp ⟨counts, counted'⟩
      obtain ⟨counts', success⟩ :=
        exists_counts_iff.mpr fun member listed => each member (perm.mem_iff.mp listed)
      rw [counted] at success
      contradiction
  | ok counts =>
    have each := exists_counts_iff.mp ⟨counts, counted⟩
    obtain ⟨counts', counted'⟩ :=
      exists_counts_iff.mpr fun member listed => each member (perm.mem_iff.mpr listed)
    rw [counted']
    obtain rfl := counts_eq_ok_iff.mp counted
    obtain rfl := counts_eq_ok_iff.mp counted'
    have injective : Function.Injective fun count : String × Int =>
        ((count.1, .int count.2) : String × Json) := by
      rintro ⟨name, value⟩ ⟨name', value'⟩ same
      cases same
      rfl
    rw [List.map_perm_map_iff injective] at perm
    rw [List.map_map] at distinct
    have order := Raw.mergeSort_eq_of_perm distinct perm
    exact congrArg (fun entries => some (Raw.counters entries)) order

/-- Counters are refused when one of them is not an integer. -/
theorem answer_counters_eq_none {name : String} {json : Json} (other : ¬ ∃ value, json = .int value)
    (before after : List (String × Json)) :
    Shape.counters.answer (.obj (before ++ (name, json) :: after)) = none := by
  rw [answer_counters]
  cases counted : Reading.counts (before ++ (name, json) :: after) with
  | error problems => rfl
  | ok counts =>
    have each := exists_counts_iff.mp ⟨counts, counted⟩
    exact absurd (each (name, json) (List.mem_append_right _ List.mem_cons_self)) other

/-- Counters are answered alike where one of them is exchanged for one that is. -/
theorem answer_counters_of_member {name : String} {json other : Json}
    (same : Shape.int.answer json = Shape.int.answer other) (before after : List (String × Json)) :
    Shape.counters.answer (.obj (before ++ (name, json) :: after)) =
      Shape.counters.answer (.obj (before ++ (name, other) :: after)) := by
  have equal (value : Int) : json = .int value ↔ other = .int value := by
    constructor
    · rintro rfl
      cases other <;> cases same
      rfl
    · rintro rfl
      cases json <;> cases same
      rfl
  by_cases counted : ∃ value, json = .int value
  · obtain ⟨value, counted⟩ := counted
    rw [counted, (equal value).mp counted]
  · have counted' : ¬ ∃ value, other = .int value := by
      rintro ⟨value, other⟩
      exact counted ⟨value, (equal value).mpr other⟩
    rw [answer_counters_eq_none counted, answer_counters_eq_none counted']

/-- A member is answered alike where it is exchanged for one that is, by the kind that is declared
for it. -/
theorem answer_readMember_of_member {field : Field} {name : String} {json other : Json}
    (null : json.isNull = other.isNull)
    (same : field.name = name → field.kind.answer json = field.kind.answer other)
    (before after : List (String × Json)) :
    (readMember field (before ++ (name, json) :: after)).toOption.map Raw.sorted =
      (readMember field (before ++ (name, other) :: after)).toOption.map Raw.sorted := by
  have found (value : Json) : Value.member? field.name (before ++ (name, value) :: after) =
      (Value.member? field.name before).or (Value.member? field.name ((name, value) :: after)) :=
    List.lookup_append
  by_cases named : field.name = name
  · subst named
    cases earlier : Value.member? field.name before with
    | some value =>
      rw [readMember_congr]
      rw [found, found, earlier, Option.some_or, Option.some_or]
    | none =>
      have here (value : Json) :
          Value.member? field.name (before ++ (field.name, value) :: after) = some value := by
        rw [found, earlier, Option.none_or, Value.member?, List.lookup_cons_self]
      have both : json = .null ↔ other = .null := by
        rw [← Value.isNull_iff, null, Value.isNull_iff]
      by_cases absent : field.presence = .orNull ∧ json = .null
      · obtain ⟨presence, rfl⟩ := absent
        obtain rfl := both.mp rfl
        rfl
      · have absent' : ¬(field.presence = .orNull ∧ other = .null) := by
          rwa [← both]
        rw [readMember_of_some (here json) absent, readMember_of_some (here other) absent']
        exact same rfl
  · rw [readMember_congr]
    rw [found, found, Value.member?, Value.member?, Value.member?, List.lookup_cons,
      List.lookup_cons, beq_false_of_ne named]

/-- Rearranged values are answered alike, and both are null or neither is. -/
theorem Rearranged.answer_eq {shape : Shape} {json other : Json}
    (rearranged : shape.Rearranged json other) :
    json.isNull = other.isNull ∧ shape.answer json = shape.answer other := by
  induction rearranged with
  | refl shape json => exact ⟨rfl, rfl⟩
  | symm _ ih => exact ⟨ih.1.symm, ih.2.symm⟩
  | trans _ _ first second => exact ⟨first.1.trans second.1, first.2.trans second.2⟩
  | order shape distinct perm =>
    refine ⟨rfl, ?_⟩
    cases shape with
    | record name fields =>
      refine answer_record_congr fun field _ => ?_
      rw [readMember_congr (Value.member?_eq_of_perm distinct perm field.name)]
    | counters => exact answer_counters_of_perm distinct perm
    | _ => rfl
  | @add shape name undeclared value members =>
    refine ⟨rfl, ?_⟩
    cases shape with
    | record record fields =>
      refine answer_record_congr fun field listed => ?_
      have other : field.name ≠ name := fun same => undeclared field.kind (same ▸ .member record listed)
      rw [readMember_congr]
      rw [Value.member?, Value.member?, List.lookup_cons, beq_false_of_ne other]
    | counters => exact absurd (.counter name) (undeclared .int)
    | _ => rfl
  | @item shape kind json other declared inner before after ih =>
    refine ⟨rfl, ?_⟩
    cases shape with
    | list item =>
      obtain rfl := declared item rfl
      rw [answer_list, answer_list]
      simp only [List.mapM_append, List.mapM_cons, ih.2]
    | _ => rfl
  | @member shape kind name json other declared inner before after ih =>
    refine ⟨rfl, ?_⟩
    cases shape with
    | record record fields =>
      refine answer_record_congr fun field listed => answer_readMember_of_member ih.1 ?_ before after
      rintro rfl
      rw [declared field.kind (.member record listed)]
      exact ih.2
    | counters =>
      obtain rfl := declared .int (.counter name)
      exact answer_counters_of_member ih.2 before after
    | _ => rfl

end Shape

end NodeClient
