import NodeClient.Proofs.Encoding.Elision
import Mathlib.Data.List.Nodup

/-! # Arguments that a signature takes

The rules that every signature keeps, and the conditions under which it encodes named or positional
arguments. Positional arguments are those of the same names: since no name stands twice, each slot
gets its own value back.
-/

namespace NodeClient.Signature

theorem distinct_eq_true_iff (names : List String) : distinct names = true ↔ names.Nodup := by
  induction names with
  | nil => simp [distinct]
  | cons name rest ih => simp [distinct, ih]

private theorem fault?_eq_none_iff (slots : List Slot) (exactlyOneOf : List String) :
    fault? slots exactlyOneOf = none ↔
      misplaced? slots = none ∧ (slots.map Slot.name).Nodup ∧
        ∀ name ∈ exactlyOneOf, name ∈ slots.map Slot.name := by
  cases misplaced : misplaced? slots with
  | some name => simp [fault?, misplaced]
  | none =>
    rw [← distinct_eq_true_iff]
    cases unique : distinct (slots.map Slot.name) <;> simp [fault?, misplaced, unique]

/-- No two slots have the same name. -/
theorem names_nodup (signature : Signature) : signature.names.Nodup :=
  ((fault?_eq_none_iff _ _).mp signature.sound).2.1

/-- The members of the group are names of slots. -/
theorem mem_names_of_mem_group (signature : Signature) {name : String}
    (member : name ∈ signature.exactlyOneOf) : name ∈ signature.names :=
  ((fault?_eq_none_iff _ _).mp signature.sound).2.2 name member

/-- Whether every name that is set is that of a slot. -/
def Declares (signature : Signature) (values : List (String × Argument)) : Prop :=
  ∀ given ∈ values, given.2.isNull = false → given.1 ∈ signature.names

/-- A set name that is not declared is refused before anything else. -/
theorem encode_of_not_declares {signature : Signature} {values : List (String × Argument)}
    (undeclared : ¬ signature.Declares values) :
    ∃ given ∈ values, given.2.isNull = false ∧ given.1 ∉ signature.names ∧
      signature.encode values = .error ⟨signature.method, .unsupportedArgument given.1⟩ := by
  cases found : values.find? fun given =>
      !signature.names.contains given.1 && !given.2.isNull with
  | none =>
    refine absurd (fun given member set => ?_) undeclared
    have accepted := List.find?_eq_none.mp found given member
    simpa [set] using accepted
  | some given =>
    have refused := List.find?_some
      (p := fun given : String × Argument => !signature.names.contains given.1 && !given.2.isNull)
      found
    simp only [Bool.and_eq_true, Bool.not_eq_true', List.contains_eq_mem,
      decide_eq_false_iff_not] at refused
    refine ⟨given, List.mem_of_find?_eq_some found, refused.2, refused.1, ?_⟩
    rw [encode, found]

/-- The check of the names is passed when every set name is declared. -/
theorem encode_of_declares {signature : Signature} {values : List (String × Argument)}
    (declared : signature.Declares values) :
    signature.encode values =
      if signature.exactlyOneOf ≠ [] ∧ (signature.supplied values).length ≠ 1 then
        .error ⟨signature.method,
          .conflict signature.exactlyOneOf (signature.supplied values)⟩
      else
        Encoding.elide signature.method signature.slots
          (signature.names.map fun name => Value.memberOrNull name values) := by
  have accepted : (values.find? fun given =>
      !signature.names.contains given.1 && !given.2.isNull) = none := by
    rw [List.find?_eq_none]
    intro given member
    cases set : given.2.isNull with
    | true => simp
    | false => simpa using declared given member set
  rw [encode, accepted]

/-- What encoded arguments have passed. -/
theorem encode_eq_ok_iff {signature : Signature} {values : List (String × Argument)}
    {wire : List Argument} :
    signature.encode values = .ok wire ↔
      signature.Declares values ∧
      (signature.exactlyOneOf ≠ [] → (signature.supplied values).length = 1) ∧
      Encoding.elide signature.method signature.slots
        (signature.names.map fun name => Value.memberOrNull name values) = .ok wire := by
  by_cases declared : signature.Declares values
  swap
  · obtain ⟨given, _, _, _, refused⟩ := encode_of_not_declares declared
    simp only [refused, reduceCtorEq, declared, false_and]
  rw [encode_of_declares declared, and_iff_right declared]
  split_ifs with conflict
  · simp only [false_iff, not_and]
    exact fun chosen => absurd (chosen conflict.1) conflict.2
  · have chosen : signature.exactlyOneOf ≠ [] → (signature.supplied values).length = 1 := by
      simpa only [not_and, not_not] using conflict
    rw [and_iff_right chosen]

/-- Positional arguments give each slot the value at its place, also when they are looked up by the
names of the slots. -/
theorem pair_eq_map_zip {slots : List Slot} (nodup : (slots.map Slot.name).Nodup)
    (values : List Argument) :
    Encoding.pair slots values = slots.map fun slot =>
      (slot, Value.memberOrNull slot.name ((slots.map Slot.name).zip values)) := by
  induction slots generalizing values with
  | nil => rfl
  | cons slot slots ih =>
    rw [List.map_cons, List.nodup_cons] at nodup
    cases values with
    | nil => simpa only [List.zip_nil_right, List.map_cons, Encoding.pair, Value.memberOrNull,
        List.lookup_nil, Option.getD_none, List.cons.injEq, true_and] using ih nodup.2 []
    | cons value values =>
      simp only [Encoding.pair, ih nodup.2 values, List.map_cons, List.zip_cons_cons,
        Value.memberOrNull, List.lookup_cons_self, Option.getD_some, List.cons.injEq, true_and]
      refine List.map_congr_left fun other member => ?_
      have differs : other.name ≠ slot.name := fun same =>
        nodup.1 (same ▸ List.mem_map_of_mem member)
      simp only [List.lookup_cons, beq_false_of_ne differs]

/-- Looking positional arguments up by the names of their slots does not change their encoding. -/
theorem elide_zip (signature : Signature) {values : List Argument}
    (short : values.length ≤ signature.slots.length) :
    Encoding.elide signature.method signature.slots
        (signature.names.map fun name => Value.memberOrNull name (signature.names.zip values)) =
      Encoding.elide signature.method signature.slots values := by
  rw [names, List.map_map]
  refine Encoding.elide_congr _ (Nat.le_of_eq (List.length_map _)) short ?_
  rw [Encoding.pair_map, pair_eq_map_zip signature.names_nodup values]
  rfl

/-- Positional arguments that are not too many are encoded under the names of their slots. -/
theorem encodePositional_of_short {signature : Signature} {values : List Argument}
    (short : values.length ≤ signature.slots.length) :
    signature.encodePositional values = signature.encode (signature.names.zip values) := by
  rw [encodePositional, if_neg (Nat.not_lt.mpr short)]

theorem declares_zip (signature : Signature) (values : List Argument) :
    signature.Declares (signature.names.zip values) :=
  fun _ member _ => (List.of_mem_zip member).1

end NodeClient.Signature
