import NodeClient.Json.Value
import Mathlib.Data.List.Nodup
import Mathlib.Tactic.SplitIfs

/-! # Members that were set

Setting a member changes what is found under its name, and nothing else. An object that names each
member once does so afterwards. Where a member may be absent, its absence counts as null.
-/

namespace NodeClient.Value

variable {κ : Type} {name other : String} {value : Value κ} {members : List (String × Value κ)}

theorem member?_setMember_self : member? name (setMember name value members) = some value := by
  induction members with
  | nil => simp only [member?, setMember, List.lookup_cons_self]
  | cons first rest ih =>
    obtain ⟨key, old⟩ := first
    rw [setMember]
    split_ifs with same
    · rw [same, member?, List.lookup_cons_self]
    · rw [member?, List.lookup_cons, beq_false_of_ne (Ne.symm same)]
      exact ih

theorem member?_setMember_of_ne (different : other ≠ name) :
    member? other (setMember name value members) = member? other members := by
  induction members with
  | nil => simp only [member?, setMember, List.lookup_cons, beq_false_of_ne different]
  | cons first rest ih =>
    obtain ⟨key, old⟩ := first
    rw [setMember]
    split_ifs with same
    · rw [member?, member?, List.lookup_cons, List.lookup_cons, same, beq_false_of_ne different]
    · rw [member?, member?, List.lookup_cons, List.lookup_cons]
      cases other == key with
      | true => rfl
      | false => exact ih

theorem memberOrNull_setMember_of_ne (different : other ≠ name) :
    memberOrNull other (setMember name value members) = memberOrNull other members := by
  have same : member? other (setMember name value members) = member? other members :=
    member?_setMember_of_ne different
  exact congrArg (fun found : Option (Value κ) => found.getD .null) same

/-- A member of a new name is added at the end. -/
theorem setMember_of_notMem (fresh : name ∉ members.map Prod.fst) (value : Value κ) :
    setMember name value members = members ++ [(name, value)] := by
  induction members with
  | nil => rfl
  | cons first rest ih =>
    obtain ⟨key, old⟩ := first
    rw [List.map_cons, List.mem_cons, not_or] at fresh
    rw [setMember, if_neg (Ne.symm fresh.1), ih fresh.2, List.cons_append]

/-- Setting a member to what it is changes nothing. -/
theorem setMember_of_member? (found : member? name members = some value) :
    setMember name value members = members := by
  induction members with
  | nil => exact nomatch found
  | cons first rest ih =>
    obtain ⟨key, old⟩ := first
    rw [setMember]
    split_ifs with same
    · rw [member?, same, List.lookup_cons_self] at found
      rw [Option.some.inj found]
    · rw [member?, List.lookup_cons, beq_false_of_ne (Ne.symm same)] at found
      rw [ih found]

/-- Setting a member adds its name to those that are there. -/
theorem mem_names_setMember :
    other ∈ (setMember name value members).map Prod.fst ↔
      other = name ∨ other ∈ members.map Prod.fst := by
  induction members with
  | nil => simp only [setMember, List.map_cons, List.map_nil, List.mem_singleton, List.not_mem_nil,
      or_false]
  | cons first rest ih =>
    obtain ⟨key, old⟩ := first
    rw [setMember]
    split_ifs with same
    · simp only [same, List.map_cons, List.mem_cons, or_self_left]
    · rw [List.map_cons, List.map_cons, List.mem_cons, List.mem_cons, ih, or_left_comm]

/-- Setting a member of an object that names each member once leaves it so. -/
theorem nodup_setMember (name : String) (value : Value κ)
    (distinct : (members.map Prod.fst).Nodup) :
    ((setMember name value members).map Prod.fst).Nodup := by
  induction members with
  | nil => exact List.nodup_singleton name
  | cons first rest ih =>
    obtain ⟨key, old⟩ := first
    rw [List.map_cons, List.nodup_cons] at distinct
    rw [setMember]
    split_ifs with same
    · exact List.nodup_cons.mpr distinct
    · refine List.nodup_cons.mpr ⟨?_, ih distinct.2⟩
      rw [mem_names_setMember, not_or]
      exact ⟨same, distinct.1⟩

theorem member?_eq_none_iff : member? name members = none ↔ name ∉ members.map Prod.fst := by
  induction members with
  | nil => simp only [member?, List.lookup_nil, List.map_nil, List.not_mem_nil, not_false_eq_true]
  | cons first rest ih =>
    obtain ⟨key, old⟩ := first
    by_cases same : name = key
    · simp [member?, same]
    · rw [List.map_cons, List.mem_cons, not_or, and_iff_right same, ← ih, member?, member?,
        List.lookup_cons, beq_false_of_ne same]

theorem isSome_member?_iff : (member? name members).isSome = true ↔ name ∈ members.map Prod.fst := by
  rw [← Option.ne_none_iff_isSome, ne_eq, member?_eq_none_iff, not_not]

theorem isNull_iff : value.isNull = true ↔ value = .null := by
  cases value <;> simp [isNull]

theorem memberOrNull_of_member? (found : member? name members = some value) :
    memberOrNull name members = value := by
  rw [memberOrNull, ← member?, found, Option.getD_some]

/-- A member that does not count as null is there. -/
theorem member?_of_memberOrNull (stated : memberOrNull name members = value)
    (present : value ≠ .null) : member? name members = some value := by
  rw [memberOrNull, ← member?] at stated
  cases found : member? name members with
  | none => exact absurd (by rw [← stated, found, Option.getD_none]) present
  | some other => rw [← stated, found, Option.getD_some]

/-- What holds of null holds of a member, absent or not, exactly when it holds of the value that is
there. -/
theorem memberOrNull_iff (holds : Value κ → Prop) (null : holds .null) :
    holds (memberOrNull name members) ↔
      ∀ value, member? name members = some value → holds value := by
  rw [memberOrNull, ← member?]
  cases member? name members with
  | none => simpa using null
  | some value => simp

theorem memberOrNull_cons (name key : String) (value : Value κ) (members : List (String × Value κ)) :
    memberOrNull name ((key, value) :: members) =
      if name = key then value else memberOrNull name members := by
  rw [memberOrNull, List.lookup_cons]
  split_ifs with same
  · rw [beq_iff_eq.mpr same, Option.getD_some]
  · rw [beq_false_of_ne same]
    rfl

theorem memberOrNull_of_notMem (absent : name ∉ members.map Prod.fst) :
    memberOrNull name members = .null := by
  rw [memberOrNull, ← member?, member?_eq_none_iff.mpr absent, Option.getD_none]

/-- Leaving out the members that are null does not change what is found, where null counts as
absence. -/
theorem memberOrNull_filter_isNull (distinct : (members.map Prod.fst).Nodup) (name : String) :
    memberOrNull name (members.filter fun member => !member.2.isNull) =
      memberOrNull name members := by
  induction members with
  | nil => rfl
  | cons first rest ih =>
    obtain ⟨key, value⟩ := first
    rw [List.map_cons, List.nodup_cons] at distinct
    rw [memberOrNull_cons]
    cases null : value.isNull with
    | true =>
      rw [List.filter_cons_of_neg (by simp [null]), ih distinct.2]
      split_ifs with same
      · -- The name is that of the null in front, so it stands nowhere behind it.
        rw [same, memberOrNull_of_notMem distinct.1, isNull_iff.mp null]
      · rfl
    | false =>
      rw [List.filter_cons_of_pos (by simp [null]), memberOrNull_cons, ih distinct.2]

/-- Null for further names does not change what is found, where null counts as absence. -/
theorem memberOrNull_zip_append_null (names : List String) (values : List (Value κ)) (count : Nat)
    (name : String) :
    memberOrNull name (names.zip (values ++ List.replicate count .null)) =
      memberOrNull name (names.zip values) := by
  induction names generalizing values count with
  | nil => rfl
  | cons first rest ih =>
    cases values with
    | cons value values =>
      rw [List.cons_append, List.zip_cons_cons, List.zip_cons_cons, memberOrNull_cons,
        memberOrNull_cons, ih]
    | nil =>
      cases count with
      | zero => rfl
      | succ count =>
        have others := ih [] count
        rw [List.nil_append, List.zip_nil_right] at others
        rw [List.nil_append, List.zip_nil_right, List.replicate_succ, List.zip_cons_cons,
          memberOrNull_cons, others]
        split_ifs <;> rfl

end NodeClient.Value
