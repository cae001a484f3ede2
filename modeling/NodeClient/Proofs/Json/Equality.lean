import NodeClient.Json.Equality
import Mathlib.Data.List.Nodup

/-! # When a value equals itself

Loose equality is not reflexive: not-a-number equals nothing, and a member that an earlier one of the
same name hides is never compared with itself. Values whose objects name each member once equal
themselves unless they are not-a-number; inside a list or an object that is matched all the same.
-/

namespace NodeClient

theorem Binary64.sameValue_self {number : Binary64} (known : number ≠ .nan) :
    number.sameValue number = true := by
  cases number with
  | nan => contradiction
  | infinite negative => exact beq_self_eq_true negative
  | finite negative significand exponent => simp [sameValue]

namespace Value

variable {κ : Type}

mutual

/-- Whether every object in a value names each member once, as readers leave them. -/
def NamesDistinct : Value κ → Prop
  | .arr items => ItemsDistinct items
  | .obj members => (members.map Prod.fst).Nodup ∧ MembersDistinct members
  | _ => True

def ItemsDistinct : List (Value κ) → Prop
  | [] => True
  | item :: rest => item.NamesDistinct ∧ ItemsDistinct rest

def MembersDistinct : List (String × Value κ) → Prop
  | [] => True
  | (_, value) :: rest => value.NamesDistinct ∧ MembersDistinct rest

end

theorem lookup_eq_some_of_nodup {members : List (String × Value κ)}
    (nodup : (members.map Prod.fst).Nodup) {member : String × Value κ} (present : member ∈ members) :
    members.lookup member.1 = some member.2 := by
  induction members with
  | nil => contradiction
  | cons first rest ih =>
    rw [List.map_cons, List.nodup_cons] at nodup
    rcases List.mem_cons.mp present with rfl | later
    · exact List.lookup_cons_self
    · have other : member.1 ≠ first.1 := by
        intro same
        exact nodup.1 (same ▸ List.mem_map_of_mem later)
      rw [List.lookup_cons, beq_false_of_ne other]
      exact ih nodup.2 later

/-- What is found under a name does not depend on the order of the members. -/
theorem member?_eq_of_perm {members others : List (String × Value κ)}
    (distinct : (members.map Prod.fst).Nodup) (perm : members.Perm others) (name : String) :
    member? name members = member? name others := by
  cases found : member? name others with
  | some value =>
    obtain ⟨before, after, rfl, _⟩ := List.lookup_eq_some_iff.mp found
    have listed : (name, value) ∈ members := perm.mem_iff.mpr (by simp)
    exact lookup_eq_some_of_nodup distinct listed
  | none =>
    rw [member?, List.lookup_eq_none_iff] at found ⊢
    exact fun member listed => found member (perm.mem_iff.mp listed)

theorem namesDistinct_of_item {items : List (Value κ)} (distinct : ItemsDistinct items)
    {item : Value κ} (listed : item ∈ items) : item.NamesDistinct := by
  induction items with
  | nil => contradiction
  | cons first rest ih =>
    rcases List.mem_cons.mp listed with rfl | later
    · exact distinct.1
    · exact ih distinct.2 later

theorem namesDistinct_of_member {members : List (String × Value κ)}
    (distinct : MembersDistinct members) {member : String × Value κ} (listed : member ∈ members) :
    member.2.NamesDistinct := by
  induction members with
  | nil => contradiction
  | cons first rest ih =>
    rcases List.mem_cons.mp listed with rfl | later
    · exact distinct.1
    · exact ih distinct.2 later

private theorem bothNan_or_ne (value : Value κ) :
    bothNan value value = true ∨ value ≠ .float .nan := by
  by_cases nan : value = .float .nan
  · subst nan
    exact .inl rfl
  · exact .inr nan

variable [Constant κ]

mutual

/-- A value with distinct names equals itself unless it is not-a-number. -/
theorem equals_self : ∀ value : Value κ, value.NamesDistinct → value ≠ .float .nan →
    equals value value = true
  | .null, _, _ => rfl
  | .bool value, _, _ => by simp [equals, scalarEquals, asInt?]
  | .int value, _, _ => by simp [equals, scalarEquals, asInt?]
  | .float _, _, known => Binary64.sameValue_self fun nan => known (congrArg Value.float nan)
  | .str value, _, _ => by simp [equals, scalarEquals, asInt?, asText?]
  | .const value, _, _ => by
    cases meaning : Constant.meaning value <;>
      simp [equals, scalarEquals, asInt?, asText?, sameConstant, Meaning.isOther, meaning,
        Constant.same_self]
  | .arr items, distinct, _ => itemsEqual_self items distinct
  | .obj members, distinct, _ => by
    rw [equals, beq_self_eq_true, Bool.true_and]
    exact membersEqual_of_lookup members members distinct.2
      fun member present => lookup_eq_some_of_nodup distinct.1 present

theorem itemsEqual_self : ∀ items : List (Value κ), ItemsDistinct items →
    itemsEqual items items = true
  | [], _ => rfl
  | item :: rest, distinct => by
    rw [itemsEqual, itemsEqual_self rest distinct.2, Bool.and_true, Bool.or_eq_true]
    exact (bothNan_or_ne item).imp_right (equals_self item distinct.1)

theorem membersEqual_of_lookup : ∀ lefts rights : List (String × Value κ), MembersDistinct lefts →
    (∀ member ∈ lefts, rights.lookup member.1 = some member.2) → membersEqual lefts rights = true
  | [], _, _, _ => rfl
  | (name, value) :: rest, rights, distinct, found => by
    rw [membersEqual, found _ (List.mem_cons_self ..), Bool.and_eq_true, Bool.or_eq_true]
    exact ⟨(bothNan_or_ne value).imp_right (equals_self value distinct.1),
      membersEqual_of_lookup rest rights distinct.2
        fun member present => found member (List.mem_cons_of_mem _ present)⟩

end

end Value

end NodeClient
