import NodeClient.Proofs.Json.Members
import NodeClient.Settings.Layer

/-! # Members of an object laid over another

Under each name the object laid over another has the upper member, merged with the lower one if both
are objects, or else the lower member. An upper value that is no object stands as it is, so whoever
takes no objects finds the upper member, and the lower one where there is none.
-/

namespace NodeClient.Settings

variable {name : String} {upper lower : List (String × Json)}

theorem overlayValue_obj (upper : List (String × Json)) (below : Option Json) :
    ∃ members, overlayValue (.obj upper) below = .obj members := by
  rw [overlayValue.eq_def]
  dsimp only
  split <;> exact ⟨_, rfl⟩

theorem overlayValue_of_ne_obj {value : Json} (other : ∀ members, value ≠ .obj members)
    (below : Option Json) : overlayValue value below = value := by
  cases value with
  | obj members => exact absurd rfl (other members)
  | const value => exact nomatch value
  | _ => rfl

theorem overlay_cons (key : String) (value : Json) (rest lower : List (String × Json)) :
    overlay ((key, value) :: rest) lower =
      overlay rest (Value.setMember key (overlayValue value (Value.member? key lower)) lower) :=
  rfl

theorem overlayValue_none (value : Json) : overlayValue value none = value := by
  cases value with
  | const value => cases value
  | _ => rfl

/-- Members of other names are put behind those that are there. -/
theorem overlay_of_disjoint (distinct : ((lower ++ upper).map Prod.fst).Nodup) :
    overlay upper lower = lower ++ upper := by
  induction upper generalizing lower with
  | nil => rw [overlay, List.append_nil]
  | cons first rest ih =>
    obtain ⟨key, value⟩ := first
    have fresh : key ∉ lower.map Prod.fst := by
      rw [List.map_append, List.nodup_append] at distinct
      exact fun listed => distinct.2.2 key listed key List.mem_cons_self rfl
    rw [List.append_cons] at distinct ⊢
    rw [overlay_cons, Value.member?_eq_none_iff.mpr fresh, overlayValue_none,
      Value.setMember_of_notMem fresh, ih distinct]

/-- An object laid over the empty one is left as it is. -/
theorem overlay_nil (distinct : (upper.map Prod.fst).Nodup) : overlay upper [] = upper :=
  overlay_of_disjoint distinct

/-- What stands under a name where an object lies over another. -/
theorem member?_overlay (distinct : (upper.map Prod.fst).Nodup) :
    Value.member? name (overlay upper lower) =
      ((Value.member? name upper).map fun value =>
        overlayValue value (Value.member? name lower)).or (Value.member? name lower) := by
  induction upper generalizing lower with
  | nil => rfl
  | cons first rest ih =>
    obtain ⟨key, value⟩ := first
    rw [List.map_cons, List.nodup_cons] at distinct
    rw [overlay_cons, ih distinct.2]
    by_cases same : name = key
    · subst same
      rw [Value.member?_eq_none_iff.mpr distinct.1, Value.member?_setMember_self, Value.member?,
        Value.member?, List.lookup_cons_self]
      rfl
    · rw [Value.member?_setMember_of_ne same, Value.member?, Value.member?, Value.member?,
        List.lookup_cons, beq_false_of_ne same]

/-- A condition that no object meets is met by the member of the merged object exactly when it is met
by the upper member, or by the lower one where the upper object has none. -/
theorem iff_of_overlay (accepts : Option Json → Prop)
    (scalar : ∀ members, ¬ accepts (some (.obj members)))
    (distinct : (upper.map Prod.fst).Nodup) (name : String) :
    accepts (Value.member? name (overlay upper lower)) ↔
      accepts ((Value.member? name upper).or (Value.member? name lower)) := by
  rw [member?_overlay distinct]
  cases Value.member? name upper with
  | none => rfl
  | some value =>
    rw [Option.map_some, Option.some_or, Option.some_or]
    by_cases object : ∃ members, value = .obj members
    · obtain ⟨members, rfl⟩ := object
      obtain ⟨merged, overlaid⟩ := overlayValue_obj members (Value.member? name lower)
      rw [overlaid]
      exact iff_of_false (scalar merged) (scalar members)
    · rw [overlayValue_of_ne_obj (not_exists.mp object)]

end NodeClient.Settings
