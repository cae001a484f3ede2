import NodeClient.Projection.Basic
import Mathlib.Data.List.Forall2
import Mathlib.Tactic.SplitIfs

/-! # Outcomes of projections

A projection meets a condition when its value has it, if there is one, and when it does not fail for
want of a member. Both go through the steps of a projection: the condition is left to the last step,
and no step before it may miss a member.
-/

namespace NodeClient

namespace Projected

variable {α β : Type}

/-- No member is reported as missing. -/
def Complete (projected : Projected α) : Prop :=
  ∀ operation field, projected ≠ .error (.refused ⟨operation, .missing field⟩)

/-- The value has a property, and no member is reported as missing. -/
structure Meets (projected : Projected α) (property : α → Prop) : Prop where
  complete : projected.Complete
  value : ∀ value, projected = .ok value → property value

@[simp] theorem complete_ok (value : α) : Complete (.ok value) :=
  fun _ _ failure => nomatch failure

@[simp] theorem complete_refuse (operation field : String) (fault : FieldFault) :
    (refuse operation field fault : Projected α).Complete :=
  fun _ _ failure => nomatch failure

@[simp] theorem complete_refuseNumber (operation field : String) (number : Quantity)
    (fault : FieldFault) : (refuseNumber operation field number fault : Projected α).Complete := by
  rw [refuseNumber]
  split
  · exact fun _ _ failure => nomatch failure
  · exact complete_refuse operation field fault

@[simp] theorem complete_undeclared (raw : Raw) (name : String) :
    (raw.undeclared name : Projected α).Complete :=
  fun _ _ failure => nomatch failure

theorem Complete.map {projected : Projected α} (complete : projected.Complete) (f : α → β) :
    Complete (projected.map f) := by
  intro operation field failure
  cases projected with
  | error cause => exact complete operation field (congrArg Except.error (Except.error.inj failure))
  | ok value => exact nomatch failure

theorem Complete.bind {projected : Projected α} {next : α → Projected β}
    (complete : projected.Complete) (others : ∀ value, (next value).Complete) :
    Complete (projected >>= next) := by
  intro operation field failure
  cases projected with
  | error cause => exact complete operation field (congrArg Except.error (Except.error.inj failure))
  | ok value => exact others value operation field failure

theorem Meets.of_ok {property : α → Prop} {value : α} (holds : property value) :
    Meets (.ok value) property :=
  ⟨complete_ok value, fun _ same => Except.ok.inj same ▸ holds⟩

theorem refuseNumber_ne_ok (operation field : String) (number : Quantity) (fault : FieldFault)
    (value : α) : refuseNumber operation field number fault ≠ .ok value := by
  rw [refuseNumber]
  split_ifs <;> exact nofun

theorem Meets.of_refuseNumber {property : α → Prop} (operation field : String) (number : Quantity)
    (fault : FieldFault) :
    (refuseNumber operation field number fault : Projected α).Meets property := by
  exact ⟨complete_refuseNumber operation field number fault,
    fun value success => absurd success (refuseNumber_ne_ok operation field number fault value)⟩

theorem Meets.mono {projected : Projected α} {property weaker : α → Prop}
    (meets : projected.Meets property) (implies : ∀ value, property value → weaker value) :
    projected.Meets weaker :=
  ⟨meets.complete, fun value success => implies value (meets.value value success)⟩

/-- The last step decides what the value is. -/
theorem Meets.bind {projected : Projected α} {next : α → Projected β} {property : β → Prop}
    (complete : projected.Complete) (last : ∀ value, (next value).Meets property) :
    Meets (projected >>= next) property := by
  refine ⟨complete.bind fun value => (last value).complete, fun result success => ?_⟩
  cases projected with
  | error cause => exact nomatch success
  | ok value => exact (last value).value result success

theorem Meets.map {projected : Projected α} {f : α → β} {property : β → Prop}
    (meets : projected.Meets fun value => property (f value)) :
    Meets (projected.map f) property := by
  refine ⟨meets.complete.map f, fun result success => ?_⟩
  cases projected with
  | error cause => exact nomatch success
  | ok value => exact Except.ok.inj success ▸ meets.value value rfl

theorem complete_each {project : α → Projected β} {items : List α}
    (complete : ∀ item ∈ items, (project item).Complete) : (each project items).Complete := by
  induction items with
  | nil => exact complete_ok []
  | cons item rest ih =>
    have others := ih fun other member => complete other (List.mem_cons_of_mem _ member)
    exact (complete item List.mem_cons_self).bind fun _ => others.bind fun _ => complete_ok _

/-- When every item meets what its source asks for, so does the list, item by item. -/
theorem meets_each {γ : Type} {related : γ → α → Prop} {property : γ → β → Prop}
    {project : α → Projected β} {sources : List γ} {items : List α}
    (sourced : List.Forall₂ related sources items)
    (meets : ∀ source item, related source item → (project item).Meets (property source)) :
    (each project items).Meets (List.Forall₂ property sources) := by
  induction sourced with
  | nil => exact .of_ok .nil
  | @cons source item sources items first _ ih =>
    have head := meets source item first
    refine ⟨head.complete.bind fun _ => ih.complete.bind fun _ => complete_ok _, ?_⟩
    intro result success
    rw [each] at success
    cases projected : project item with
    | error cause => exact nomatch (projected ▸ success)
    | ok value =>
      cases rest : each project items with
      | error cause => exact nomatch (rest ▸ projected ▸ success)
      | ok others =>
        rw [projected, rest] at success
        rw [← Except.ok.inj success]
        exact .cons (head.value value projected) (ih.value others rest)

@[simp] theorem complete_address (operation field text : String) :
    (address operation field text).Complete := by
  rw [address]
  split <;> first | exact complete_ok _ | exact fun _ _ failure => nomatch failure

@[simp] theorem complete_addressOrNull (operation field : String) (text? : Option String) :
    (addressOrNull operation field text?).Complete := by
  cases text? with
  | none => exact complete_ok none
  | some text => exact (complete_address operation field text).map some

@[simp] theorem complete_instant (operation field : String) (seconds : Quantity) :
    (instant operation field seconds).Complete := by
  rw [instant]
  split <;> simp only [complete_ok, complete_refuseNumber]

@[simp] theorem complete_satoshis (operation field : String) (amount : Quantity) :
    (satoshis operation field amount).Complete := by
  rw [satoshis]
  split
  · exact fun _ _ failure => nomatch failure
  · split <;> simp only [complete_ok, complete_refuse]

@[simp] theorem complete_subnet (operation field text : String) :
    (subnet operation field text).Complete := by
  rw [subnet]
  split <;> simp only [complete_ok, complete_refuse]

end Projected

namespace Raw

open Projected

variable (raw : Raw) (name : String)

@[simp] theorem complete_intAt : (raw.intAt name).Complete := by
  rw [intAt]
  split <;> simp only [complete_ok, complete_undeclared]

@[simp] theorem complete_boolAt : (raw.boolAt name).Complete := by
  rw [boolAt]
  split <;> simp only [complete_ok, complete_undeclared]

@[simp] theorem complete_textAt : (raw.textAt name).Complete := by
  rw [textAt]
  split <;> simp only [complete_ok, complete_undeclared]

@[simp] theorem complete_textOrNullAt : (raw.textOrNullAt name).Complete := by
  rw [textOrNullAt]
  split <;> simp only [complete_ok, complete_undeclared]

@[simp] theorem complete_numberAt : (raw.numberAt name).Complete := by
  rw [numberAt]
  split <;> simp only [complete_ok, complete_undeclared]

@[simp] theorem complete_numberOrNullAt : (raw.numberOrNullAt name).Complete := by
  rw [numberOrNullAt]
  split <;> simp only [complete_ok, complete_undeclared]

@[simp] theorem complete_itemsAt : (raw.itemsAt name).Complete := by
  rw [itemsAt]
  split <;> simp only [complete_ok, complete_undeclared]

@[simp] theorem complete_intsAt : (raw.intsAt name).Complete :=
  (raw.complete_itemsAt name).map intsOf

@[simp] theorem complete_countsAt : (raw.countsAt name).Complete := by
  rw [countsAt]
  split <;> simp only [complete_ok, complete_undeclared]

@[simp] theorem complete_recordAt : (raw.recordAt name).Complete := by
  rw [recordAt]
  split <;> simp only [complete_ok, complete_undeclared]

end Raw

end NodeClient
