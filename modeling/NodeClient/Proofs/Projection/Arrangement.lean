import NodeClient.Binding.Table
import NodeClient.Proofs.Shape.Rearrangement

/-! # Projections of rearranged results

No projection depends on the order of the counters that were read, since it puts them in order
itself: what it reads from a record is the same with all counters in the order of their names.
-/

namespace NodeClient

namespace Raw

variable (raw : Raw) (name : String)

@[simp] theorem member?_sorted : raw.sorted.member? name = (raw.member? name).map sorted := by
  cases raw with
  | record shape members =>
    rw [sorted, sortedMembers_eq, member?, member?]
    induction members with
    | nil => rfl
    | cons member rest ih =>
      rw [List.map_cons, List.lookup_cons, List.lookup_cons]
      cases name == member.1 with
      | true => rfl
      | false => exact ih
  | _ => rfl

@[simp] theorem undeclared_sorted {α : Type} :
    (raw.sorted.undeclared name : Projected α) = raw.undeclared name := by
  cases raw <;> rfl

@[simp] theorem intAt_sorted : raw.sorted.intAt name = raw.intAt name := by
  rw [intAt, intAt, member?_sorted, undeclared_sorted]
  cases raw.member? name with
  | none => rfl
  | some value => cases value <;> rfl

@[simp] theorem boolAt_sorted : raw.sorted.boolAt name = raw.boolAt name := by
  rw [boolAt, boolAt, member?_sorted, undeclared_sorted]
  cases raw.member? name with
  | none => rfl
  | some value => cases value <;> rfl

@[simp] theorem textAt_sorted : raw.sorted.textAt name = raw.textAt name := by
  rw [textAt, textAt, member?_sorted, undeclared_sorted]
  cases raw.member? name with
  | none => rfl
  | some value => cases value <;> rfl

@[simp] theorem textOrNullAt_sorted : raw.sorted.textOrNullAt name = raw.textOrNullAt name := by
  rw [textOrNullAt, textOrNullAt, member?_sorted, undeclared_sorted]
  cases raw.member? name with
  | none => rfl
  | some value => cases value <;> rfl

@[simp] theorem numberAt_sorted : raw.sorted.numberAt name = raw.numberAt name := by
  rw [numberAt, numberAt, member?_sorted, undeclared_sorted]
  cases raw.member? name with
  | none => rfl
  | some value => cases value <;> rfl

@[simp] theorem numberOrNullAt_sorted : raw.sorted.numberOrNullAt name = raw.numberOrNullAt name := by
  rw [numberOrNullAt, numberOrNullAt, member?_sorted, undeclared_sorted]
  cases raw.member? name with
  | none => rfl
  | some value => cases value <;> rfl

@[simp] theorem itemsAt_sorted :
    raw.sorted.itemsAt name = List.map sorted <$> raw.itemsAt name := by
  rw [itemsAt, itemsAt, member?_sorted, undeclared_sorted]
  cases raw.member? name with
  | none => rfl
  | some value => cases value <;> first | rfl | exact congrArg Except.ok (sortedItems_eq _)

@[simp] theorem intsOf_sorted (items : List Raw) : intsOf (items.map sorted) = intsOf items := by
  induction items with
  | nil => rfl
  | cons item rest ih => cases item <;> simp [sorted, intsOf, ih]

@[simp] theorem textsOf_sorted (items : List Raw) : textsOf (items.map sorted) = textsOf items := by
  induction items with
  | nil => rfl
  | cons item rest ih => cases item <;> simp [sorted, textsOf, ih]

@[simp] theorem intsAt_sorted : raw.sorted.intsAt name = raw.intsAt name := by
  rw [intsAt, intsAt, itemsAt_sorted]
  cases raw.itemsAt name with
  | error failure => rfl
  | ok items => exact congrArg Except.ok (intsOf_sorted items)

@[simp] theorem countsAt_sorted : raw.sorted.countsAt name = raw.countsAt name := by
  rw [countsAt, countsAt, member?_sorted, undeclared_sorted]
  cases raw.member? name with
  | none => rfl
  | some value =>
    cases value with
    | counters entries =>
      exact congrArg Except.ok (List.mergeSort_of_pairwise (pairwise_mergeSort_nameLe entries))
    | _ => rfl

@[simp] theorem recordAt_sorted : raw.sorted.recordAt name = sorted <$> raw.recordAt name := by
  rw [recordAt, recordAt, member?_sorted, undeclared_sorted]
  cases raw.member? name <;> rfl

@[simp] theorem reportedInt_sorted : raw.sorted.reportedInt name = raw.reportedInt name := by
  rw [reportedInt, reportedInt, member?_sorted]
  cases raw.member? name with
  | none => rfl
  | some value => cases value <;> rfl

@[simp] theorem reportedBool_sorted : raw.sorted.reportedBool name = raw.reportedBool name := by
  rw [reportedBool, reportedBool, member?_sorted]
  cases raw.member? name with
  | none => rfl
  | some value => cases value <;> rfl

@[simp] theorem reportedText_sorted : raw.sorted.reportedText name = raw.reportedText name := by
  rw [reportedText, reportedText, member?_sorted]
  cases raw.member? name with
  | none => rfl
  | some value => cases value <;> rfl

@[simp] theorem reportedTexts_sorted : raw.sorted.reportedTexts name = raw.reportedTexts name := by
  rw [reportedTexts, reportedTexts, member?_sorted]
  cases raw.member? name with
  | none => rfl
  | some value => cases value <;> simp [sorted]

end Raw

namespace Projected

theorem each_map {α β γ : Type} {project : β → Projected γ} {convert : α → β} (items : List α) :
    each project (items.map convert) = each (fun item => project (convert item)) items := by
  induction items with
  | nil => rfl
  | cons item rest ih => rw [List.map_cons, each, each, ih]

@[simp] theorem each_sorted {β : Type} {project : Raw → Projected β}
    (same : ∀ raw : Raw, project raw.sorted = project raw) (items : List Raw) :
    each project (items.map Raw.sorted) = each project items := by
  rw [each_map]
  exact congrArg (fun project => each project items) (funext same)

end Projected

@[simp] theorem NetworkReachability.ofRaw_sorted (raw : Raw) : ofRaw raw.sorted = ofRaw raw := by
  simp [ofRaw]

@[simp] theorem LocalAddress.ofRaw_sorted (raw : Raw) : ofRaw raw.sorted = ofRaw raw := by
  simp [ofRaw]

@[simp] theorem NetworkInfo.warningsOf_sorted (raw : Raw) :
    warningsOf raw.sorted = warningsOf raw := by
  rw [warningsOf, warningsOf, Raw.member?_sorted, Raw.undeclared_sorted]
  cases raw.member? "warnings" with
  | none => rfl
  | some value => cases value <;> simp [Raw.sorted]

@[simp] theorem NetworkInfo.ofRaw_sorted (raw : Raw) : ofRaw raw.sorted = ofRaw raw := by
  simp [ofRaw, bind_map_left]

@[simp] theorem UploadTarget.ofRaw_sorted (raw : Raw) : ofRaw raw.sorted = ofRaw raw := by
  simp [ofRaw]

@[simp] theorem NetTotals.ofRaw_sorted (raw : Raw) : ofRaw raw.sorted = ofRaw raw := by
  simp [ofRaw, bind_map_left]

@[simp] theorem ActiveCommand.ofRaw_sorted (raw : Raw) : ofRaw raw.sorted = ofRaw raw := by
  simp [ofRaw]

@[simp] theorem RpcInfo.ofRaw_sorted (raw : Raw) : ofRaw raw.sorted = ofRaw raw := by
  simp [ofRaw, bind_map_left]

@[simp] theorem AddedNode.addressOf_sorted (raw : Raw) : addressOf raw.sorted = addressOf raw := by
  simp [addressOf]

@[simp] theorem AddedNode.ofRaw_sorted (raw : Raw) : ofRaw raw.sorted = ofRaw raw := by
  simp [ofRaw, bind_map_left]

@[simp] theorem NodeAddress.ofRaw_sorted (raw : Raw) : ofRaw raw.sorted = ofRaw raw := by
  simp [ofRaw]

@[simp] theorem BannedSubnet.ofRaw_sorted (raw : Raw) : ofRaw raw.sorted = ofRaw raw := by
  simp [ofRaw]

@[simp] theorem PeerInfo.manualOf_sorted (raw : Raw) : manualOf raw.sorted = manualOf raw := by
  simp [manualOf]

@[simp] theorem PeerInfo.ofRaw_sorted (raw : Raw) : ofRaw raw.sorted = ofRaw raw := by
  simp [ofRaw]

namespace Projection

theorem eachItem_sorted {β : Type} {project : Raw → Projected β}
    (same : ∀ raw : Raw, project raw.sorted = project raw) (raw : Raw) :
    eachItem project raw.sorted = eachItem project raw := by
  cases raw with
  | list items =>
    rw [Raw.sorted, Raw.sortedItems_eq]
    exact Projected.each_sorted same items
  | record shape members =>
    rw [Raw.sorted, Raw.sortedMembers_eq]
    exact Projected.each_map members
  | _ => rfl

/-- No projection but the one that leaves a result as it was sent depends on the order of counters. -/
theorem apply_sorted {projection : Projection} (projects : projection ≠ .asSent) (raw : Raw) :
    projection.apply raw.sorted = projection.apply raw := by
  cases projection with
  | asSent => contradiction
  | _ => simp [apply, eachItem_sorted]

end Projection

end NodeClient
