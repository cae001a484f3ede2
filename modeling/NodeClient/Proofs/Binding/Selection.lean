import NodeClient.Client.Basic
import Mathlib.Data.List.Perm.Basic

/-! # Which binding is selected

A list of bindings is refused exactly when a range is inverted or two of its bindings cover a release
for one operation. In a list that is not refused at most one binding speaks an operation to a
release, so a profile that is built from it, in whatever order, selects this one or none.
-/

namespace NodeClient

namespace Binding

variable {α : Type} {before rest bindings : List (Binding α)} {binding : Binding α}

/-- The range of a binding ends before it starts. -/
def IsInverted (binding : Binding α) : Prop :=
  ∃ last, binding.until? = some last ∧ last < binding.since

/-- Two bindings cover some release for one operation. -/
def Overlaps (first second : Binding α) : Prop :=
  first.operation = second.operation ∧
    ∃ release, first.covers release = true ∧ second.covers release = true

theorem Overlaps.symm {first second : Binding α} (overlaps : first.Overlaps second) :
    second.Overlaps first := by
  obtain ⟨same, release, covers, covers'⟩ := overlaps
  exact ⟨same.symm, release, covers', covers⟩

theorem speaks_eq_true_iff {operation : Operation} {release : Release} :
    binding.speaks operation release = true ↔
      binding.operation = operation ∧ binding.covers release = true := by
  rw [speaks, Bool.and_eq_true, beq_iff_eq]

theorem inverted?_eq_none_iff : binding.inverted? = none ↔ ¬ binding.IsInverted := by
  rw [inverted?, IsInverted]
  cases binding.until? with
  | none => simp
  | some last => simp [Option.filter_eq_none_iff]

theorem clash?_eq_none_iff :
    clash? before binding = none ↔ ∀ other ∈ before, ¬ other.Overlaps binding := by
  rw [clash?, List.find?_eq_none]
  constructor
  · rintro free other listed ⟨same, release, covers, covers'⟩
    apply free release (Release.mem_all release)
    have speaks : other.speaks binding.operation release = true :=
      speaks_eq_true_iff.mpr ⟨same, covers⟩
    rw [Bool.and_eq_true, List.any_eq_true]
    exact ⟨covers', other, listed, speaks⟩
  · intro free release _ clashes
    rw [Bool.and_eq_true, List.any_eq_true] at clashes
    obtain ⟨covers, other, listed, speaks⟩ := clashes
    obtain ⟨same, covers'⟩ := speaks_eq_true_iff.mp speaks
    exact free other listed ⟨same, release, covers', covers⟩

/-- A binding brings no fault when its range is not inverted and none before it overlaps it. -/
theorem fault?_eq_none_iff_free :
    fault? before binding = none ↔
      ¬ binding.IsInverted ∧ ∀ other ∈ before, ¬ other.Overlaps binding := by
  rw [fault?, ← inverted?_eq_none_iff, ← clash?_eq_none_iff]
  cases binding.inverted? with
  | none => simp
  | some last => simp

/-- The bindings that are still to be checked are accepted when none of them is inverted and none
overlaps one before it, be it checked or not. -/
theorem checkFrom_eq_ok_iff :
    checkFrom before rest = .ok () ↔
      (∀ binding ∈ rest, ¬ binding.IsInverted) ∧
        (∀ binding ∈ rest, ∀ other ∈ before, ¬ other.Overlaps binding) ∧
        rest.Pairwise fun first second => ¬ first.Overlaps second := by
  induction rest generalizing before with
  | nil => simp [checkFrom]
  | cons binding rest ih =>
    rw [checkFrom, List.pairwise_cons, List.forall_mem_cons, List.forall_mem_cons]
    cases found : fault? before binding with
    | some fault =>
      have faulty : ¬ (¬ binding.IsInverted ∧ ∀ other ∈ before, ¬ other.Overlaps binding) := by
        rw [← fault?_eq_none_iff_free, found]
        exact Option.some_ne_none fault
      constructor
      · intro accepted
        cases accepted
      · rintro ⟨⟨upright, _⟩, ⟨free, _⟩, _⟩
        exact absurd ⟨upright, free⟩ faulty
    | none =>
      obtain ⟨upright, free⟩ := fault?_eq_none_iff_free.mp found
      simp only [ih, List.mem_append, List.mem_singleton, or_imp, forall_and, forall_eq]
      constructor
      · rintro ⟨others, ⟨earlier, later⟩, pairs⟩
        exact ⟨⟨upright, others⟩, ⟨free, earlier⟩, later, pairs⟩
      · rintro ⟨⟨_, others⟩, ⟨_, earlier⟩, later, pairs⟩
        exact ⟨others, ⟨earlier, later⟩, pairs⟩

theorem check_eq_ok_iff :
    check bindings = .ok () ↔
      (∀ binding ∈ bindings, ¬ binding.IsInverted) ∧
        bindings.Pairwise fun first second => ¬ first.Overlaps second := by
  rw [check, checkFrom_eq_ok_iff]
  simp

/-- No two positions of a list overlap when no earlier one overlaps a later one. -/
theorem pairwise_iff_positions :
    (bindings.Pairwise fun first second => ¬ first.Overlaps second) ↔
      ¬ ∃ i j : Fin bindings.length, i ≠ j ∧ (bindings.get i).Overlaps (bindings.get j) := by
  rw [List.pairwise_iff_getElem]
  constructor
  · rintro apart ⟨i, j, different, overlaps⟩
    have distinct : i.val ≠ j.val := fun same => different (Fin.ext same)
    rcases Nat.lt_or_gt_of_ne distinct with before | after
    · exact apart i j i.isLt j.isLt before overlaps
    · exact apart j i j.isLt i.isLt after overlaps.symm
  · intro apart i j inside inside' before overlaps
    exact apart ⟨⟨i, inside⟩, ⟨j, inside'⟩, Fin.ne_of_lt before, overlaps⟩

/-- A list is refused exactly when a range is inverted or two positions overlap. -/
theorem exists_fault_iff :
    (∃ fault, check bindings = .error fault) ↔
      (∃ binding ∈ bindings, binding.IsInverted) ∨
        ∃ i j : Fin bindings.length, i ≠ j ∧ (bindings.get i).Overlaps (bindings.get j) := by
  have refused : (∃ fault, check bindings = .error fault) ↔ ¬ check bindings = .ok () := by
    cases check bindings <;> simp
  rw [refused, check_eq_ok_iff, pairwise_iff_positions, Classical.not_and_iff_not_or_not,
    Classical.not_not]
  simp only [not_forall, Classical.not_not, exists_prop]

end Binding

namespace Profile

variable {α : Type} {bindings listed : List (Binding α)} {release : Release}
  {operation : Operation} {binding : Binding α}

/-- The last of the bindings that speak the operation to the release counts. -/
theorem binding?_ofBindings :
    (ofBindings release bindings).binding? operation =
      bindings.reverse.find? fun binding => binding.speaks operation release := by
  rw [binding?, ofBindings, ← List.filter_reverse, List.find?_filter]
  congr 1
  funext binding
  rw [Bool.eq_iff_iff, decide_eq_true_iff, Binding.speaks_eq_true_iff, beq_iff_eq, and_comm]

/-- An operation is supported where some binding speaks it. -/
theorem supports_iff_countP_pos :
    (ofBindings release bindings).supports operation = true ↔
      0 < bindings.countP fun binding => binding.speaks operation release := by
  rw [supports, binding?_ofBindings, List.find?_isSome, List.countP_pos_iff]
  simp only [List.mem_reverse]

/-- In a list without overlaps at most one binding speaks an operation to a release. -/
theorem countP_speaks_le_one
    (apart : bindings.Pairwise fun first second => ¬ first.Overlaps second) :
    (bindings.countP fun binding => binding.speaks operation release) ≤ 1 := by
  rw [List.countP_eq_length_filter]
  have speaking : ∀ binding ∈ bindings.filter fun binding => binding.speaks operation release,
      binding.operation = operation ∧ binding.covers release = true := by
    intro binding member
    exact Binding.speaks_eq_true_iff.mp (List.mem_filter.mp member).2
  have still := apart.filter fun binding => binding.speaks operation release
  generalize (bindings.filter fun binding => binding.speaks operation release) = kept
    at speaking still
  match kept with
  | [] => exact Nat.zero_le 1
  | [_] => exact Nat.le_refl 1
  | first :: second :: others =>
    obtain ⟨same, covers⟩ := speaking first (by simp)
    obtain ⟨same', covers'⟩ := speaking second (by simp)
    have overlaps : first.Overlaps second := ⟨same.trans same'.symm, release, covers, covers'⟩
    exact absurd overlaps (List.rel_of_pairwise_cons still (by simp))

/-- Where at most one binding of a list speaks an operation, those that do are the same. -/
theorem eq_of_speaks {other : Binding α}
    (single : (bindings.countP fun binding => binding.speaks operation release) ≤ 1)
    (member : binding ∈ bindings) (speaks : binding.speaks operation release = true)
    (member' : other ∈ bindings) (speaks' : other.speaks operation release = true) :
    binding = other := by
  have kept : binding ∈ bindings.filter fun binding => binding.speaks operation release :=
    List.mem_filter.mpr ⟨member, speaks⟩
  have kept' : other ∈ bindings.filter fun binding => binding.speaks operation release :=
    List.mem_filter.mpr ⟨member', speaks'⟩
  rw [List.countP_eq_length_filter] at single
  generalize (bindings.filter fun binding => binding.speaks operation release) = all
    at single kept kept'
  match all with
  | [] => contradiction
  | [only] => rw [List.mem_singleton.mp kept, List.mem_singleton.mp kept']
  | _ :: _ :: _ => simp at single

/-- The one binding of a list that speaks an operation to a release is the one that is selected. -/
theorem binding_of_speaks
    (single : (bindings.countP fun binding => binding.speaks operation release) ≤ 1)
    (member : binding ∈ bindings) (speaks : binding.speaks operation release = true) :
    (ofBindings release bindings).binding operation = .ok binding := by
  rw [Profile.binding, binding?_ofBindings]
  cases found : bindings.reverse.find? fun binding => binding.speaks operation release with
  | none =>
    have silent := List.find?_eq_none.mp found binding (List.mem_reverse.mpr member)
    exact absurd speaks silent
  | some selected =>
    have listed := List.mem_reverse.mp (List.mem_of_find?_eq_some found)
    have speaks' := List.find?_some found
    rw [eq_of_speaks single listed speaks' member speaks]

/-- Where no binding of a list speaks an operation, the release does not have it. -/
theorem binding_of_silent
    (silent : (bindings.countP fun binding => binding.speaks operation release) = 0) :
    (ofBindings release bindings).binding operation = .error ⟨operation.name, release.text⟩ := by
  rw [List.countP_eq_zero] at silent
  have none : bindings.reverse.find? (fun binding => binding.speaks operation release) = none :=
    List.find?_eq_none.mpr fun binding listed => silent binding (List.mem_reverse.mp listed)
  rw [Profile.binding, binding?_ofBindings, none]
  rfl

end Profile

/-- A list of bindings is refused exactly when one of its ranges is inverted or bindings at two
positions cover a release for one operation. In a list that is not refused, in whatever order it is
given to a profile, an operation is supported exactly when one binding speaks it to the release, and
this binding is selected and projects the results; otherwise there is the error that the release
does not have the operation. -/
theorem Client.project_selected (bindings : List (Binding Dialect)) :
    ((∃ fault, Binding.check bindings = .error fault) ↔
      (∃ binding ∈ bindings, binding.IsInverted) ∨
        ∃ i j : Fin bindings.length, i ≠ j ∧ (bindings.get i).Overlaps (bindings.get j)) ∧
    (Binding.check bindings = .ok () →
      ∀ listed, listed.Perm bindings → ∀ (client : Client) (release : Release),
        client.profile = Profile.ofBindings release listed → ∀ operation,
          (client.profile.supports operation = true ↔
            (bindings.countP fun binding => binding.speaks operation release) = 1) ∧
          (∀ binding ∈ bindings, binding.speaks operation release = true →
            client.profile.binding operation = .ok binding ∧
            ∀ raw, client.project operation raw = Traced.ofExcept
              ((binding.body.projection.apply raw).mapError Failure.ofProjection)) ∧
          ((bindings.countP fun binding => binding.speaks operation release) ≠ 1 →
            client.profile.binding operation = .error ⟨operation.name, release.text⟩ ∧
            ∀ raw, client.project operation raw =
              Traced.fail (.client (.unsupported ⟨operation.name, release.text⟩)))) := by
  refine ⟨Binding.exists_fault_iff, ?_⟩
  intro sound listed perm client release built operation
  obtain ⟨_, apart⟩ := Binding.check_eq_ok_iff.mp sound
  have single : (bindings.countP fun binding => binding.speaks operation release) ≤ 1 :=
    Profile.countP_speaks_le_one apart
  rw [← perm.countP_eq] at single ⊢
  rw [built]
  refine ⟨?_, ?_, ?_⟩
  · rw [Profile.supports_iff_countP_pos]
    omega
  · intro binding member speaks
    have selected := Profile.binding_of_speaks single (perm.mem_iff.mpr member) speaks
    refine ⟨selected, fun raw => ?_⟩
    rw [Client.project, built, selected]
  · intro other
    have none : (listed.countP fun binding => binding.speaks operation release) = 0 := by
      omega
    have silent := Profile.binding_of_silent none
    refine ⟨silent, fun raw => ?_⟩
    rw [Client.project, built, silent]

/-- The two ranges of the table for added nodes, given to a profile the other way round: release 26
selects the second of them, and has no pings. The first of them twice is refused. -/
theorem Client.project_selected_addNode :
    let early := Binding.entry .addNode .v17 (some .v25) Binding.addNodeSignature .null .asSent
    let late := Binding.entry .addNode .v26 none Binding.addNodeTransportSignature .null .asSent
    let transport : Transport := ⟨"http://127.0.0.1:8332", none, .null, .null, true⟩
    let client : Client := ⟨Profile.ofBindings .v26 [late, early], transport, true⟩
    (∃ fault, Binding.check [early, early] = .error fault) ∧
      Binding.check [early, late] = .ok () ∧
      client.profile.binding .addNode = .ok late ∧
      client.project .addNode .null = Traced.ofExcept (.ok (.asSent .null)) ∧
      client.profile.supports .ping = false ∧
      client.project .ping .null = Traced.fail (.client (.unsupported ⟨"ping", "v26"⟩)) := by
  intro early late transport client
  have sound : Binding.check [early, late] = .ok () := by rfl
  have perm : [late, early].Perm [early, late] := List.Perm.swap early late []
  have overlaps : early.Overlaps early := ⟨rfl, .v17, rfl, rfl⟩
  obtain ⟨_, accepted⟩ := project_selected [early, late]
  obtain ⟨_, selected, _⟩ := accepted sound _ perm client .v26 rfl .addNode
  obtain ⟨bound, projected⟩ := selected late (by simp) (by rfl)
  obtain ⟨supported, _, unbound⟩ := accepted sound _ perm client .v26 rfl .ping
  refine ⟨?_, sound, bound, projected .null, ?_, (unbound (by decide)).2 .null⟩
  · exact (project_selected [early, early]).1.mpr
      (.inr ⟨⟨0, by decide⟩, ⟨1, by decide⟩, by decide, overlaps⟩)
  · rw [Bool.eq_false_iff, Ne, supported]
    decide

end NodeClient
