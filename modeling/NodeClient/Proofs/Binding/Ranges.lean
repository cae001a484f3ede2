import NodeClient.Proofs.Binding.Table
import NodeClient.Proofs.Shape.Answers

/-! # How the members of results change

From one release to another a result gains members and loses others. Every member is reported in a
range of releases; where each range that holds one release holds another one as well, the members of
the first are members of the second. Some members are reported in every release.
-/

namespace NodeClient

/-- A release lies in every range that another one lies in, of those that begin with some releases
and those that end with others. -/
structure Release.Covers (starts ends : List Release) (older newer : Release) : Prop where
  starts : ∀ first ∈ starts, first ≤ older → first ≤ newer
  ends : ∀ last ∈ ends, older ≤ last → newer ≤ last

theorem Release.le_trans {first second third : Release} (lower : first ≤ second)
    (upper : second ≤ third) : first ≤ third :=
  Nat.le_trans lower upper

theorem Release.le_v20_of_not {release : Release} (early : ¬ .v21 ≤ release) : release ≤ .v20 := by
  cases release <;> first | decide | exact absurd (by decide) early

theorem Release.not_le_of_le_v20 {release : Release} (early : release ≤ .v20) : ¬ .v21 ≤ release :=
  fun modern => absurd (le_trans modern early) (by decide)

/-- Between two releases between which no range ends, every range is kept. -/
theorem Release.Covers.of_between {starts ends : List Release} {first last older newer : Release}
    (unbroken : ∀ stop ∈ ends, last ≤ stop ∨ ¬ first ≤ stop) (since : first ≤ older)
    (le : older ≤ newer) (til : newer ≤ last) : Covers starts ends older newer := by
  refine ⟨fun start _ begun => le_trans begun le, fun stop listed within => ?_⟩
  rcases unbroken stop listed with far | near
  · exact le_trans til far
  · exact absurd (le_trans since within) near

namespace Shape

variable {older newer : Release}

theorem ite_subset {status status' : Prop} [Decidable status] [Decidable status']
    (implies : status → status') (fields : List Field) :
    (if status then fields else []) ⊆ if status' then fields else [] := by
  by_cases holds : status
  · rw [if_pos holds, if_pos (implies holds)]
    exact List.Subset.refl _
  · rw [if_neg holds]
    exact List.nil_subset _

theorem append_subset_append {first first' second second' : List Field} (left : first ⊆ first')
    (right : second ⊆ second') : first ++ second ⊆ first' ++ second' :=
  List.append_subset.mpr ⟨List.subset_append_of_subset_left _ left,
    List.subset_append_of_subset_right _ right⟩

/-- Members of a result by release: none of them is declared twice, and some are declared in every
release. -/
structure Versions (core : List Field) (fieldsOf : Release → List Field) : Prop where
  distinct : ∀ release, ((fieldsOf release).map FieldOf.name).Nodup
  includes : ∀ release, core ⊆ fieldsOf release

/-- Records of two releases share the members of every release, if their objects hold the same for
these. -/
theorem Versions.shares {core : List Field} {fieldsOf : Release → List Field}
    {members members' : List (String × Json)} {rows rows' : List (String × Raw)}
    (versions : Versions core fieldsOf) (name name' : String)
    (alike : ∀ field ∈ core, readMember field members' = readMember field members)
    (success : readFields (fieldsOf newer) members = .ok rows)
    (success' : readFields (fieldsOf older) members' = .ok rows') :
    Raw.Shares members core (.record name rows) (.record name' rows') :=
  Raw.shares_of_readFields alike (versions.distinct newer) (versions.distinct older)
    (versions.includes newer) (versions.includes older) success success'

/-- Members of the network information that every release reads alike: all but the warnings. -/
def networkCoreFields : List Field := (networkInfoFields .text).dropLast

theorem networkVersions : Versions networkCoreFields networkFieldsOf where
  distinct release := by cases release <;> decide
  includes release := by
    have core : ∀ kind, networkCoreFields = (networkInfoFields kind).dropLast := fun _ => rfl
    rw [core (if .v28 ≤ release then .list .text else .text), networkFieldsOf]
    exact List.subset_append_of_subset_left _ (List.subset_append_of_subset_left _
      (List.dropLast_subset _))

theorem peerVersions : Versions peerCoreFields peerFieldsOf where
  distinct release := by cases release <;> decide
  includes release := by
    intro field listed
    simp only [peerFieldsOf, List.mem_append, listed, true_or, or_true]

theorem banVersions : Versions banFields banFieldsOf where
  distinct release := by cases release <;> decide
  includes release := by
    intro field listed
    simp only [banFieldsOf, List.mem_append, listed, true_or]

theorem nodeAddressVersions : Versions nodeAddressFields nodeAddressFieldsOf where
  distinct release := by cases release <;> decide
  includes _ := List.subset_append_left _ _

theorem rpcInfoVersions : Versions rpcInfoFields rpcInfoFieldsOf where
  distinct release := by cases release <;> decide
  includes _ := List.subset_append_left _ _

theorem networkFieldsOf_subset (covers : Release.Covers [.v19, .v21] [] older newer)
    (alike : .v28 ≤ older ↔ .v28 ≤ newer) : networkFieldsOf older ⊆ networkFieldsOf newer := by
  simp only [networkFieldsOf, alike]
  refine append_subset_append (append_subset_append (List.Subset.refl _) ?_) ?_
  · exact ite_subset (covers.starts .v19 (by decide)) _
  · exact ite_subset (covers.starts .v21 (by decide)) _

theorem banFieldsOf_subset (covers : Release.Covers [.v22] [.v20] older newer) :
    banFieldsOf older ⊆ banFieldsOf newer := by
  rw [banFieldsOf, banFieldsOf]
  refine append_subset_append (append_subset_append (List.Subset.refl _) ?_) ?_
  · exact ite_subset (covers.ends .v20 (by decide)) _
  · exact ite_subset (covers.starts .v22 (by decide)) _

theorem nodeAddressFieldsOf_subset (covers : Release.Covers [.v22] [] older newer) :
    nodeAddressFieldsOf older ⊆ nodeAddressFieldsOf newer := by
  rw [nodeAddressFieldsOf, nodeAddressFieldsOf]
  refine append_subset_append (List.Subset.refl _) ?_
  exact ite_subset (covers.starts .v22 (by decide)) _

theorem rpcInfoFieldsOf_subset (covers : Release.Covers [.v19] [] older newer) :
    rpcInfoFieldsOf older ⊆ rpcInfoFieldsOf newer := by
  rw [rpcInfoFieldsOf, rpcInfoFieldsOf]
  refine append_subset_append (List.Subset.refl _) ?_
  exact ite_subset (covers.starts .v19 (by decide)) _

theorem peerFieldsOf_subset
    (covers : Release.Covers [.v19, .v20, .v21, .v22, .v26] [.v20, .v27] older newer) :
    peerFieldsOf older ⊆ peerFieldsOf newer := by
  rw [peerFieldsOf, peerFieldsOf]
  refine append_subset_append ?_ (ite_subset ?_ _)
  · repeat' refine append_subset_append ?_ ?_
    · exact ite_subset (covers.starts .v26 (by decide)) _
    · exact ite_subset (covers.starts .v22 (by decide)) _
    · exact List.Subset.refl _
    · exact ite_subset (covers.ends .v20 (by decide)) _
    · exact ite_subset (covers.starts .v19 (by decide)) _
    · exact ite_subset (covers.starts .v20 (by decide)) _
    · exact ite_subset (covers.starts .v21 (by decide)) _
  · exact And.imp (covers.starts .v21 (by decide)) (covers.ends .v27 (by decide))

end Shape

end NodeClient
