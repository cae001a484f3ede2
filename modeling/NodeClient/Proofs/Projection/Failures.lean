import NodeClient.Proofs.Json.Integers
import NodeClient.Proofs.Projection.Restriction

/-! # Failures of projections

A result that the binding of a release reads has every member that its projection asks for. So the
projection refuses a member, or meets an address with a port that is no number, an integer with too many
digits to be told or a count of milliseconds that is too large for a floating-point number of seconds; it
fails in no other way.
-/

namespace NodeClient

open Projected ProjectionFailure

/-- The result of an operation spells a text as a socket address. -/
def Operation.Spells (operation : Operation) (result : Json) (text : String) : Prop :=
  match operation with
  | .getPeerInfo => ∃ items members, result = .arr items ∧ .obj members ∈ items ∧
      NodeClient.Spells PeerInfo.addressNames members text
  | .getAddedNodeInfo => ∃ items members, result = .arr items ∧ .obj members ∈ items ∧
      AddedNode.Resolves members text
  | _ => False

/-- The result of an operation counts milliseconds. -/
def Operation.Counts (operation : Operation) (result : Json) (milliseconds : Int) : Prop :=
  match operation with
  | .getNetTotals => ∃ members, result = .obj members ∧
      Value.member? "timemillis" members = some (.int milliseconds)
  | _ => False

section

variable {allowed : ProjectionFailure → Prop} {α : Type} {project : Raw → Projected α}
  {name : String} {fields : List Field} {result : Json} {raw : Raw}

theorem Projected.failsOnly_record
    (record : ∀ members rows, result = .obj members → Shape.readFields fields members = .ok rows →
      (project (.record name rows)).FailsOnly allowed)
    (read : (Shape.record name fields).read result = .ok raw) :
    (project raw).FailsOnly allowed := by
  obtain ⟨members, rows, rfl, rfl, success⟩ := Shape.read_record_eq_ok_iff.mp read
  exact record members rows rfl success

theorem Projected.failsOnly_records
    (record : ∀ items members rows, result = .arr items → .obj members ∈ items →
      Shape.readFields fields members = .ok rows →
        (project (.record name rows)).FailsOnly allowed)
    (read : (Shape.list (.record name fields)).read result = .ok raw) :
    (Projection.eachItem project raw).FailsOnly allowed := by
  obtain ⟨items, raws, rfl, rfl, each⟩ := Shape.read_list_eq_ok_iff.mp read
  refine FailsOnly.each fun row listed => ?_
  obtain ⟨json, source, read⟩ := exists_source_of_mem each listed
  refine failsOnly_record (fun members rows same success => ?_) read
  exact record items members rows rfl (same ▸ source) success

end

/-- The warnings of network information are known in every release. -/
theorem NetworkInfo.exists_warningsOf {release : Release} {name : String}
    {members : List (String × Json)} {rows : List (String × Raw)}
    (success : Shape.readFields (Shape.networkFieldsOf release) members = .ok rows) :
    ∃ warnings, True ∧ warningsOf (.record name rows) = .ok warnings ∧
      warningsOf (.record name rows) = .ok warnings := by
  by_cases early : release ≤ .v27
  · obtain ⟨text, _, warned⟩ := warningsOf_text name early success
    exact ⟨_, trivial, warned, warned⟩
  · obtain rfl : release = .v28 := by
      cases release <;> first | rfl | exact absurd (by decide) early
    obtain ⟨texts, _, warned⟩ := warningsOf_texts name success
    exact ⟨texts, trivial, warned, warned⟩

/-- The projection of a result that the binding of a release reads refuses a member, or fails on an
address that the result spells, on an integer that it holds or on milliseconds that it counts. -/
theorem Binding.failsOnly_apply {operation : Operation} {release : Release}
    {binding : Binding Dialect} {result : Json} {raw : Raw}
    (bound : release.profile.binding? operation = some binding)
    (decoded : binding.body.decode result = .ok raw) :
    (binding.body.projection.apply raw).FailsOnly
      (Arises (operation.Spells result) (operation.Counts result) (Value.HasInteger · result)) := by
  rw [Dialect.decode_eq_ok_iff] at decoded
  rw [projection_eq_projectionFor bound]
  cases operation with
  | getNetworkInfo =>
    obtain ⟨name, shape⟩ := shape_networkInfo bound
    refine FailsOnly.map (failsOnly_record (fun members rows _ success => ?_) (shape ▸ decoded)) _
    have shares := Shape.networkVersions.shares name name (fun _ _ => rfl) success success
    exact (NetworkInfo.mirrors_ofRaw shares (NetworkInfo.exists_warningsOf success)).failsOnly
  | getPeerInfo =>
    obtain ⟨name, shape⟩ := shape_peers bound
    refine FailsOnly.map
      (failsOnly_records (fun items members rows same listed success => ?_) (shape ▸ decoded)) _
    have shares := Shape.peerVersions.shares name name (fun _ _ => rfl) success success
    exact (PeerInfo.mirrors_ofRaw shares (PeerInfo.manualOf_shared success success id id)
      (fun _ spelled => ⟨items, members, same, listed, spelled⟩)
      fun _ _ stated => same ▸ .item listed (.of_member? stated)).failsOnly
  | getAddedNodeInfo =>
    have shape : binding.body.shape = .list .addedNodeV17 := by
      cases release <;> cases bound <;> rfl
    refine FailsOnly.map
      (failsOnly_records (fun items members rows same listed success => ?_) (shape ▸ decoded)) _
    exact (AddedNode.mirrors_ofRaw (Raw.shares_self success)
      fun _ spelled => ⟨items, members, same, listed, spelled⟩).failsOnly
  | getNetTotals =>
    have shape : binding.body.shape = .netTotalsV17 := by
      cases release <;> cases bound <;> rfl
    refine FailsOnly.map
      (failsOnly_record (fun members rows same success => ?_) (shape ▸ decoded)) _
    exact (NetTotals.mirrors_ofRaw (Raw.shares_self success)
      fun _ counted => ⟨members, same, counted⟩).failsOnly
  | listBanned =>
    obtain ⟨name, shape⟩ := shape_banned bound
    refine FailsOnly.map
      (failsOnly_records (fun items members rows same listed success => ?_) (shape ▸ decoded)) _
    have shares := Shape.banVersions.shares name name (fun _ _ => rfl) success success
    exact (BannedSubnet.mirrors_ofRaw shares
      fun _ _ stated => same ▸ .item listed (.of_member? stated)).failsOnly
  | getNodeAddresses =>
    obtain ⟨name, shape⟩ := shape_nodeAddresses bound
    refine FailsOnly.map
      (failsOnly_records (fun items members rows same listed success => ?_) (shape ▸ decoded)) _
    have shares := Shape.nodeAddressVersions.shares name name (fun _ _ => rfl) success success
    exact (NodeAddress.mirrors_ofRaw shares
      fun _ _ stated => same ▸ .item listed (.of_member? stated)).failsOnly
  | getRpcInfo =>
    obtain ⟨name, shape⟩ := shape_rpcInfo bound
    refine FailsOnly.map (failsOnly_record (fun members rows _ success => ?_) (shape ▸ decoded)) _
    have shares := Shape.rpcInfoVersions.shares name name (fun _ _ => rfl) success success
    exact (RpcInfo.mirrors_ofRaw shares).failsOnly
  | _ => exact failsOnly_ok _

end NodeClient
