import NodeClient.Proofs.Json.Members
import NodeClient.Proofs.Projection.Restriction

/-! # Results of later releases

A binding understands another one when it reads every result that the other reads, and projects it
with the same outcome, up to fields that it does not report. Within some ranges of releases each
binding understands the later ones. The newest release stopped to send the starting height of a
peer, and sends a list of warnings in place of one text; apart from this its bindings understand
those of the release before.
-/

namespace NodeClient

open Projected

namespace Canonical

/-- A result with the fields that a release reports. -/
def asOf (release : Release) : Canonical → Canonical
  | .networkInfo info => .networkInfo (info.asOf release)
  | .peers list => .peers (list.map (PeerInfo.asOf release))
  | .banned bans => .banned (bans.map (BannedSubnet.asOf release))
  | .nodeAddresses addresses => .nodeAddresses (addresses.map (NodeAddress.asOf release))
  | .rpcInfo info => .rpcInfo (info.asOf release)
  | other => other

/-- A result without the starting heights of peers. -/
def withoutHeights : Canonical → Canonical
  | .peers list => .peers (list.map fun peer => { peer with startingHeight := none })
  | other => other

end Canonical

/-- A binding reads every result that another one reads, and projects it with the same outcome: it
fails alike, or answers the converted value. -/
def Binding.Understands (older newer : Binding Dialect) (convert : Canonical → Canonical) : Prop :=
  ∀ result raw, newer.body.decode result = .ok raw →
    ∃ other, older.body.decode result = .ok other ∧
      older.body.projection.apply other = (newer.body.projection.apply raw).map convert

/-- A shape reads every value that another one reads, and a projection has the same outcome for
both, but for a conversion. -/
def Shape.Understands {α : Type} (older newer : Shape) (project : Raw → Projected α)
    (convert : α → α) : Prop :=
  ∀ json raw, newer.read json = .ok raw →
    ∃ other, older.read json = .ok other ∧ project other = (project raw).map convert

namespace Shape.Understands

variable {α : Type} {project : Raw → Projected α} {convert : α → α}

/-- A record with fewer members understands one with more, if projections of records that were read
from one object have the same outcome. -/
theorem record {fewer more : List Field} {name name' : String} (subset : fewer ⊆ more)
    (outcome : ∀ members rows rows', readFields more members = .ok rows →
      readFields fewer members = .ok rows' →
        project (.record name' rows') = (project (.record name rows)).map convert) :
    Understands (.record name' fewer) (.record name more) project convert := by
  intro json raw read
  obtain ⟨members, rows, rfl, rfl, success⟩ := read_record_eq_ok_iff.mp read
  obtain ⟨rows', success'⟩ := readFields_of_subset subset success
  exact ⟨.record name' rows', read_record_eq_ok_iff.mpr ⟨members, rows', rfl, rfl, success'⟩,
    outcome members rows rows' success success'⟩

/-- A list of items understands a list of others, if the items do. -/
theorem list {older newer : Shape} (item : Understands older newer project convert) :
    Understands (.list older) (.list newer) (Projection.eachItem project) (List.map convert) := by
  intro json raw read
  obtain ⟨items, rows, rfl, rfl, each⟩ := read_list_eq_ok_iff.mp read
  have others : ∃ rows', List.Forall₂ (fun json row => older.read json = .ok row) items rows' ∧
      Projected.each project rows' = (Projected.each project rows).map (List.map convert) := by
    clear read
    induction each with
    | nil => exact ⟨[], .nil, rfl⟩
    | @cons json row items rows head _ ih =>
      obtain ⟨other, read, first⟩ := item json row head
      obtain ⟨rows', each', rest⟩ := ih
      refine ⟨other :: rows', .cons read each', ?_⟩
      rw [Projected.each, Projected.each, first, rest]
      cases project row with
      | error failure => rfl
      | ok value =>
        cases Projected.each project rows <;> rfl
  obtain ⟨rows', each', outcome⟩ := others
  exact ⟨.list rows', read_list_eq_ok_iff.mpr ⟨items, rows', rfl, rfl, each'⟩, outcome⟩

end Shape.Understands

namespace Binding

/-- Releases in a row that understand the results of the later ones for an operation. -/
structure Family where
  operation : Operation
  first : Release
  last : Release

def families : List Family :=
  [⟨.getNetworkInfo, .v17, .v27⟩, ⟨.getPeerInfo, .v17, .v20⟩, ⟨.getPeerInfo, .v21, .v27⟩,
    ⟨.listBanned, .v17, .v20⟩, ⟨.listBanned, .v21, .v28⟩, ⟨.getNodeAddresses, .v18, .v28⟩,
    ⟨.getRpcInfo, .v18, .v28⟩]

theorem exists_of_families {family : Family} {release : Release} (listed : family ∈ families)
    (since : family.first ≤ release) :
    ∃ binding, release.profile.binding? family.operation = some binding := by
  fin_cases listed
  all_goals cases release <;> first | exact ⟨_, rfl⟩ | exact absurd since (by decide)

variable {operation : Operation} {older newer : Release} {binding binding' : Binding Dialect}

/-- Bindings of one operation understand as their shapes do. -/
theorem Understands.of_shapes {α : Type} {project : Raw → Projected α} {convert : α → α}
    {wrap : α → Canonical} {convert' : Canonical → Canonical}
    (bound : older.profile.binding? operation = some binding)
    (bound' : newer.profile.binding? operation = some binding')
    (applies : ∀ raw, (projectionFor operation).apply raw = (project raw).map wrap)
    (wraps : ∀ value, wrap (convert value) = convert' (wrap value))
    (shapes : binding.body.shape.Understands binding'.body.shape project convert) :
    binding.Understands binding' convert' := by
  intro result raw decoded
  rw [Dialect.decode_eq_ok_iff] at decoded
  obtain ⟨other, read, outcome⟩ := shapes result raw decoded
  refine ⟨other, Dialect.decode_eq_ok_iff.mpr read, ?_⟩
  rw [projection_eq_projectionFor bound, projection_eq_projectionFor bound', applies, applies,
    outcome]
  cases project raw with
  | error failure => rfl
  | ok value => exact congrArg Except.ok (wraps value)

theorem understands_networkInfo (covers : Release.Covers [.v19, .v21] [] older newer)
    (early : older ≤ .v27) (early' : newer ≤ .v27)
    (bound : older.profile.binding? .getNetworkInfo = some binding)
    (bound' : newer.profile.binding? .getNetworkInfo = some binding') :
    binding.Understands binding' (Canonical.asOf older) := by
  obtain ⟨name, shape⟩ := shape_networkInfo bound
  obtain ⟨name', shape'⟩ := shape_networkInfo bound'
  refine .of_shapes bound bound' (fun _ => rfl) (fun _ => rfl) ?_
  rw [shape, shape']
  have neither : .v28 ≤ older ↔ .v28 ≤ newer := by
    have late : ∀ release : Release, release ≤ .v27 → ¬ .v28 ≤ release :=
      fun release til since => absurd (Release.le_trans since til) (by decide)
    exact iff_of_false (late older early) (late newer early')
  refine .record (Shape.networkFieldsOf_subset covers neither) ?_
  intro members rows rows' read read'
  refine NetworkInfo.ofRaw_asOf covers (fun _ _ => rfl) read read' ?_
  obtain ⟨text, present, warned⟩ := NetworkInfo.warningsOf_text name' early' read
  obtain ⟨text', present', warned'⟩ := NetworkInfo.warningsOf_text name early read'
  obtain rfl := Value.str.inj (Option.some.inj (present.symm.trans present'))
  exact ⟨_, trivial, warned, warned'⟩

theorem understands_peers
    (covers : Release.Covers [.v19, .v20, .v21, .v22, .v26] [.v20, .v27] older newer)
    (bound : older.profile.binding? .getPeerInfo = some binding)
    (bound' : newer.profile.binding? .getPeerInfo = some binding') :
    binding.Understands binding' (Canonical.asOf older) := by
  obtain ⟨name, shape⟩ := shape_peers bound
  obtain ⟨name', shape'⟩ := shape_peers bound'
  refine .of_shapes bound bound' (fun _ => rfl) (fun _ => rfl) ?_
  rw [shape, shape']
  exact .list (.record (Shape.peerFieldsOf_subset covers) fun _ _ _ => PeerInfo.ofRaw_asOf covers)

theorem understands_banned (covers : Release.Covers [.v22] [.v20] older newer)
    (bound : older.profile.binding? .listBanned = some binding)
    (bound' : newer.profile.binding? .listBanned = some binding') :
    binding.Understands binding' (Canonical.asOf older) := by
  obtain ⟨name, shape⟩ := shape_banned bound
  obtain ⟨name', shape'⟩ := shape_banned bound'
  refine .of_shapes bound bound' (fun _ => rfl) (fun _ => rfl) ?_
  rw [shape, shape']
  exact .list (.record (Shape.banFieldsOf_subset covers) fun _ _ _ =>
    BannedSubnet.ofRaw_asOf covers)

theorem understands_nodeAddresses (covers : Release.Covers [.v22] [] older newer)
    (bound : older.profile.binding? .getNodeAddresses = some binding)
    (bound' : newer.profile.binding? .getNodeAddresses = some binding') :
    binding.Understands binding' (Canonical.asOf older) := by
  obtain ⟨name, shape⟩ := shape_nodeAddresses bound
  obtain ⟨name', shape'⟩ := shape_nodeAddresses bound'
  refine .of_shapes bound bound' (fun _ => rfl) (fun _ => rfl) ?_
  rw [shape, shape']
  exact .list (.record (Shape.nodeAddressFieldsOf_subset covers) fun _ _ _ =>
    NodeAddress.ofRaw_asOf covers)

theorem understands_rpcInfo (covers : Release.Covers [.v19] [] older newer)
    (bound : older.profile.binding? .getRpcInfo = some binding)
    (bound' : newer.profile.binding? .getRpcInfo = some binding') :
    binding.Understands binding' (Canonical.asOf older) := by
  obtain ⟨name, shape⟩ := shape_rpcInfo bound
  obtain ⟨name', shape'⟩ := shape_rpcInfo bound'
  refine .of_shapes bound bound' (fun _ => rfl) (fun _ => rfl) ?_
  rw [shape, shape']
  exact .record (Shape.rpcInfoFieldsOf_subset covers) fun _ _ _ => RpcInfo.ofRaw_asOf covers

/-- From release 27 to 28 nothing but the starting height of a peer is lost. -/
theorem understands_peers_v27 (bound : Release.v28.profile.binding? .getPeerInfo = some binding)
    (bound' : Release.v27.profile.binding? .getPeerInfo = some binding') :
    binding.Understands binding' Canonical.withoutHeights := by
  have covers : Release.Covers [.v19, .v20, .v21, .v22, .v26] [.v20, .v27] .v28 .v27 :=
    ⟨by decide, by decide⟩
  obtain ⟨name, shape⟩ := shape_peers bound
  obtain ⟨name', shape'⟩ := shape_peers bound'
  refine .of_shapes bound bound' (fun _ => rfl) (fun _ => rfl) ?_
  rw [shape, shape']
  refine .list (.record (Shape.peerFieldsOf_subset covers) ?_)
  intro members rows rows' read read'
  have outcome : PeerInfo.ofRaw (.record name rows') =
      (PeerInfo.ofRaw (.record name' rows)).map (PeerInfo.asOf .v28) :=
    PeerInfo.ofRaw_asOf covers read read'
  rw [outcome]
  cases ended : PeerInfo.ofRaw (.record name' rows) with
  | error failure => rfl
  | ok peer =>
    have tracks := (PeerInfo.meets_ofRaw read).value peer ended
    exact congrArg Except.ok (PeerInfo.asOf_v28 tracks)

/-- The members of an object with the warnings as a list: none for an empty text, and else the
text. -/
def listWarnings (text : String) (members : List (String × Json)) : List (String × Json) :=
  Value.setMember "warnings" (Value.texts (if text.isEmpty then [] else [text])) members

/-- Results of release 27 are read by release 28 once their warnings are a list. -/
theorem read_listWarnings {members : List (String × Json)} {rows : List (String × Raw)}
    (text : String)
    (success : Shape.readFields (Shape.networkFieldsOf .v27) members = .ok rows) :
    ∃ rows', Shape.readFields (Shape.networkFieldsOf .v28) (listWarnings text members) =
      .ok rows' := by
  have each := Shape.exists_readFields_iff.mp ⟨rows, success⟩
  refine Shape.exists_readFields_iff.mpr fun field listed => ?_
  have kept : field = Shape.required "warnings" (.list .text) ∨
      field ∈ Shape.networkFieldsOf .v27 ∧ field.name ≠ "warnings" := by
    have later : Shape.networkFieldsOf .v28 = Shape.networkCoreFields ++
        [Shape.required "warnings" (.list .text)] ++ Shape.serviceNameFields ++
        Shape.directionFields := rfl
    have earlier : Shape.networkFieldsOf .v27 = Shape.networkCoreFields ++
        [Shape.required "warnings" .text] ++ Shape.serviceNameFields ++
        Shape.directionFields := rfl
    have unlike : ∀ field ∈ Shape.networkCoreFields ++ Shape.serviceNameFields ++
        Shape.directionFields, field.name ≠ "warnings" := by decide
    rw [later] at listed
    rw [earlier]
    simp only [List.mem_append, List.mem_singleton] at listed unlike ⊢
    rcases listed with ((core | rfl) | names) | directions
    · exact .inr ⟨.inl (.inl (.inl core)), unlike field (.inl (.inl core))⟩
    · exact .inl rfl
    · exact .inr ⟨.inl (.inr names), unlike field (.inl (.inr names))⟩
    · exact .inr ⟨.inr directions, unlike field (.inr directions)⟩
  rcases kept with rfl | ⟨listed, other⟩
  · have read := Shape.read_texts_eq_ok_iff.mpr
      ⟨if text.isEmpty then [] else [text], rfl, rfl⟩
    exact ⟨_, Shape.readMember_required_eq_ok_iff.mpr ⟨_, Value.member?_setMember_self, read⟩⟩
  · rw [listWarnings, Shape.readMember, Value.member?_setMember_of_ne other, ← Shape.readMember]
    exact each field listed

/-- Release 28 reads the network information of release 27, with its warnings as a list, and
projects it with the same outcome. -/
theorem understands_networkInfo_v27 {result : Json} {raw : Raw}
    (bound : Release.v28.profile.binding? .getNetworkInfo = some binding)
    (bound' : Release.v27.profile.binding? .getNetworkInfo = some binding')
    (decoded : binding'.body.decode result = .ok raw) :
    ∃ members text other, result = .obj members ∧
      Value.member? "warnings" members = some (.str text) ∧
      binding.body.decode (.obj (listWarnings text members)) = .ok other ∧
      binding.body.projection.apply other = binding'.body.projection.apply raw := by
  obtain ⟨name, shape⟩ := shape_networkInfo bound
  obtain ⟨name', shape'⟩ := shape_networkInfo bound'
  rw [Dialect.decode_eq_ok_iff, shape'] at decoded
  obtain ⟨members, rows, rfl, rfl, read⟩ := Shape.read_record_eq_ok_iff.mp decoded
  obtain ⟨text, present, warned⟩ := NetworkInfo.warningsOf_text name' (by decide) read
  obtain ⟨rows', read'⟩ := read_listWarnings text read
  refine ⟨members, text, .record name rows', rfl, present, ?_, ?_⟩
  · rw [Dialect.decode_eq_ok_iff, shape]
    exact Shape.read_record_eq_ok_iff.mpr ⟨_, rows', rfl, rfl, read'⟩
  · have alike : ∀ name, name ≠ "warnings" →
        Value.member? name (listWarnings text members) = Value.member? name members :=
      fun _ other => Value.member?_setMember_of_ne other
    obtain ⟨texts, listed, warned'⟩ := NetworkInfo.warningsOf_texts name read'
    rw [listWarnings, Value.member?_setMember_self, Option.some.injEq] at listed
    rw [← Value.texts_injective listed] at warned'
    have outcome : NetworkInfo.ofRaw (.record name rows') =
        (NetworkInfo.ofRaw (.record name' rows)).map (NetworkInfo.asOf .v28) :=
      NetworkInfo.ofRaw_asOf ⟨by decide, by decide⟩ alike read read' ⟨_, trivial, warned, warned'⟩
    rw [projection_eq_projectionFor bound, projection_eq_projectionFor bound']
    simp only [projectionFor, Projection.apply, outcome]
    cases NetworkInfo.ofRaw (.record name' rows) <;> rfl

/-- A result of a later release is understood by an earlier one of its family: what the binding of
the later release reads, the binding of the earlier one reads too, and projects it with the same
failure or the same value without the fields that it does not report. From release 27 to 28 a peer
loses nothing but its starting height, and network information has the same outcome once its
warnings are a list. -/
theorem understands_later :
    (∀ family ∈ families, ∀ older newer, family.first ≤ older → older ≤ newer →
      newer ≤ family.last → ∃ binding binding',
        older.profile.binding? family.operation = some binding ∧
        newer.profile.binding? family.operation = some binding' ∧
        binding.Understands binding' (Canonical.asOf older)) ∧
    (∃ binding binding', Release.v28.profile.binding? .getPeerInfo = some binding ∧
      Release.v27.profile.binding? .getPeerInfo = some binding' ∧
      binding.Understands binding' Canonical.withoutHeights) ∧
    ∃ binding binding', Release.v28.profile.binding? .getNetworkInfo = some binding ∧
      Release.v27.profile.binding? .getNetworkInfo = some binding' ∧
      ∀ result raw, binding'.body.decode result = .ok raw → ∃ members text other,
        result = .obj members ∧ Value.member? "warnings" members = some (.str text) ∧
        binding.body.decode (.obj (listWarnings text members)) = .ok other ∧
        binding.body.projection.apply other = binding'.body.projection.apply raw := by
  refine ⟨?_, ?_, ?_⟩
  · intro family listed older newer since le til
    obtain ⟨binding, bound⟩ := exists_of_families listed since
    obtain ⟨binding', bound'⟩ := exists_of_families listed (Release.le_trans since le)
    refine ⟨binding, binding', bound, bound', ?_⟩
    have early := Release.le_trans le til
    fin_cases listed
    · exact understands_networkInfo (.of_between (by decide) since le til) early til bound bound'
    · exact understands_peers (.of_between (by decide) since le til) bound bound'
    · exact understands_peers (.of_between (by decide) since le til) bound bound'
    · exact understands_banned (.of_between (by decide) since le til) bound bound'
    · exact understands_banned (.of_between (by decide) since le til) bound bound'
    · exact understands_nodeAddresses (.of_between (by decide) since le til) bound bound'
    · exact understands_rpcInfo (.of_between (by decide) since le til) bound bound'
  · exact ⟨_, _, rfl, rfl, understands_peers_v27 rfl rfl⟩
  · exact ⟨_, _, rfl, rfl, fun _ _ => understands_networkInfo_v27 rfl rfl⟩

/-- A peer as a server of release 27 reports it. -/
def reportedPeer : List (String × Json) :=
  [("id", .int 0), ("addr", .str "10.0.0.1:8333"), ("network", .str "ipv4"),
    ("services", .str "0000000000000409"), ("servicesnames", .arr [.str "NETWORK"]),
    ("relaytxes", .bool true), ("lastsend", .int 1), ("lastrecv", .int 2),
    ("last_transaction", .int 0), ("last_block", .int 0), ("bytessent", .int 10),
    ("bytesrecv", .int 20), ("conntime", .int 0), ("timeoffset", .int 0), ("version", .int 70016),
    ("subver", .str "/Node:27.0.0/"), ("inbound", .bool false), ("bip152_hb_to", .bool false),
    ("bip152_hb_from", .bool false), ("startingheight", .int 840000), ("synced_headers", .int 1),
    ("synced_blocks", .int 1), ("inflight", .arr []), ("addr_processed", .int 0),
    ("addr_rate_limited", .int 0), ("permissions", .arr []), ("bytessent_per_msg", .obj []),
    ("bytesrecv_per_msg", .obj []), ("connection_type", .str "manual"),
    ("transport_protocol_type", .str "v1"), ("session_id", .str "")]

/-- The members of network information of release 27 with one text of warnings. -/
def reportedNetwork : List (String × Json) :=
  [("version", .int 270000), ("subversion", .str "/Node:27.0.0/"), ("protocolversion", .int 70016),
    ("localservices", .str "0000000000000409"), ("localservicesnames", .arr [.str "NETWORK"]),
    ("localrelay", .bool true), ("timeoffset", .int 0), ("connections", .int 1),
    ("connections_in", .int 0), ("connections_out", .int 1), ("networkactive", .bool true),
    ("networks", .arr []), ("relayfee", .int 0), ("incrementalfee", .int 0),
    ("localaddresses", .arr []), ("warnings", .str "unknown rules")]

/-- Release 18 reads what release 28 tells of its interface, without the path of the log. Release 28
reads a peer of release 27, without its starting height, and network information of release 27 with
its warnings as a list. -/
theorem understands_later_reported :
    (∃ binding other, Release.v18.profile.binding? .getRpcInfo = some binding ∧
      binding.body.decode (.obj [("active_commands", .arr []), ("logpath", .str "/node/log")]) =
        .ok other ∧
      binding.body.projection.apply other = .ok (.rpcInfo ⟨[], none⟩)) ∧
    (∃ binding other peer, Release.v28.profile.binding? .getPeerInfo = some binding ∧
      binding.body.decode (.arr [.obj reportedPeer]) = .ok other ∧
      binding.body.projection.apply other = .ok (.peers [peer]) ∧ peer.startingHeight = none) ∧
    ∃ binding other info, Release.v28.profile.binding? .getNetworkInfo = some binding ∧
      binding.body.decode (.obj (listWarnings "unknown rules" reportedNetwork)) = .ok other ∧
      binding.body.projection.apply other = .ok (.networkInfo info) ∧
      info.warnings = ["unknown rules"] := by
  obtain ⟨families, peers, network⟩ := understands_later
  refine ⟨?_, ?_, ?_⟩
  · obtain ⟨binding, binding', bound, bound', understands⟩ :=
      families ⟨.getRpcInfo, .v18, .v28⟩ (by simp [Binding.families]) .v18 .v28 (by decide)
        (by decide) (by decide)
    obtain rfl := Option.some.inj bound'
    obtain ⟨other, read, outcome⟩ :=
      understands (.obj [("active_commands", .arr []), ("logpath", .str "/node/log")]) _ rfl
    exact ⟨binding, other, bound, read, outcome⟩
  · obtain ⟨binding, binding', bound, bound', understands⟩ := peers
    obtain rfl := Option.some.inj bound'
    obtain ⟨other, read, outcome⟩ := understands (.arr [.obj reportedPeer]) _ rfl
    exact ⟨binding, other, _, bound, read, outcome, rfl⟩
  · obtain ⟨binding, binding', bound, bound', understands⟩ := network
    obtain rfl := Option.some.inj bound'
    obtain ⟨members, text, other, same, present, read, outcome⟩ :=
      understands (.obj reportedNetwork) _ rfl
    obtain rfl := Value.obj.inj same
    obtain rfl := Value.str.inj (Option.some.inj present)
    exact ⟨binding, other, _, bound, read, outcome, rfl⟩

end Binding

end NodeClient
