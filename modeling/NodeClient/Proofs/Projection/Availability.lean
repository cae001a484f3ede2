import NodeClient.Proofs.Binding.Table
import NodeClient.Proofs.Projection.Outcome
import NodeClient.Proofs.Projection.Reported

/-! # Which fields a release fills

Some fields of the results stand for members that only a range of releases reports. Each of them is
set exactly in its range, to the value of its member. Whether a connection was made by hand is known
in every release, since either the connection type or the older flag is reported.
-/

namespace NodeClient

open Projected

/-- Fields of the network information that depend on the release. -/
structure NetworkInfo.Tracks (release : Release) (members : List (String × Json))
    (info : NetworkInfo) : Prop where
  localServicesNames : Reports (.v19 ≤ release) Value.texts "localservicesnames" members
    info.localServicesNames
  connectionsIn : Reports (.v21 ≤ release) .int "connections_in" members info.connectionsIn
  connectionsOut : Reports (.v21 ≤ release) .int "connections_out" members info.connectionsOut

/-- Fields of a peer that depend on the release. -/
structure PeerInfo.Tracks (release : Release) (members : List (String × Json))
    (peer : PeerInfo) : Prop where
  servicesNames : Reports (.v19 ≤ release) Value.texts "servicesnames" members peer.servicesNames
  permissions : Reports (.v19 ≤ release) Value.texts "permissions" members peer.permissions
  mappedAs : MayReport (.v20 ≤ release) .int "mapped_as" members peer.mappedAs
  network : Reports (.v21 ≤ release) .str "network" members peer.network
  connectionType : Reports (.v21 ≤ release) .str "connection_type" members peer.connectionType
  lastTransaction : Reports (.v21 ≤ release) .int "last_transaction" members peer.lastTransaction
  lastBlock : Reports (.v21 ≤ release) .int "last_block" members peer.lastBlock
  highBandwidthTo : Reports (.v22 ≤ release) .bool "bip152_hb_to" members peer.highBandwidthTo
  highBandwidthFrom : Reports (.v22 ≤ release) .bool "bip152_hb_from" members peer.highBandwidthFrom
  addrProcessed : Reports (.v22 ≤ release) .int "addr_processed" members peer.addrProcessed
  addrRateLimited : Reports (.v22 ≤ release) .int "addr_rate_limited" members peer.addrRateLimited
  transportProtocolType : Reports (.v26 ≤ release) .str "transport_protocol_type" members
    peer.transportProtocolType
  sessionId : Reports (.v26 ≤ release) .str "session_id" members peer.sessionId
  startingHeight : Reports (release ≤ .v27) .int "startingheight" members peer.startingHeight
  banScore : Reports (release ≤ .v20) .int "banscore" members peer.banScore
  whitelisted : Reports (release ≤ .v20) .bool "whitelisted" members peer.whitelisted

/-- Fields of a ban that depend on the release. -/
structure BannedSubnet.Tracks (release : Release) (members : List (String × Json))
    (ban : BannedSubnet) : Prop where
  banReason : Reports (release ≤ .v20) .str "ban_reason" members ban.banReason
  banDuration : Reports (.v22 ≤ release) .int "ban_duration" members ban.banDuration
  timeRemaining : Reports (.v22 ≤ release) .int "time_remaining" members ban.timeRemaining

/-- The field of a known address that depends on the release. -/
structure NodeAddress.Tracks (release : Release) (members : List (String × Json))
    (address : NodeAddress) : Prop where
  network : Reports (.v22 ≤ release) .str "network" members address.network

/-- The field of the information on the server's interface that depends on the release. -/
structure RpcInfo.Tracks (release : Release) (members : List (String × Json))
    (info : RpcInfo) : Prop where
  logPath : Reports (.v19 ≤ release) .str "logpath" members info.logPath

section

variable {release : Release} {name : String} {members : List (String × Json)}
  {rows : List (String × Raw)}

@[simp] theorem NetworkReachability.complete_ofRaw (raw : Raw) : (ofRaw raw).Complete := by
  rw [ofRaw]
  repeat refine .bind (by simp) fun _ => ?_
  exact complete_ok _

@[simp] theorem LocalAddress.complete_ofRaw (raw : Raw) : (ofRaw raw).Complete := by
  rw [ofRaw]
  repeat refine .bind (by simp) fun _ => ?_
  exact complete_ok _

@[simp] theorem NetworkInfo.complete_warningsOf (raw : Raw) : (warningsOf raw).Complete := by
  rw [warningsOf]
  split <;> simp only [complete_ok, complete_undeclared]

theorem NetworkInfo.meets_ofRaw
    (success : Shape.readFields (Shape.networkFieldsOf release) members = .ok rows) :
    (ofRaw (.record name rows)).Meets (Tracks release members) := by
  rw [ofRaw]
  repeat refine .bind (by simp [complete_each]) fun _ => ?_
  exact .of_ok
    { localServicesNames := .of_texts success (by cases release <;> exact rfl)
      connectionsIn := .of_int success (by cases release <;> exact rfl)
      connectionsOut := .of_int success (by cases release <;> exact rfl) }

/-- Every release reports the type of a connection or the flag for those made by hand. -/
theorem PeerInfo.complete_manualOf
    (success : Shape.readFields (Shape.peerFieldsOf release) members = .ok rows) :
    (manualOf (.record name rows)).Complete := by
  have type : Reports (.v21 ≤ release) Value.str "connection_type" members
      ((Raw.record name rows).reportedText "connection_type") :=
    .of_text success (by cases release <;> exact rfl)
  have flag : Reports (release ≤ .v20) Value.bool "addnode" members
      ((Raw.record name rows).reportedBool "addnode") :=
    .of_bool success (by cases release <;> exact rfl)
  have either : Release.v21 ≤ release ∨ release ≤ Release.v20 := by
    cases release <;> decide
  rw [manualOf]
  rcases either with modern | early
  · obtain ⟨value, known⟩ := Option.isSome_iff_exists.mp (type.isSome.mpr modern)
    rw [known]
    exact complete_ok _
  · obtain ⟨value, known⟩ := Option.isSome_iff_exists.mp (flag.isSome.mpr early)
    rw [known]
    split <;> exact complete_ok _

theorem PeerInfo.meets_ofRaw
    (success : Shape.readFields (Shape.peerFieldsOf release) members = .ok rows) :
    (ofRaw (.record name rows)).Meets (Tracks release members) := by
  have manual : (manualOf (.record name rows)).Complete := complete_manualOf success
  rw [ofRaw]
  repeat refine .bind (by simp [manual]) fun _ => ?_
  exact .of_ok
    { servicesNames := .of_texts success (by cases release <;> exact rfl)
      permissions := .of_texts success (by cases release <;> exact rfl)
      mappedAs := .of_int success (by cases release <;> exact rfl)
      network := .of_text success (by cases release <;> exact rfl)
      connectionType := .of_text success (by cases release <;> exact rfl)
      lastTransaction := .of_int success (by cases release <;> exact rfl)
      lastBlock := .of_int success (by cases release <;> exact rfl)
      highBandwidthTo := .of_bool success (by cases release <;> exact rfl)
      highBandwidthFrom := .of_bool success (by cases release <;> exact rfl)
      addrProcessed := .of_int success (by cases release <;> exact rfl)
      addrRateLimited := .of_int success (by cases release <;> exact rfl)
      transportProtocolType := .of_text success (by cases release <;> exact rfl)
      sessionId := .of_text success (by cases release <;> exact rfl)
      startingHeight := .of_int success (by cases release <;> exact rfl)
      banScore := .of_int success (by cases release <;> exact rfl)
      whitelisted := .of_bool success (by cases release <;> exact rfl) }

theorem BannedSubnet.meets_ofRaw
    (success : Shape.readFields (Shape.banFieldsOf release) members = .ok rows) :
    (ofRaw (.record name rows)).Meets (Tracks release members) := by
  rw [ofRaw]
  repeat refine .bind (by simp) fun _ => ?_
  exact .of_ok
    { banReason := .of_text success (by cases release <;> exact rfl)
      banDuration := .of_int success (by cases release <;> exact rfl)
      timeRemaining := .of_int success (by cases release <;> exact rfl) }

theorem NodeAddress.meets_ofRaw
    (success : Shape.readFields (Shape.nodeAddressFieldsOf release) members = .ok rows) :
    (ofRaw (.record name rows)).Meets (Tracks release members) := by
  rw [ofRaw]
  refine .bind (by simp) fun port => ?_
  split_ifs
  · repeat refine .bind (by simp) fun _ => ?_
    exact .of_ok { network := .of_text success (by cases release <;> exact rfl) }
  · exact .of_refuseNumber _ _ _ _

@[simp] theorem ActiveCommand.complete_ofRaw (raw : Raw) : (ofRaw raw).Complete := by
  rw [ofRaw]
  repeat refine .bind (by simp) fun _ => ?_
  exact complete_ok _

theorem RpcInfo.meets_ofRaw
    (success : Shape.readFields (Shape.rpcInfoFieldsOf release) members = .ok rows) :
    (ofRaw (.record name rows)).Meets (Tracks release members) := by
  rw [ofRaw]
  repeat refine .bind (by simp [complete_each]) fun _ => ?_
  exact .of_ok { logPath := .of_text success (by cases release <;> exact rfl) }

end

@[simp] theorem AddedNode.complete_addressOf (raw : Raw) : (addressOf raw).Complete := by
  rw [addressOf]
  repeat refine .bind (by simp) fun _ => ?_
  exact complete_ok _

@[simp] theorem AddedNode.complete_ofRaw (raw : Raw) : (ofRaw raw).Complete := by
  rw [ofRaw]
  repeat refine .bind (by simp [complete_each]) fun _ => ?_
  exact complete_ok _

@[simp] theorem UploadTarget.complete_ofRaw (raw : Raw) : (ofRaw raw).Complete := by
  rw [ofRaw]
  repeat refine .bind (by simp) fun _ => ?_
  exact complete_ok _

@[simp] theorem NetTotals.complete_timeOf (milliseconds : Int) : (timeOf milliseconds).Complete := by
  rw [timeOf]
  split
  · exact fun _ _ failure => nomatch failure
  · exact complete_instant _ _ _

@[simp] theorem NetTotals.complete_ofRaw (raw : Raw) : (ofRaw raw).Complete := by
  rw [ofRaw]
  repeat refine .bind (by simp) fun _ => ?_
  exact complete_ok _

/-- A projection that misses no member of an item misses none of a list result. -/
theorem Projection.complete_eachItem {β : Type} {project : Raw → Projected β}
    (complete : ∀ raw, (project raw).Complete) (raw : Raw) : (eachItem project raw).Complete := by
  cases raw with
  | list items => exact complete_each fun item _ => complete item
  | record name members => exact complete_each fun _ _ => complete _
  | _ => exact complete_undeclared _ _

/-- A wire object whose members have a property that ties them to a value. -/
def OfObject {β : Type} (property : List (String × Json) → β → Prop) (json : Json) (value : β) :
    Prop :=
  ∃ members, json = .obj members ∧ property members value

/-- A wire list of such objects, one for each value. -/
def OfObjects {β : Type} (property : List (String × Json) → β → Prop) (json : Json)
    (values : List β) : Prop :=
  ∃ items, json = .arr items ∧ List.Forall₂ (OfObject property) items values

/-- The fields that depend on the release follow the wire result of an operation. -/
def Canonical.Tracks (release : Release) (result : Json) : Operation → Canonical → Prop
  | .getNetworkInfo, .networkInfo info => OfObject (NetworkInfo.Tracks release) result info
  | .getPeerInfo, .peers list => OfObjects (PeerInfo.Tracks release) result list
  | .listBanned, .banned list => OfObjects (BannedSubnet.Tracks release) result list
  | .getNodeAddresses, .nodeAddresses list => OfObjects (NodeAddress.Tracks release) result list
  | .getRpcInfo, .rpcInfo info => OfObject (RpcInfo.Tracks release) result info
  | .getNetworkInfo, _ | .getPeerInfo, _ | .listBanned, _ | .getNodeAddresses, _
  | .getRpcInfo, _ => False
  | _, _ => True

section

variable {β : Type} {project : Raw → Projected β} {property : List (String × Json) → β → Prop}
  {name : String} {fields : List Field} {result : Json} {raw : Raw}

theorem Projected.meets_record
    (meets : ∀ members rows, Shape.readFields fields members = .ok rows →
      (project (.record name rows)).Meets (property members))
    (read : (Shape.record name fields).read result = .ok raw) :
    (project raw).Meets (OfObject property result) := by
  obtain ⟨members, rows, rfl, rfl, success⟩ := Shape.read_record_eq_ok_iff.mp read
  exact (meets members rows success).mono fun _ holds => ⟨members, rfl, holds⟩

theorem Projected.meets_records
    (meets : ∀ members rows, Shape.readFields fields members = .ok rows →
      (project (.record name rows)).Meets (property members))
    (read : (Shape.list (.record name fields)).read result = .ok raw) :
    (Projection.eachItem project raw).Meets (OfObjects property result) := by
  obtain ⟨items, raws, rfl, rfl, each⟩ := Shape.read_list_eq_ok_iff.mp read
  have values := meets_each each fun _ _ record => meets_record meets record
  exact values.mono fun _ holds => ⟨items, rfl, holds⟩

end

theorem Dialect.decode_eq_ok_iff {dialect : Dialect} {result : Json} {raw : Raw} :
    dialect.decode result = .ok raw ↔ dialect.shape.read result = .ok raw := by
  rw [decode]
  cases dialect.shape.read result <;> simp [Except.mapError]

/-- Fields that depend on the release are neither guessed nor lost: whatever result the binding of a
release reads and projects, each of them is set exactly in the releases that report its member, to
the value of the member, and no projection fails for want of a member. -/
theorem Binding.apply_tracks {operation : Operation} {release : Release}
    {binding : Binding Dialect} {result : Json} {raw : Raw}
    (bound : release.profile.binding? operation = some binding)
    (decoded : binding.body.decode result = .ok raw) :
    (binding.body.projection.apply raw).Meets (Canonical.Tracks release result operation) := by
  rw [Dialect.decode_eq_ok_iff] at decoded
  rw [projection_eq_projectionFor bound]
  cases operation with
  | getNetworkInfo =>
    obtain ⟨name, shape⟩ := shape_networkInfo bound
    exact .map (meets_record (fun _ _ => NetworkInfo.meets_ofRaw) (shape ▸ decoded))
  | getPeerInfo =>
    obtain ⟨name, shape⟩ := shape_peers bound
    exact .map (meets_records (fun _ _ => PeerInfo.meets_ofRaw) (shape ▸ decoded))
  | listBanned =>
    obtain ⟨name, shape⟩ := shape_banned bound
    exact .map (meets_records (fun _ _ => BannedSubnet.meets_ofRaw) (shape ▸ decoded))
  | getNodeAddresses =>
    obtain ⟨name, shape⟩ := shape_nodeAddresses bound
    exact .map (meets_records (fun _ _ => NodeAddress.meets_ofRaw) (shape ▸ decoded))
  | getRpcInfo =>
    obtain ⟨name, shape⟩ := shape_rpcInfo bound
    exact .map (meets_record (fun _ _ => RpcInfo.meets_ofRaw) (shape ▸ decoded))
  | getAddedNodeInfo =>
    exact ⟨(Projection.complete_eachItem AddedNode.complete_ofRaw raw).map _, fun _ _ => trivial⟩
  | getNetTotals => exact ⟨(NetTotals.complete_ofRaw raw).map _, fun _ _ => trivial⟩
  | _ => exact .of_ok trivial

/-- A node of release 19 without services, whose result also holds a count that this release does not
declare: the empty list of names is an empty list, and the count is left out. -/
theorem Binding.apply_tracks_networkInfo :
    let members : List (String × Json) :=
      [("version", .int 190100), ("subversion", .str "/Node:0.19.1/"),
        ("protocolversion", .int 70015), ("localservices", .str "0000000000000000"),
        ("localservicesnames", .arr []), ("localrelay", .bool true), ("timeoffset", .int 0),
        ("connections", .int 0), ("connections_in", .int 0), ("networkactive", .bool true),
        ("networks", .arr []), ("relayfee", .int 0), ("incrementalfee", .int 0),
        ("localaddresses", .arr []), ("warnings", .str "")]
    ∃ binding raw info, Release.v19.profile.binding? .getNetworkInfo = some binding ∧
      binding.body.decode (.obj members) = .ok raw ∧
      binding.body.projection.apply raw = .ok (.networkInfo info) ∧
      info.localServicesNames = some [] ∧ info.connectionsIn = none := by
  intro members
  obtain ⟨raw, decoded, info, applied⟩ : ∃ raw,
      (Shape.networkInfoV19.read (.obj members)).mapError DecodeCause.mismatch = .ok raw ∧
        ∃ info, Projection.networkInfo.apply raw = .ok (.networkInfo info) :=
    ⟨_, rfl, _, rfl⟩
  have bound : Release.v19.profile.binding? .getNetworkInfo = some (entry .getNetworkInfo .v19
      (some .v20) (noArguments "getnetworkinfo") .networkInfoV19 .networkInfo) := rfl
  obtain ⟨_, same, tracks⟩ := (apply_tracks bound decoded).value _ applied
  obtain rfl := Value.obj.inj same
  refine ⟨_, raw, info, bound, decoded, applied, ?_, ?_⟩
  · exact tracks.localServicesNames.eq_nil (by decide) rfl
  · exact Option.not_isSome_iff_eq_none.mp (mt tracks.connectionsIn.isSome.mp (by decide))

end NodeClient
