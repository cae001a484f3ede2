import NodeClient.Proofs.Projection.Availability
import NodeClient.Proofs.Projection.Shared

/-! # Results as an earlier release has them

Within a range of releases the members of a result only grow. A record that a release reads is then
read by the earlier ones, which project it alike: they fail as that release does, or answer the same
value without the fields that they do not report.
-/

namespace NodeClient

open Projected ProjectionFailure

/-- The network information with the fields that a release reports. -/
def NetworkInfo.asOf (release : Release) (info : NetworkInfo) : NetworkInfo :=
  { info with
    localServicesNames := if .v19 ≤ release then info.localServicesNames else none
    connectionsIn := if .v21 ≤ release then info.connectionsIn else none
    connectionsOut := if .v21 ≤ release then info.connectionsOut else none }

/-- A peer with the fields that a release reports. -/
def PeerInfo.asOf (release : Release) (peer : PeerInfo) : PeerInfo :=
  { peer with
    network := if .v21 ≤ release then peer.network else none
    mappedAs := if .v20 ≤ release then peer.mappedAs else none
    servicesNames := if .v19 ≤ release then peer.servicesNames else none
    lastTransaction := if .v21 ≤ release then peer.lastTransaction else none
    lastBlock := if .v21 ≤ release then peer.lastBlock else none
    connectionType := if .v21 ≤ release then peer.connectionType else none
    startingHeight := if release ≤ .v27 then peer.startingHeight else none
    banScore := if release ≤ .v20 then peer.banScore else none
    whitelisted := if release ≤ .v20 then peer.whitelisted else none
    permissions := if .v19 ≤ release then peer.permissions else none
    highBandwidthTo := if .v22 ≤ release then peer.highBandwidthTo else none
    highBandwidthFrom := if .v22 ≤ release then peer.highBandwidthFrom else none
    addrProcessed := if .v22 ≤ release then peer.addrProcessed else none
    addrRateLimited := if .v22 ≤ release then peer.addrRateLimited else none
    transportProtocolType := if .v26 ≤ release then peer.transportProtocolType else none
    sessionId := if .v26 ≤ release then peer.sessionId else none }

/-- A ban with the fields that a release reports. -/
def BannedSubnet.asOf (release : Release) (ban : BannedSubnet) : BannedSubnet :=
  { ban with
    banReason := if release ≤ .v20 then ban.banReason else none
    banDuration := if .v22 ≤ release then ban.banDuration else none
    timeRemaining := if .v22 ≤ release then ban.timeRemaining else none }

/-- A known address with the field that a release reports. -/
def NodeAddress.asOf (release : Release) (address : NodeAddress) : NodeAddress :=
  { address with network := if .v22 ≤ release then address.network else none }

/-- The state of the server's interface with the field that a release reports. -/
def RpcInfo.asOf (release : Release) (info : RpcInfo) : RpcInfo :=
  { info with logPath := if .v19 ≤ release then info.logPath else none }

/-- Where a member is reported in the one range only if it is in the other, the fields for it differ
only in that it is unset outside of the first range. -/
theorem Reports.eq_ite {α : Type} {reported reported' : Prop} [Decidable reported']
    {wire : α → Json} {name : String} {members members' : List (String × Json)} {field field' : Option α}
    (newer : Reports reported wire name members field)
    (older : Reports reported' wire name members' field')
    (alike : Value.member? name members' = Value.member? name members)
    (implies : reported' → reported) : field' = if reported' then field else none := by
  by_cases status : reported'
  · rw [if_pos status]
    ext value
    rw [older.eq_some, newer.eq_some, alike, and_iff_right status, and_iff_right (implies status)]
  · rw [if_neg status]
    exact Option.not_isSome_iff_eq_none.mp (mt older.isSome.mp status)

theorem MayReport.eq_ite {reported reported' : Prop} [Decidable reported'] {name : String}
    {members : List (String × Json)} {field field' : Option Int}
    (newer : MayReport reported Value.int name members field)
    (older : MayReport reported' Value.int name members field')
    (implies : reported' → reported) : field' = if reported' then field else none := by
  by_cases status : reported'
  · rw [if_pos status]
    have same := (older.value status).symm.trans (newer.value (implies status))
    cases field <;> cases field' <;> simp_all
  · rw [if_neg status, older.eq_none status]

/-- When one projection mirrors another and both have values of some kinds, conversions that agree
on such values lead to the same outcome. -/
theorem Projected.Mirrors.outcome_of_meets {α : Type} {allowed : ProjectionFailure → Prop}
    {projected other : Projected α} {convert target : α → α} {newer older : α → Prop}
    (mirrors : Mirrors allowed convert projected other) (meets : projected.Meets newer)
    (meets' : other.Meets older)
    (same : ∀ value, newer value → older (convert value) → convert value = target value) :
    other = projected.map target := by
  have outcome := mirrors.outcome
  cases ended : projected with
  | error failure =>
    rw [outcome, ended]
    rfl
  | ok value =>
    rw [ended] at outcome
    have agree := same value (meets.value value ended) (meets'.value _ outcome)
    rw [outcome]
    exact congrArg Except.ok agree

section

variable {older newer : Release} {members members' : List (String × Json)}
  {rows rows' : List (String × Raw)} {name name' : String} {raw : Raw}

theorem NetworkInfo.reporting_eq_asOf {info : NetworkInfo}
    (covers : Release.Covers [.v19, .v21] [] older newer)
    (alike : ∀ name, name ≠ "warnings" → Value.member? name members' = Value.member? name members)
    (tracks : Tracks newer members info) (tracks' : Tracks older members' (info.reporting raw)) :
    info.reporting raw = info.asOf older := by
  have since19 := covers.starts .v19 (by decide)
  have since21 := covers.starts .v21 (by decide)
  have names := alike "localservicesnames" (by decide)
  have incoming := alike "connections_in" (by decide)
  have outgoing := alike "connections_out" (by decide)
  rw [asOf, ← tracks.localServicesNames.eq_ite tracks'.localServicesNames names since19,
    ← tracks.connectionsIn.eq_ite tracks'.connectionsIn incoming since21,
    ← tracks.connectionsOut.eq_ite tracks'.connectionsOut outgoing since21]
  rfl

theorem PeerInfo.reporting_eq_asOf {peer : PeerInfo}
    (covers : Release.Covers [.v19, .v20, .v21, .v22, .v26] [.v20, .v27] older newer)
    (tracks : Tracks newer members peer) (tracks' : Tracks older members (peer.reporting raw)) :
    peer.reporting raw = peer.asOf older := by
  have since19 := covers.starts .v19 (by decide)
  have since20 := covers.starts .v20 (by decide)
  have since21 := covers.starts .v21 (by decide)
  have since22 := covers.starts .v22 (by decide)
  have since26 := covers.starts .v26 (by decide)
  have until20 := covers.ends .v20 (by decide)
  have until27 := covers.ends .v27 (by decide)
  rw [asOf, ← tracks.network.eq_ite tracks'.network rfl since21,
    ← tracks.mappedAs.eq_ite tracks'.mappedAs since20,
    ← tracks.servicesNames.eq_ite tracks'.servicesNames rfl since19,
    ← tracks.lastTransaction.eq_ite tracks'.lastTransaction rfl since21,
    ← tracks.lastBlock.eq_ite tracks'.lastBlock rfl since21,
    ← tracks.connectionType.eq_ite tracks'.connectionType rfl since21,
    ← tracks.startingHeight.eq_ite tracks'.startingHeight rfl until27,
    ← tracks.banScore.eq_ite tracks'.banScore rfl until20,
    ← tracks.whitelisted.eq_ite tracks'.whitelisted rfl until20,
    ← tracks.permissions.eq_ite tracks'.permissions rfl since19,
    ← tracks.highBandwidthTo.eq_ite tracks'.highBandwidthTo rfl since22,
    ← tracks.highBandwidthFrom.eq_ite tracks'.highBandwidthFrom rfl since22,
    ← tracks.addrProcessed.eq_ite tracks'.addrProcessed rfl since22,
    ← tracks.addrRateLimited.eq_ite tracks'.addrRateLimited rfl since22,
    ← tracks.transportProtocolType.eq_ite tracks'.transportProtocolType rfl since26,
    ← tracks.sessionId.eq_ite tracks'.sessionId rfl since26]
  rfl

/-- A peer of release 27 has nothing but its starting height that release 28 does not report. -/
theorem PeerInfo.asOf_v28 {peer : PeerInfo} (tracks : Tracks .v27 members peer) :
    peer.asOf .v28 = { peer with startingHeight := none } := by
  have banScore : peer.banScore = none :=
    Option.not_isSome_iff_eq_none.mp (mt tracks.banScore.isSome.mp (by decide))
  have whitelisted : peer.whitelisted = none :=
    Option.not_isSome_iff_eq_none.mp (mt tracks.whitelisted.isSome.mp (by decide))
  calc
    peer.asOf .v28 =
        { peer with startingHeight := none, banScore := none, whitelisted := none } := rfl
    _ = { peer with startingHeight := none } := by
      congr 1
      · exact banScore.symm
      · exact whitelisted.symm

theorem BannedSubnet.reporting_eq_asOf {ban : BannedSubnet}
    (covers : Release.Covers [.v22] [.v20] older newer) (tracks : Tracks newer members ban)
    (tracks' : Tracks older members (ban.reporting raw)) : ban.reporting raw = ban.asOf older := by
  have since22 := covers.starts .v22 (by decide)
  rw [asOf, ← tracks.banReason.eq_ite tracks'.banReason rfl (covers.ends .v20 (by decide)),
    ← tracks.banDuration.eq_ite tracks'.banDuration rfl since22,
    ← tracks.timeRemaining.eq_ite tracks'.timeRemaining rfl since22]
  rfl

theorem NodeAddress.reporting_eq_asOf {address : NodeAddress}
    (covers : Release.Covers [.v22] [] older newer) (tracks : Tracks newer members address)
    (tracks' : Tracks older members (address.reporting raw)) :
    address.reporting raw = address.asOf older := by
  rw [asOf, ← tracks.network.eq_ite tracks'.network rfl (covers.starts .v22 (by decide))]
  rfl

theorem RpcInfo.reporting_eq_asOf {info : RpcInfo} (covers : Release.Covers [.v19] [] older newer)
    (tracks : Tracks newer members info) (tracks' : Tracks older members (info.reporting raw)) :
    info.reporting raw = info.asOf older := by
  rw [asOf, ← tracks.logPath.eq_ite tracks'.logPath rfl (covers.starts .v19 (by decide))]
  rfl

/-- Whether a connection was made by hand is known from the same member in both records. -/
theorem PeerInfo.manualOf_shared
    (success : Shape.readFields (Shape.peerFieldsOf newer) members = .ok rows)
    (success' : Shape.readFields (Shape.peerFieldsOf older) members = .ok rows')
    (since : .v21 ≤ older → .v21 ≤ newer) (til : older ≤ .v20 → newer ≤ .v20) :
    ∃ manual, True ∧ manualOf (.record name rows) = .ok manual ∧
      manualOf (.record name' rows') = .ok manual := by
  have type {release : Release} {rows : List (String × Raw)} (name : String)
      (read : Shape.readFields (Shape.peerFieldsOf release) members = .ok rows) :
      Reports (.v21 ≤ release) Value.str "connection_type" members
        ((Raw.record name rows).reportedText "connection_type") :=
    .of_text read (by cases release <;> exact rfl)
  have flag {release : Release} {rows : List (String × Raw)} (name : String)
      (read : Shape.readFields (Shape.peerFieldsOf release) members = .ok rows) :
      Reports (release ≤ .v20) Value.bool "addnode" members
        ((Raw.record name rows).reportedBool "addnode") :=
    .of_bool read (by cases release <;> exact rfl)
  have types := (type name success).eq_ite (type name' success') rfl since
  have flags := (flag name success).eq_ite (flag name' success') rfl til
  by_cases modern : .v21 ≤ older
  · have reported := (type name success).isSome.mpr (since modern)
    obtain ⟨value, known⟩ := Option.isSome_iff_exists.mp reported
    rw [if_pos modern, known] at types
    exact ⟨value == "manual", trivial, by rw [manualOf, known], by rw [manualOf, types]⟩
  · have early : older ≤ .v20 := Release.le_v20_of_not modern
    have reported := (flag name success).isSome.mpr (til early)
    obtain ⟨value, known⟩ := Option.isSome_iff_exists.mp reported
    have untyped : (Raw.record name rows).reportedText "connection_type" = none :=
      Option.not_isSome_iff_eq_none.mp fun typed => Release.not_le_of_le_v20 (til early)
        ((type name success).isSome.mp typed)
    rw [if_pos early, known] at flags
    rw [if_neg modern] at types
    exact ⟨value, trivial, by rw [manualOf, untyped, known], by rw [manualOf, types, flags]⟩

/-- Up to release 27 the warnings are one text, and a text that is not empty is one warning. -/
theorem NetworkInfo.warningsOf_text {release : Release} (name : String) (early : release ≤ .v27)
    (success : Shape.readFields (Shape.networkFieldsOf release) members = .ok rows) :
    ∃ text : String, Value.member? "warnings" members = some (.str text) ∧
      warningsOf (.record name rows) = .ok (if text.isEmpty then [] else [text]) := by
  have declared : ((Shape.networkFieldsOf release).find? fun field => field.name == "warnings") =
      some (Shape.required "warnings" .text) := by
    cases release <;> first | rfl | exact absurd early (by decide)
  obtain ⟨text, present, answer, _⟩ := (Raw.shares_self success).required "warnings"
    (fun _ _ => Shape.read_text_eq_ok_iff) declared
  exact ⟨text, present, by rw [warningsOf, answer]⟩

/-- Later they are a list of texts. -/
theorem NetworkInfo.warningsOf_texts (name : String)
    (success : Shape.readFields (Shape.networkFieldsOf .v28) members = .ok rows) :
    ∃ texts : List String, Value.member? "warnings" members = some (Value.texts texts) ∧
      warningsOf (.record name rows) = .ok texts := by
  obtain ⟨texts, present, answer, _⟩ := (Raw.shares_self success).required "warnings"
    (fun _ _ => Shape.read_texts_eq_ok_iff) rfl
  refine ⟨texts, present, ?_⟩
  rw [warningsOf, answer]
  exact congrArg Except.ok (Raw.textsOf_map texts)

theorem NetworkInfo.ofRaw_asOf (covers : Release.Covers [.v19, .v21] [] older newer)
    (alike : ∀ name, name ≠ "warnings" → Value.member? name members' = Value.member? name members)
    (success : Shape.readFields (Shape.networkFieldsOf newer) members = .ok rows)
    (success' : Shape.readFields (Shape.networkFieldsOf older) members' = .ok rows')
    (warned : ∃ warnings, True ∧ warningsOf (.record name rows) = .ok warnings ∧
      warningsOf (.record name' rows') = .ok warnings) :
    ofRaw (.record name' rows') = (ofRaw (.record name rows)).map (asOf older) := by
  have read : ∀ field ∈ Shape.networkCoreFields,
      Shape.readMember field members' = Shape.readMember field members := by
    intro field listed
    have other : ∀ field ∈ Shape.networkCoreFields, field.name ≠ "warnings" := by decide
    rw [Shape.readMember, Shape.readMember, alike _ (other field listed)]
  have shares := Shape.networkVersions.shares name name' read success success'
  have mirrors : Mirrors (Arises (fun _ => True) (fun _ => True) fun _ => True)
      (reporting (.record name' rows')) (ofRaw (.record name rows)) (ofRaw (.record name' rows')) :=
    mirrors_ofRaw shares warned
  exact mirrors.outcome_of_meets (meets_ofRaw success) (meets_ofRaw success')
    fun _ tracks tracks' => reporting_eq_asOf covers alike tracks tracks'

theorem PeerInfo.ofRaw_asOf
    (covers : Release.Covers [.v19, .v20, .v21, .v22, .v26] [.v20, .v27] older newer)
    (success : Shape.readFields (Shape.peerFieldsOf newer) members = .ok rows)
    (success' : Shape.readFields (Shape.peerFieldsOf older) members = .ok rows') :
    ofRaw (.record name' rows') = (ofRaw (.record name rows)).map (asOf older) := by
  have shares := Shape.peerVersions.shares name name' (fun _ _ => rfl) success success'
  have mirrors : Mirrors (Arises (fun _ => True) (fun _ => True) fun _ => True)
      (reporting (.record name' rows')) (ofRaw (.record name rows)) (ofRaw (.record name' rows')) :=
    mirrors_ofRaw shares (manualOf_shared success success' (covers.starts .v21 (by decide))
      (covers.ends .v20 (by decide))) (fun _ _ => trivial) fun _ _ _ => trivial
  exact mirrors.outcome_of_meets (meets_ofRaw success) (meets_ofRaw success')
    fun _ tracks tracks' => reporting_eq_asOf covers tracks tracks'

theorem BannedSubnet.ofRaw_asOf (covers : Release.Covers [.v22] [.v20] older newer)
    (success : Shape.readFields (Shape.banFieldsOf newer) members = .ok rows)
    (success' : Shape.readFields (Shape.banFieldsOf older) members = .ok rows') :
    ofRaw (.record name' rows') = (ofRaw (.record name rows)).map (asOf older) := by
  have shares := Shape.banVersions.shares name name' (fun _ _ => rfl) success success'
  have mirrors : Mirrors (Arises (fun _ => True) (fun _ => True) fun _ => True)
      (reporting (.record name' rows')) (ofRaw (.record name rows)) (ofRaw (.record name' rows')) :=
    mirrors_ofRaw shares fun _ _ _ => trivial
  exact mirrors.outcome_of_meets (meets_ofRaw success) (meets_ofRaw success')
    fun _ tracks tracks' => reporting_eq_asOf covers tracks tracks'

theorem NodeAddress.ofRaw_asOf (covers : Release.Covers [.v22] [] older newer)
    (success : Shape.readFields (Shape.nodeAddressFieldsOf newer) members = .ok rows)
    (success' : Shape.readFields (Shape.nodeAddressFieldsOf older) members = .ok rows') :
    ofRaw (.record name' rows') = (ofRaw (.record name rows)).map (asOf older) := by
  have shares := Shape.nodeAddressVersions.shares name name' (fun _ _ => rfl) success success'
  have mirrors : Mirrors (Arises (fun _ => True) (fun _ => True) fun _ => True)
      (reporting (.record name' rows')) (ofRaw (.record name rows)) (ofRaw (.record name' rows')) :=
    mirrors_ofRaw shares fun _ _ _ => trivial
  exact mirrors.outcome_of_meets (meets_ofRaw success) (meets_ofRaw success')
    fun _ tracks tracks' => reporting_eq_asOf covers tracks tracks'

theorem RpcInfo.ofRaw_asOf (covers : Release.Covers [.v19] [] older newer)
    (success : Shape.readFields (Shape.rpcInfoFieldsOf newer) members = .ok rows)
    (success' : Shape.readFields (Shape.rpcInfoFieldsOf older) members = .ok rows') :
    ofRaw (.record name' rows') = (ofRaw (.record name rows)).map (asOf older) := by
  have shares := Shape.rpcInfoVersions.shares name name' (fun _ _ => rfl) success success'
  have mirrors : Mirrors (Arises (fun _ => True) (fun _ => True) fun _ => True)
      (reporting (.record name' rows')) (ofRaw (.record name rows)) (ofRaw (.record name' rows')) :=
    mirrors_ofRaw shares
  exact mirrors.outcome_of_meets (meets_ofRaw success) (meets_ofRaw success')
    fun _ tracks tracks' => reporting_eq_asOf covers tracks tracks'

end

end NodeClient
