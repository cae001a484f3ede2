import NodeClient.Proofs.Binding.Ranges
import NodeClient.Proofs.Projection.Mirror

/-! # Projections of records that share members

Every projection is followed step by step for two records that share the members that every release
reports. They fail alike, and their values differ in nothing but the fields that stand for members
of some releases, each as its own record reports them. Taken for one record and itself, this says
how a projection of a record that was read by its own shape may fail.
-/

namespace NodeClient

open Projected ProjectionFailure

/-- The network information with the fields that depend on the release as a record reports them. -/
def NetworkInfo.reporting (raw : Raw) (info : NetworkInfo) : NetworkInfo :=
  { info with
    localServicesNames := raw.reportedTexts "localservicesnames"
    connectionsIn := raw.reportedInt "connections_in"
    connectionsOut := raw.reportedInt "connections_out" }

/-- The state of the server's interface with the field that depends on the release as a record
reports it. -/
def RpcInfo.reporting (raw : Raw) (info : RpcInfo) : RpcInfo :=
  { info with logPath := raw.reportedText "logpath" }

/-- A peer with the fields that depend on the release as a record reports them. -/
def PeerInfo.reporting (raw : Raw) (peer : PeerInfo) : PeerInfo :=
  { peer with
    network := raw.reportedText "network"
    mappedAs := raw.reportedInt "mapped_as"
    servicesNames := raw.reportedTexts "servicesnames"
    lastTransaction := raw.reportedInt "last_transaction"
    lastBlock := raw.reportedInt "last_block"
    connectionType := raw.reportedText "connection_type"
    startingHeight := raw.reportedInt "startingheight"
    banScore := raw.reportedInt "banscore"
    whitelisted := raw.reportedBool "whitelisted"
    permissions := raw.reportedTexts "permissions"
    highBandwidthTo := raw.reportedBool "bip152_hb_to"
    highBandwidthFrom := raw.reportedBool "bip152_hb_from"
    addrProcessed := raw.reportedInt "addr_processed"
    addrRateLimited := raw.reportedInt "addr_rate_limited"
    transportProtocolType := raw.reportedText "transport_protocol_type"
    sessionId := raw.reportedText "session_id" }

/-- A known address with the field that depends on the release as a record reports it. -/
def NodeAddress.reporting (raw : Raw) (address : NodeAddress) : NodeAddress :=
  { address with network := raw.reportedText "network" }

/-- A ban with the fields that depend on the release as a record reports them. -/
def BannedSubnet.reporting (raw : Raw) (ban : BannedSubnet) : BannedSubnet :=
  { ban with
    banReason := raw.reportedText "ban_reason"
    banDuration := raw.reportedInt "ban_duration"
    timeRemaining := raw.reportedInt "time_remaining" }

namespace Shape

/-- The members that a record shape declares. -/
def fields : Shape → List Field
  | .record _ fields => fields
  | _ => []

end Shape

/-- The members of a peer that spell addresses. -/
def PeerInfo.addressNames : List String := ["addr", "addrbind", "addrlocal"]

/-- An object spells a text under one of some names. -/
def Spells (names : List String) (members : List (String × Json)) (text : String) : Prop :=
  ∃ name ∈ names, Value.member? name members = some (.str text)

/-- A value that is read by the shape of a record is a record that answers its members. -/
theorem Raw.shares_of_read {name : String} {fields : List Field} {json : Json} {raw : Raw}
    (read : (Shape.record name fields).read json = .ok raw) :
    ∃ members, json = .obj members ∧ Shares members fields raw raw := by
  obtain ⟨members, rows, rfl, rfl, success⟩ := Shape.read_record_eq_ok_iff.mp read
  exact ⟨members, rfl, shares_self success⟩

section

variable {spells : String → Prop} {counts states : Int → Prop} {members : List (String × Json)}
  {raw other : Raw}

theorem NetworkReachability.mirrors_ofRaw
    (shares : Raw.Shares members Shape.networkEntry.fields raw other) :
    Mirrors (Arises spells counts states) id (ofRaw raw) (ofRaw other) := by
  rw [ofRaw, ofRaw]
  refine .read (shares.text "name" rfl) fun name _ => ?_
  refine .read (shares.bool "limited" rfl) fun limited _ => ?_
  refine .read (shares.bool "reachable" rfl) fun reachable _ => ?_
  refine .read (shares.text "proxy" rfl) fun proxy _ => ?_
  refine .read (shares.bool "proxy_randomize_credentials" rfl) fun randomize _ => ?_
  exact .of_ok rfl

theorem LocalAddress.mirrors_ofRaw
    (shares : Raw.Shares members Shape.localAddressEntry.fields raw other) :
    Mirrors (Arises spells counts states) id (ofRaw raw) (ofRaw other) := by
  rw [ofRaw, ofRaw]
  refine .read (shares.text "address" rfl) fun address _ => ?_
  refine .read (shares.int "port" rfl) fun port _ => ?_
  refine .read (shares.int "score" rfl) fun score _ => ?_
  exact .of_ok rfl

theorem NetworkInfo.mirrors_ofRaw (shares : Raw.Shares members Shape.networkCoreFields raw other)
    (warned : ∃ warnings, True ∧ warningsOf raw = .ok warnings ∧ warningsOf other = .ok warnings) :
    Mirrors (Arises spells counts states) (reporting other) (ofRaw raw) (ofRaw other) := by
  rw [ofRaw, ofRaw]
  refine .read warned fun warnings _ => ?_
  refine .read (shares.int "version" rfl) fun version _ => ?_
  refine .read (shares.text "subversion" rfl) fun subversion _ => ?_
  refine .read (shares.int "protocolversion" rfl) fun protocolVersion _ => ?_
  refine .read (shares.text "localservices" rfl) fun localServices _ => ?_
  refine .read (shares.bool "localrelay" rfl) fun localRelay _ => ?_
  refine .read (shares.int "timeoffset" rfl) fun timeOffset _ => ?_
  refine .read (shares.int "connections" rfl) fun connections _ => ?_
  refine .read (shares.bool "networkactive" rfl) fun networkActive _ => ?_
  refine .read (shares.items "networks" Presence.noConfusion rfl) fun rows sources => ?_
  have entries : ∀ row ∈ rows,
      (NetworkReachability.ofRaw row).FailsOnly (Arises spells counts states) := by
    intro row listed
    obtain ⟨_, json, _, _, read⟩ := sources row listed
    obtain ⟨_, _, shares⟩ := Raw.shares_of_read read
    exact (NetworkReachability.mirrors_ofRaw shares).failsOnly
  refine .step (FailsOnly.each entries) fun networks => ?_
  refine .read (shares.number "relayfee" rfl) fun relayFee _ => ?_
  refine .step (failsOnly_satoshis _ _ _) fun relaySatoshis => ?_
  refine .read (shares.number "incrementalfee" rfl) fun incrementalFee _ => ?_
  refine .step (failsOnly_satoshis _ _ _) fun incrementalSatoshis => ?_
  refine .read (shares.items "localaddresses" Presence.noConfusion rfl) fun rows sources => ?_
  have addresses : ∀ row ∈ rows, (LocalAddress.ofRaw row).FailsOnly (Arises spells counts states) := by
    intro row listed
    obtain ⟨_, json, _, _, read⟩ := sources row listed
    obtain ⟨_, _, shares⟩ := Raw.shares_of_read read
    exact (LocalAddress.mirrors_ofRaw shares).failsOnly
  refine .step (FailsOnly.each addresses) fun localAddresses => ?_
  exact .of_ok rfl

theorem PeerInfo.mirrors_ofRaw (shares : Raw.Shares members Shape.peerCoreFields raw other)
    (known : ∃ manual, True ∧ manualOf raw = .ok manual ∧ manualOf other = .ok manual)
    (spelled : ∀ text, Spells addressNames members text → spells text)
    (integers : ∀ name number, Value.member? name members = some (.int number) → states number) :
    Mirrors (Arises spells counts states) (reporting other) (ofRaw raw) (ofRaw other) := by
  have named : ∀ name ∈ addressNames, ∀ text, Value.member? name members = some (.str text) →
      spells text :=
    fun name listed text stated => spelled text ⟨name, listed, stated⟩
  rw [ofRaw, ofRaw]
  refine .read (shares.int "id" rfl) fun id _ => ?_
  refine .read (shares.text "addr" rfl) fun addr stated => ?_
  refine .step (failsOnly_address _ _ (named "addr" (by decide) addr stated)) fun address => ?_
  refine .read (shares.textOrNull "addrbind" rfl) fun addrbind stated => ?_
  refine .step (failsOnly_addressOrNull _ _ fun text same =>
    named "addrbind" (by decide) text (stated text same)) fun addressBind => ?_
  refine .read (shares.textOrNull "addrlocal" rfl) fun addrlocal stated => ?_
  refine .step (failsOnly_addressOrNull _ _ fun text same =>
    named "addrlocal" (by decide) text (stated text same)) fun addressLocal => ?_
  refine .read (shares.text "services" rfl) fun services _ => ?_
  refine .read (shares.bool "relaytxes" rfl) fun relayTxes _ => ?_
  refine .read (shares.int "lastsend" rfl) fun lastSend _ => ?_
  refine .read (shares.int "lastrecv" rfl) fun lastRecv _ => ?_
  refine .read (shares.int "bytessent" rfl) fun bytesSent _ => ?_
  refine .read (shares.int "bytesrecv" rfl) fun bytesRecv _ => ?_
  refine .read (shares.int "conntime" rfl) fun seconds present => ?_
  refine .step (failsOnly_instant _ _ fun _ same =>
    Quantity.int.inj same ▸ integers "conntime" seconds present) fun connectionTime => ?_
  refine .read (shares.int "timeoffset" rfl) fun timeOffset _ => ?_
  refine .read (shares.numberOrNull "pingtime" rfl) fun pingTime _ => ?_
  refine .read (shares.numberOrNull "minping" rfl) fun minPing _ => ?_
  refine .read (shares.numberOrNull "pingwait" rfl) fun pingWait _ => ?_
  refine .read (shares.int "version" rfl) fun version _ => ?_
  refine .read (shares.text "subver" rfl) fun subversion _ => ?_
  refine .read (shares.bool "inbound" rfl) fun inbound _ => ?_
  refine .read known fun manual _ => ?_
  refine .read (shares.int "synced_headers" rfl) fun syncedHeaders _ => ?_
  refine .read (shares.int "synced_blocks" rfl) fun syncedBlocks _ => ?_
  refine .read (shares.ints "inflight" rfl) fun inflight _ => ?_
  refine .read (shares.counts "bytessent_per_msg" rfl) fun bytesSentPerMessage _ => ?_
  refine .read (shares.counts "bytesrecv_per_msg" rfl) fun bytesRecvPerMessage _ => ?_
  exact .of_ok rfl

theorem BannedSubnet.mirrors_ofRaw (shares : Raw.Shares members Shape.banFields raw other)
    (integers : ∀ name number, Value.member? name members = some (.int number) → states number) :
    Mirrors (Arises spells counts states) (reporting other) (ofRaw raw) (ofRaw other) := by
  rw [ofRaw, ofRaw]
  refine .read (shares.text "address" rfl) fun address _ => ?_
  refine .step (failsOnly_subnet _ _ _) fun subnet => ?_
  refine .read (shares.int "banned_until" rfl) fun seconds present => ?_
  refine .step (failsOnly_instant _ _ fun _ same =>
    Quantity.int.inj same ▸ integers "banned_until" seconds present) fun bannedUntil => ?_
  refine .read (shares.int "ban_created" rfl) fun seconds present => ?_
  refine .step (failsOnly_instant _ _ fun _ same =>
    Quantity.int.inj same ▸ integers "ban_created" seconds present) fun banCreated => ?_
  exact .of_ok rfl

theorem NodeAddress.mirrors_ofRaw (shares : Raw.Shares members Shape.nodeAddressFields raw other)
    (integers : ∀ name number, Value.member? name members = some (.int number) → states number) :
    Mirrors (Arises spells counts states) (reporting other) (ofRaw raw) (ofRaw other) := by
  rw [ofRaw, ofRaw]
  refine .read (shares.int "port" rfl) fun port given => ?_
  by_cases fits : 0 ≤ port ∧ port ≤ SocketAddress.lastPort
  · rw [if_pos fits, if_pos fits]
    refine .read (shares.int "time" rfl) fun seconds present => ?_
    refine .step (failsOnly_instant _ _ fun _ same =>
      Quantity.int.inj same ▸ integers "time" seconds present) fun time => ?_
    refine .read (shares.int "services" rfl) fun services _ => ?_
    refine .read (shares.text "address" rfl) fun address _ => ?_
    exact .of_ok rfl
  · rw [if_neg fits, if_neg fits]
    exact .of_refuseNumber _ _ _ fun _ same => Quantity.int.inj same ▸ integers "port" port given

theorem ActiveCommand.mirrors_ofRaw
    (shares : Raw.Shares members Shape.activeCommandEntry.fields raw other) :
    Mirrors (Arises spells counts states) id (ofRaw raw) (ofRaw other) := by
  rw [ofRaw, ofRaw]
  refine .read (shares.text "method" rfl) fun method _ => ?_
  refine .read (shares.int "duration" rfl) fun duration _ => ?_
  exact .of_ok rfl

theorem RpcInfo.mirrors_ofRaw (shares : Raw.Shares members Shape.rpcInfoFields raw other) :
    Mirrors (Arises spells counts states) (reporting other) (ofRaw raw) (ofRaw other) := by
  rw [ofRaw, ofRaw]
  refine .read (shares.items "active_commands" Presence.noConfusion rfl) fun rows sources => ?_
  have commands : ∀ row ∈ rows, (ActiveCommand.ofRaw row).FailsOnly (Arises spells counts states) := by
    intro row listed
    obtain ⟨_, json, _, _, read⟩ := sources row listed
    obtain ⟨_, _, shares⟩ := Raw.shares_of_read read
    exact (ActiveCommand.mirrors_ofRaw shares).failsOnly
  refine .step (FailsOnly.each commands) fun activeCommands => ?_
  exact .of_ok rfl

theorem AddedNode.mirrors_addressOf
    (shares : Raw.Shares members Shape.addedNodeAddressEntry.fields raw other)
    (spelled : ∀ text, Value.member? "address" members = some (.str text) → spells text) :
    Mirrors (Arises spells counts states) id (addressOf raw) (addressOf other) := by
  rw [addressOf, addressOf]
  refine .read (shares.text "address" rfl) fun text stated => ?_
  refine .step (failsOnly_address _ _ (spelled text stated)) fun address => ?_
  refine .read (shares.text "connected" rfl) fun connected _ => ?_
  exact .of_ok rfl

/-- An object spells a text as the address of one of its resolved addresses. -/
def AddedNode.Resolves (members : List (String × Json)) (text : String) : Prop :=
  ∃ entries entry, Value.member? "addresses" members = some (.arr entries) ∧ .obj entry ∈ entries ∧
    Value.member? "address" entry = some (.str text)

theorem AddedNode.mirrors_ofRaw
    (shares : Raw.Shares members Shape.addedNodeV17.fields raw other)
    (spelled : ∀ text, Resolves members text → spells text) :
    Mirrors (Arises spells counts states) id (ofRaw raw) (ofRaw other) := by
  rw [ofRaw, ofRaw]
  refine .read (shares.text "addednode" rfl) fun addedNode _ => ?_
  refine .read (shares.bool "connected" rfl) fun connected _ => ?_
  refine .read (shares.items "addresses" Presence.noConfusion rfl) fun rows sources => ?_
  have resolved : ∀ row ∈ rows, (addressOf row).FailsOnly (Arises spells counts states) := by
    intro row listed
    obtain ⟨entries, json, present, listed, read⟩ := sources row listed
    obtain ⟨entry, rfl, shares⟩ := Raw.shares_of_read read
    exact (mirrors_addressOf shares fun text stated =>
      spelled text ⟨entries, entry, present, listed, stated⟩).failsOnly
  refine .step (FailsOnly.each resolved) fun addresses => ?_
  exact .of_ok rfl

theorem UploadTarget.mirrors_ofRaw
    (shares : Raw.Shares members Shape.uploadTargetEntry.fields raw other) :
    Mirrors (Arises spells counts states) id (ofRaw raw) (ofRaw other) := by
  rw [ofRaw, ofRaw]
  refine .read (shares.int "timeframe" rfl) fun timeframe _ => ?_
  refine .read (shares.int "target" rfl) fun target _ => ?_
  refine .read (shares.bool "target_reached" rfl) fun targetReached _ => ?_
  refine .read (shares.bool "serve_historical_blocks" rfl) fun serveHistorical _ => ?_
  refine .read (shares.int "bytes_left_in_cycle" rfl) fun bytesLeft _ => ?_
  refine .read (shares.int "time_left_in_cycle" rfl) fun timeLeft _ => ?_
  exact .of_ok rfl

theorem NetTotals.mirrors_ofRaw
    (shares : Raw.Shares members Shape.netTotalsV17.fields raw other)
    (counted : ∀ count, Value.member? "timemillis" members = some (.int count) → counts count) :
    Mirrors (Arises spells counts states) id (ofRaw raw) (ofRaw other) := by
  rw [ofRaw, ofRaw]
  refine .read (shares.record "uploadtarget" rfl) fun row source => ?_
  obtain ⟨json, _, read⟩ := source
  obtain ⟨_, _, limits⟩ := Raw.shares_of_read read
  refine .read (shares.int "totalbytesrecv" rfl) fun totalBytesRecv _ => ?_
  refine .read (shares.int "totalbytessent" rfl) fun totalBytesSent _ => ?_
  refine .read (shares.int "timemillis" rfl) fun milliseconds stated => ?_
  refine .step (failsOnly_timeOf (counted milliseconds stated)) fun time => ?_
  refine .step (UploadTarget.mirrors_ofRaw limits).failsOnly fun uploadTarget => ?_
  exact .of_ok rfl

end

end NodeClient
