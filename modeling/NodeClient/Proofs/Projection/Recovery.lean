import NodeClient.Proofs.Address.RoundTrip
import NodeClient.Proofs.Instant.Timestamp
import NodeClient.Proofs.Projection.Availability
import NodeClient.Proofs.Projection.Counters
import NodeClient.Proofs.Projection.Reported
import NodeClient.Proofs.Projection.Shared

/-! # What a peer tells of its record

Every member that a release declares for a peer can be told from what its record is projected to: as it
was sent, but for the spelling of the port in an address and the order of counters. Two records that are
projected to one peer therefore say the same in every member.
-/

namespace NodeClient

open Projected

namespace SocketAddress

open Number

/-- Texts that divide into the same host are the same up to the colon in front of the port. -/
theorem Divides.exists_front {text other host port port' : List Char}
    (one : Divides text host port) (two : Divides other host port') :
    ∃ front, text = front ++ ':' :: port ∧ other = front ++ ':' :: port' := by
  cases one with
  | bracketed literal first =>
    cases two with
    | bracketed literal' first' => exact ⟨'[' :: (host ++ [']']), by simp, by simp⟩
    | plain nonempty unbracketed only last =>
      exact absurd (Address.colon_mem_of_isIpv6 literal) only
  | plain nonempty unbracketed only last =>
    cases two with
    | bracketed literal first => exact absurd (Address.colon_mem_of_isIpv6 literal) only
    | plain nonempty' unbracketed' only' last' => exact ⟨host, rfl, rfl⟩

/-- What is written for an address that was parsed is parsed to the same address. -/
theorem parse_text_of_parse {text : String} {address : SocketAddress}
    (parsed : parse text = .ok address) : parse address.text = .ok address := by
  obtain ⟨port, ⟨divides, number, _, same, inRange⟩, _⟩ := parse_eq_ok_iff.mp parsed
  rw [parse_text_eq_ok_iff, same]
  exact ⟨⟨Int.natCast_nonneg number, Int.ofNat_le.mpr inRange⟩, divides.isHost⟩

end SocketAddress

namespace Raw

/-- Two values of a member of this name say the same: they are equal, or they count the same by name,
or the name is that of an address and they are equal but for the spelling of the port's number. -/
inductive Agrees (name : String) : Raw → Raw → Prop where
  | refl (value : Raw) : Agrees name value value
  | counters {entries others : List (String × Int)}
    (alike : ∀ key, entries.lookup key = others.lookup key) :
    Agrees name (.counters entries) (.counters others)
  | port {front port other : List Char} {number : Nat} (spells : name ∈ PeerInfo.addressNames)
    (first : Number.Numeral port number) (second : Number.Numeral other number) :
    Agrees name (.text (String.ofList (front ++ ':' :: port)))
      (.text (String.ofList (front ++ ':' :: other)))

/-- What is told of the value of a member: the value itself, the address that it spells as it is
written, or its counters in the order of their names. -/
inductive Told (name : String) : Raw → Raw → Prop where
  | self (value : Raw) : Told name value value
  | address {text : String} {address : SocketAddress} (spells : name ∈ PeerInfo.addressNames)
    (parsed : SocketAddress.parse text = .ok address) : Told name (.text text) (.text address.text)
  | counters (entries : List (String × Int)) :
    Told name (.counters entries) (.counters (entries.mergeSort nameLe))

theorem lookup_eq_head?_filter (entries : List (String × Int)) (key : String) :
    entries.lookup key = ((entries.filter fun entry => entry.1 == key).head?).map Prod.snd := by
  induction entries with
  | nil => rfl
  | cons entry rest ih =>
    rw [List.lookup_cons, List.filter_cons, BEq.comm]
    cases entry.1 == key with
    | true => rfl
    | false => exact ih

/-- The order of names keeps what is counted under each: the counters of one name stay in order. -/
theorem lookup_mergeSort (entries : List (String × Int)) (key : String) :
    (entries.mergeSort nameLe).lookup key = entries.lookup key := by
  let named : String × Int → Bool := fun entry => entry.1 == key
  have level : (entries.filter named).Pairwise fun first second => nameLe first second := by
    refine List.pairwise_of_forall_mem_list fun first listed second listed' => ?_
    have same := eq_of_beq (List.mem_filter.mp listed).2
    have same' := eq_of_beq (List.mem_filter.mp listed').2
    rw [nameLe, same, same']
    exact decide_eq_true (String.le_refl key)
  have kept := (List.sublist_mergeSort nameLe_trans nameLe_total level
    List.filter_sublist).filter named
  rw [List.filter_filter] at kept
  have count := ((List.mergeSort_perm entries nameLe).filter named).length_eq
  have same : entries.filter named = (entries.mergeSort nameLe).filter named := by
    simp only [Bool.and_self] at kept
    exact kept.eq_of_length count.symm
  rw [lookup_eq_head?_filter, lookup_eq_head?_filter]
  exact congrArg (fun list => list.head?.map Prod.snd) same.symm

theorem agrees_of_parse {name text other : String} {address : SocketAddress}
    (spells : name ∈ PeerInfo.addressNames) (parsed : SocketAddress.parse text = .ok address)
    (parsed' : SocketAddress.parse other = .ok address) :
    Agrees name (.text text) (.text other) := by
  obtain ⟨port, ⟨divides, number, numeral, same, _⟩, _⟩ := SocketAddress.parse_eq_ok_iff.mp parsed
  obtain ⟨port', ⟨divides', number', numeral', same', _⟩, _⟩ :=
    SocketAddress.parse_eq_ok_iff.mp parsed'
  obtain ⟨front, spelled, spelled'⟩ := divides.exists_front divides'
  obtain rfl : number = number' := Int.ofNat.inj (same.symm.trans same')
  rw [← String.ofList_toList (s := text), ← String.ofList_toList (s := other), spelled, spelled']
  exact .port spells numeral numeral'

/-- Values of which the same is told say the same. -/
theorem Told.agrees {name : String} {value other told : Raw} (one : Told name value told)
    (two : Told name other told) : Agrees name value other := by
  cases one with
  | self =>
    cases two with
    | self => exact .refl _
    | address spells parsed =>
      exact agrees_of_parse spells (SocketAddress.parse_text_of_parse parsed) parsed
    | counters entries => exact .counters fun key => lookup_mergeSort entries key
  | @address text address spells parsed =>
    have written := SocketAddress.parse_text_of_parse parsed
    generalize same : Raw.text address.text = told at two
    cases two with
    | self => exact same ▸ agrees_of_parse spells parsed written
    | @address _ address' _ parsed' =>
      have written' := SocketAddress.parse_text_of_parse parsed'
      rw [← Raw.text.inj same, written] at written'
      exact agrees_of_parse spells parsed (Except.ok.inj written' ▸ parsed')
    | counters => contradiction
  | counters entries =>
    generalize same : Raw.counters (entries.mergeSort nameLe) = told at two
    cases two with
    | self => exact same ▸ .counters fun key => (lookup_mergeSort entries key).symm
    | address => contradiction
    | counters others =>
      refine .counters fun key => ?_
      rw [← lookup_mergeSort entries, ← lookup_mergeSort others, Raw.counters.inj same]

end Raw

namespace Projected

theorem yields_address (operation field text : String) :
    (address operation field text).Yields fun address => SocketAddress.parse text = .ok address :=
  fun _ taken => address_eq_ok_iff.mp taken

theorem yields_instant (operation field : String) (seconds : Int) :
    (instant operation field (.int seconds)).Yields fun time =>
      (time.clock : Int) = Instant.epoch.clock + seconds :=
  fun _ converted => (instant_int_eq_ok converted).2.2

end Projected

namespace Raw

/-- A value that may be null. -/
def orNull {α : Type} (kind : α → Raw) (value : Option α) : Raw := value.elim .null kind

def texts (texts : List String) : Raw := .list (texts.map .text)

def socket (address : SocketAddress) : Raw := .text address.text

variable (raw : Raw) (name : String)

theorem yields_intAt : (raw.intAt name).Yields fun value => raw.member? name = some (.int value) := by
  intro value success
  rw [intAt] at success
  split at success
  · next found => rw [found, Except.ok.inj success]
  · contradiction

theorem yields_boolAt :
    (raw.boolAt name).Yields fun value => raw.member? name = some (.bool value) := by
  intro value success
  rw [boolAt] at success
  split at success
  · next found => rw [found, Except.ok.inj success]
  · contradiction

theorem yields_textAt :
    (raw.textAt name).Yields fun value => raw.member? name = some (.text value) := by
  intro value success
  rw [textAt] at success
  split at success
  · next found => rw [found, Except.ok.inj success]
  · contradiction

theorem yields_textOrNullAt :
    (raw.textOrNullAt name).Yields fun value => raw.member? name = some (orNull .text value) := by
  intro value success
  rw [textOrNullAt] at success
  split at success
  · next found => rw [found, ← Except.ok.inj success]; rfl
  · next found => rw [found, ← Except.ok.inj success]; rfl
  · contradiction

theorem yields_numberOrNullAt :
    (raw.numberOrNullAt name).Yields fun value =>
      raw.member? name = some (orNull .number value) := by
  intro value success
  rw [numberOrNullAt] at success
  split at success
  · next found => rw [found, ← Except.ok.inj success]; rfl
  · next found => rw [found, ← Except.ok.inj success]; rfl
  · contradiction

theorem yields_entries :
    (raw.countsAt name).Yields fun value =>
      ∃ entries, raw.member? name = some (.counters entries) ∧ entries.mergeSort nameLe = value := by
  intro value success
  rw [countsAt] at success
  split at success
  · next entries found => exact ⟨entries, found, Except.ok.inj success⟩
  · contradiction

theorem intsOf_map (values : List Int) : intsOf (values.map .int) = values := by
  induction values with
  | nil => rfl
  | cons value rest ih => rw [List.map_cons, intsOf, ih]

variable {raw name}

theorem yields_intsAt {values : List Int} (found : raw.member? name = some (.list (values.map .int))) :
    (raw.intsAt name).Yields fun read => read = values := by
  have read : raw.intsAt name = .ok values := by
    rw [intsAt, itemsAt, found]
    exact congrArg Except.ok (intsOf_map values)
  exact fun value success => Except.ok.inj (success.symm.trans read)

namespace Shares

variable {members : List (String × Json)} {fields : List Field}
  (shares : Raw.Shares members fields raw raw)

include shares

theorem member_reportedInt (declared : (fields.find? fun field => field.name == name) =
      some (Shape.required name .int)) :
    raw.member? name = some (orNull .int (raw.reportedInt name)) := by
  obtain ⟨value, _, given, _⟩ := shares.required name (fun _ _ => Shape.read_int_eq_ok_iff) declared
  rw [reportedInt, given]
  rfl

theorem member_reportedBool (declared : (fields.find? fun field => field.name == name) =
      some (Shape.required name .bool)) :
    raw.member? name = some (orNull .bool (raw.reportedBool name)) := by
  obtain ⟨value, _, given, _⟩ := shares.required name (fun _ _ => Shape.read_bool_eq_ok_iff) declared
  rw [reportedBool, given]
  rfl

theorem member_reportedText (declared : (fields.find? fun field => field.name == name) =
      some (Shape.required name .text)) :
    raw.member? name = some (orNull .text (raw.reportedText name)) := by
  obtain ⟨value, _, given, _⟩ := shares.required name (fun _ _ => Shape.read_text_eq_ok_iff) declared
  rw [reportedText, given]
  rfl

theorem member_reportedTexts (declared : (fields.find? fun field => field.name == name) =
      some (Shape.required name (.list .text))) :
    raw.member? name = some (orNull texts (raw.reportedTexts name)) := by
  obtain ⟨value, _, given, _⟩ :=
    shares.required name (fun _ _ => Shape.read_texts_eq_ok_iff) declared
  rw [reportedTexts, given]
  exact congrArg (fun list => some (Raw.texts list)) (textsOf_map value).symm

/-- A member that may be null is reported where it is not. -/
theorem member_reportedInt_optional (declared : (fields.find? fun field => field.name == name) =
      some (Shape.optional name .int)) :
    raw.member? name = some (orNull .int (raw.reportedInt name)) := by
  obtain ⟨answer, held, given, _⟩ := shares name _ declared
  rw [reportedInt, given]
  rcases Shape.null_or_of_readMember_optional held with rfl | ⟨json, _, decoded⟩
  · rfl
  · obtain ⟨value, _, rfl⟩ := Shape.read_int_eq_ok_iff.mp decoded
    rfl

end Shares

end Raw

namespace PeerInfo

/-- The members that a peer tells of, by name. A connection that was made by hand is told of as one
that was added, which counts in the releases without connection types. -/
def told (peer : PeerInfo) : List (String × Raw) :=
  [("id", .int peer.id), ("addr", .socket peer.address),
    ("addrbind", .orNull .socket peer.addressBind),
    ("addrlocal", .orNull .socket peer.addressLocal), ("services", .text peer.services),
    ("relaytxes", .bool peer.relayTxes), ("lastsend", .int peer.lastSend),
    ("lastrecv", .int peer.lastRecv), ("bytessent", .int peer.bytesSent),
    ("bytesrecv", .int peer.bytesRecv),
    ("conntime", .int (peer.connectionTime.clock - Instant.epoch.clock)),
    ("timeoffset", .int peer.timeOffset), ("pingtime", .orNull .number peer.pingTime),
    ("minping", .orNull .number peer.minPing), ("pingwait", .orNull .number peer.pingWait),
    ("version", .int peer.version), ("subver", .text peer.subversion),
    ("inbound", .bool peer.inbound), ("synced_headers", .int peer.syncedHeaders),
    ("synced_blocks", .int peer.syncedBlocks), ("inflight", .list (peer.inflight.map .int)),
    ("bytessent_per_msg", .counters peer.bytesSentPerMessage),
    ("bytesrecv_per_msg", .counters peer.bytesRecvPerMessage), ("addnode", .bool peer.manual),
    ("banscore", .orNull .int peer.banScore), ("whitelisted", .orNull .bool peer.whitelisted),
    ("startingheight", .orNull .int peer.startingHeight),
    ("servicesnames", .orNull .texts peer.servicesNames),
    ("permissions", .orNull .texts peer.permissions), ("mapped_as", .orNull .int peer.mappedAs),
    ("network", .orNull .text peer.network),
    ("connection_type", .orNull .text peer.connectionType),
    ("last_transaction", .orNull .int peer.lastTransaction),
    ("last_block", .orNull .int peer.lastBlock),
    ("bip152_hb_to", .orNull .bool peer.highBandwidthTo),
    ("bip152_hb_from", .orNull .bool peer.highBandwidthFrom),
    ("addr_processed", .orNull .int peer.addrProcessed),
    ("addr_rate_limited", .orNull .int peer.addrRateLimited),
    ("transport_protocol_type", .orNull .text peer.transportProtocolType),
    ("session_id", .orNull .text peer.sessionId)]

/-- A peer tells of the member that a record holds under a name. -/
def Tells (raw : Raw) (peer : PeerInfo) (name : String) : Prop :=
  ∃ value told, raw.member? name = some value ∧ peer.told.lookup name = some told ∧
    Raw.Told name value told

theorem Tells.of_self {raw : Raw} {peer : PeerInfo} {name : String} {value : Raw}
    (found : raw.member? name = some value) (told : peer.told.lookup name = some value) :
    Tells raw peer name :=
  ⟨value, value, found, told, .self value⟩

/-- An address that may be null is told of as it is written. -/
theorem yields_addressOrNull {field : String} (spells : field ∈ addressNames)
    (text? : Option String) :
    (addressOrNull method field text?).Yields fun address? =>
      Raw.Told field (Raw.orNull .text text?) (Raw.orNull .socket address?) := by
  intro address? success
  cases text? with
  | none =>
    rw [← Except.ok.inj success]
    exact .self .null
  | some text =>
    obtain ⟨address, taken, rfl⟩ := exists_of_map_eq_ok success
    exact .address spells (address_eq_ok_iff.mp taken)

theorem yields_manualOf (raw : Raw) :
    (manualOf raw).Yields fun manual =>
      raw.reportedText "connection_type" = none → raw.member? "addnode" = some (.bool manual) := by
  intro manual success untyped
  rw [manualOf, untyped] at success
  dsimp only at success
  split at success
  · next added reported =>
    rw [Raw.reportedBool] at reported
    split at reported
    · next found => rw [found, Option.some.inj reported, Except.ok.inj success]
    · contradiction
  · contradiction

/-- What is known of a peer that a record is projected to. -/
structure Recalls (raw : Raw) (peer : PeerInfo) : Prop where
  core : ∀ field ∈ Shape.peerCoreFields, Tells raw peer field.name
  manual : raw.reportedText "connection_type" = none →
    raw.member? "addnode" = some (.bool peer.manual)
  reporting : peer.reporting raw = peer

theorem yields_recalls {raw : Raw} {blocks : List Int}
    (inflight : raw.member? "inflight" = some (.list (blocks.map .int))) :
    (ofRaw raw).Yields (Recalls raw) := by
  rw [ofRaw]
  refine .bind (raw.yields_intAt "id") fun id id' => ?_
  refine .bind (raw.yields_textAt "addr") fun text addr => ?_
  refine .bind (yields_address method "addr" text) fun address parsed => ?_
  refine .bind (raw.yields_textOrNullAt "addrbind") fun bind addrbind => ?_
  refine .bind (yields_addressOrNull (by decide) bind) fun addressBind bound => ?_
  refine .bind (raw.yields_textOrNullAt "addrlocal") fun here addrlocal => ?_
  refine .bind (yields_addressOrNull (by decide) here) fun addressLocal placed => ?_
  refine .bind (raw.yields_textAt "services") fun _ services => ?_
  refine .bind (raw.yields_boolAt "relaytxes") fun _ relaytxes => ?_
  refine .bind (raw.yields_intAt "lastsend") fun _ lastsend => ?_
  refine .bind (raw.yields_intAt "lastrecv") fun _ lastrecv => ?_
  refine .bind (raw.yields_intAt "bytessent") fun _ bytessent => ?_
  refine .bind (raw.yields_intAt "bytesrecv") fun _ bytesrecv => ?_
  refine .bind (raw.yields_intAt "conntime") fun seconds conntime => ?_
  refine .bind (yields_instant method "conntime" seconds) fun connectionTime clock => ?_
  refine .bind (raw.yields_intAt "timeoffset") fun _ timeoffset => ?_
  refine .bind (raw.yields_numberOrNullAt "pingtime") fun _ pingtime => ?_
  refine .bind (raw.yields_numberOrNullAt "minping") fun _ minping => ?_
  refine .bind (raw.yields_numberOrNullAt "pingwait") fun _ pingwait => ?_
  refine .bind (raw.yields_intAt "version") fun _ version => ?_
  refine .bind (raw.yields_textAt "subver") fun _ subver => ?_
  refine .bind (raw.yields_boolAt "inbound") fun _ inbound => ?_
  refine .bind (yields_manualOf raw) fun _ manual => ?_
  refine .bind (raw.yields_intAt "synced_headers") fun _ headers => ?_
  refine .bind (raw.yields_intAt "synced_blocks") fun _ synced => ?_
  refine .bind (Raw.yields_intsAt inflight) fun _ same => ?_
  refine .bind (raw.yields_entries "bytessent_per_msg") fun _ bytessent' => ?_
  refine .bind (raw.yields_entries "bytesrecv_per_msg") fun _ bytesrecv' => ?_
  subst same
  obtain ⟨sent, sentHeld, rfl⟩ := bytessent'
  obtain ⟨recv, recvHeld, rfl⟩ := bytesrecv'
  have since : Raw.int seconds = .int (connectionTime.clock - Instant.epoch.clock) := by
    rw [clock, add_sub_cancel_left]
  refine .of_ok ⟨?_, manual, rfl⟩
  simp only [Shape.peerCoreFields, List.forall_mem_cons]
  exact ⟨.of_self id' rfl, ⟨_, _, addr, rfl, .address (by decide) parsed⟩,
    ⟨_, _, addrbind, rfl, bound⟩, ⟨_, _, addrlocal, rfl, placed⟩, .of_self services rfl,
    .of_self relaytxes rfl, .of_self lastsend rfl, .of_self lastrecv rfl, .of_self bytessent rfl,
    .of_self bytesrecv rfl, .of_self (since ▸ conntime) rfl, .of_self timeoffset rfl,
    .of_self pingtime rfl, .of_self minping rfl, .of_self pingwait rfl, .of_self version rfl,
    .of_self subver rfl, .of_self inbound rfl, .of_self headers rfl, .of_self synced rfl,
    .of_self inflight rfl, ⟨_, _, sentHeld, rfl, .counters sent⟩,
    ⟨_, _, recvHeld, rfl, .counters recv⟩, List.forall_mem_nil _⟩

/-- Members whose fields are as the record reports them. -/
def reportedFields : List Field :=
  Shape.transportFields ++ Shape.compactRelayFields ++ Shape.peerEarlyFields.tail ++
    Shape.peerPermissionFields ++ Shape.peerMappingFields ++ Shape.peerConnectionFields

theorem Recalls.tells_reported {raw : Raw} {peer : PeerInfo} {members : List (String × Json)}
    {fields : List Field} (recalls : Recalls raw peer)
    (shares : Raw.Shares members fields raw raw) :
    ∀ field ∈ reportedFields, (fields.find? fun other => other.name == field.name) = some field →
      Tells raw peer field.name := by
  rw [← recalls.reporting]
  simp only [reportedFields, Shape.transportFields, Shape.compactRelayFields,
    Shape.peerEarlyFields, Shape.peerPermissionFields, Shape.peerMappingFields,
    Shape.peerConnectionFields, List.tail_cons, List.cons_append, List.nil_append,
    List.forall_mem_cons]
  exact ⟨fun declared => .of_self (shares.member_reportedText declared) rfl,
    fun declared => .of_self (shares.member_reportedText declared) rfl,
    fun declared => .of_self (shares.member_reportedBool declared) rfl,
    fun declared => .of_self (shares.member_reportedBool declared) rfl,
    fun declared => .of_self (shares.member_reportedInt declared) rfl,
    fun declared => .of_self (shares.member_reportedInt declared) rfl,
    fun declared => .of_self (shares.member_reportedInt declared) rfl,
    fun declared => .of_self (shares.member_reportedBool declared) rfl,
    fun declared => .of_self (shares.member_reportedInt declared) rfl,
    fun declared => .of_self (shares.member_reportedTexts declared) rfl,
    fun declared => .of_self (shares.member_reportedTexts declared) rfl,
    fun declared => .of_self (shares.member_reportedInt_optional declared) rfl,
    fun declared => .of_self (shares.member_reportedText declared) rfl,
    fun declared => .of_self (shares.member_reportedText declared) rfl,
    fun declared => .of_self (shares.member_reportedInt declared) rfl,
    fun declared => .of_self (shares.member_reportedInt declared) rfl,
    List.forall_mem_nil _⟩

/-- Every member of a peer is one of all releases, one that is reported as it is, or the flag of
early releases. -/
theorem mem_groups_of_mem {release : Release} {field : Field}
    (listed : field ∈ Shape.peerFieldsOf release) :
    field ∈ Shape.peerCoreFields ∨ field ∈ reportedFields ∨
      release ≤ .v20 ∧ field = Shape.required "addnode" .bool := by
  have height (listed : field ∈ Shape.startingHeightFields) : field ∈ Shape.peerEarlyFields.tail :=
    List.mem_of_mem_drop (show field ∈ Shape.peerEarlyFields.tail.drop 2 from listed)
  have early : field ∈ Shape.peerEarlyFields ↔
      field = Shape.required "addnode" .bool ∨ field ∈ Shape.peerEarlyFields.tail := List.mem_cons
  simp only [Shape.peerFieldsOf, List.mem_append, List.mem_ite_nil_right, early] at listed
  simp only [reportedFields, List.mem_append]
  tauto

theorem Recalls.tells {release : Release} {members : List (String × Json)}
    {rows : List (String × Raw)} {name : String} {peer : PeerInfo}
    (recalls : Recalls (.record name rows) peer)
    (success : Shape.readFields (Shape.peerFieldsOf release) members = .ok rows) :
    ∀ field ∈ Shape.peerFieldsOf release, Tells (.record name rows) peer field.name := by
  intro field listed
  have declared := Shape.find?_of_mem (Shape.peerVersions.distinct release) listed
  rcases mem_groups_of_mem listed with core | reported | ⟨early, rfl⟩
  · exact recalls.core field core
  · exact recalls.tells_reported (Raw.shares_self success) field reported declared
  · have untyped : ((Shape.peerFieldsOf release).find? fun field =>
        field.name == "connection_type") = none := by
      cases release <;> first | rfl | exact absurd early (by decide)
    refine .of_self (recalls.manual ?_) rfl
    rw [Raw.reportedText, Raw.member?, Shape.lookup_of_undeclared success untyped]

/-- Every member that a release declares is told by the peer that its record is projected to. -/
theorem yields_tells {release : Release} {members : List (String × Json)}
    {rows : List (String × Raw)} {name : String}
    (success : Shape.readFields (Shape.peerFieldsOf release) members = .ok rows) :
    (ofRaw (.record name rows)).Yields fun peer =>
      ∀ field ∈ Shape.peerFieldsOf release, Tells (.record name rows) peer field.name := by
  have shares : Raw.Shares members (Shape.peerFieldsOf release) (.record name rows)
      (.record name rows) := Raw.shares_self success
  have declared : ((Shape.peerFieldsOf release).find? fun field => field.name == "inflight") =
      some (Shape.required "inflight" (.list .int)) := by
    cases release <;> rfl
  obtain ⟨blocks, _, inflight, _⟩ :=
    shares.required "inflight" (fun _ _ => Shape.read_ints_eq_ok_iff) declared
  exact fun peer projected => (yields_recalls inflight peer projected).tells success

/-- Records of one release that are projected to one peer say the same in every member that the
release declares. -/
theorem members_agree {release : Release} {binding : Binding Dialect} {result other : Json}
    {rows others : List Raw} {raw raw' : Raw} {peer : PeerInfo}
    (bound : release.profile.binding? .getPeerInfo = some binding)
    (decoded : binding.body.decode result = .ok (.list rows)) (listed : raw ∈ rows)
    (decoded' : binding.body.decode other = .ok (.list others)) (listed' : raw' ∈ others)
    (projected : ofRaw raw = .ok peer) (projected' : ofRaw raw' = .ok peer) :
    ∃ name fields, binding.body.shape = .list (.record name fields) ∧
      ∀ field ∈ fields, ∃ value value', raw.member? field.name = some value ∧
        raw'.member? field.name = some value' ∧ Raw.Agrees field.name value value' := by
  obtain ⟨name, shape⟩ := Binding.shape_peers bound
  have tells : ∀ {result rows raw}, binding.body.decode result = .ok (.list rows) → raw ∈ rows →
      ofRaw raw = .ok peer → ∀ field ∈ Shape.peerFieldsOf release, Tells raw peer field.name := by
    intro result rows raw decoded listed projected
    rw [Dialect.decode_eq_ok_iff, shape, Shape.read_list_eq_ok_iff] at decoded
    obtain ⟨items, _, rfl, same, each⟩ := decoded
    obtain ⟨json, _, read⟩ := exists_source_of_mem (Raw.list.inj same ▸ each) listed
    obtain ⟨members, entries, rfl, rfl, success⟩ := Shape.read_record_eq_ok_iff.mp read
    exact yields_tells success peer projected
  refine ⟨name, _, shape, fun field declared => ?_⟩
  obtain ⟨value, told, found, known, one⟩ := tells decoded listed projected field declared
  obtain ⟨value', told', found', known', two⟩ := tells decoded' listed' projected' field declared
  obtain rfl := Option.some.inj (known.symm.trans known')
  exact ⟨value, value', found, found', one.agrees two⟩

/-- Two records of release 17, one of which spells its port with a zero in front, are projected to one
peer: their addresses say the same, although they are not equal. -/
theorem members_agree_spelling :
    let record (addr : String) : Json :=
      .obj [("id", .int 0), ("addr", .str addr), ("services", .str "0000000000000409"),
        ("relaytxes", .bool true), ("lastsend", .int 0), ("lastrecv", .int 0),
        ("bytessent", .int 182), ("bytesrecv", .int 0), ("conntime", .int 1600000000),
        ("timeoffset", .int (-1)), ("version", .int 70015), ("subver", .str "/Node:0.17.2/"),
        ("inbound", .bool false), ("synced_headers", .int (-1)), ("synced_blocks", .int (-1)),
        ("inflight", .arr []), ("bytessent_per_msg", .obj [("version", .int 150)]),
        ("bytesrecv_per_msg", .obj []), ("addnode", .bool true), ("banscore", .int 0),
        ("whitelisted", .bool false), ("startingheight", .int 500)]
    ∃ binding raw raw' peer, Release.v17.profile.binding? .getPeerInfo = some binding ∧
      binding.body.decode (.arr [record "[::1]:8333"]) = .ok (.list [raw]) ∧
      binding.body.decode (.arr [record "[::1]:08333"]) = .ok (.list [raw']) ∧
      ofRaw raw = .ok peer ∧ ofRaw raw' = .ok peer ∧
      Raw.Agrees "addr" (.text "[::1]:8333") (.text "[::1]:08333") := by
  intro record
  let binding : Binding Dialect := Binding.entry .getPeerInfo .v17 (some .v18)
    (Binding.noArguments "getpeerinfo") (.list .peerInfoV17) .peers
  have bound : Release.v17.profile.binding? .getPeerInfo = some binding := rfl
  obtain ⟨raw, raw', peer, decoded, decoded', addr, addr', projected, projected'⟩ :
      ∃ raw raw' peer, binding.body.decode (.arr [record "[::1]:8333"]) = .ok (.list [raw]) ∧
        binding.body.decode (.arr [record "[::1]:08333"]) = .ok (.list [raw']) ∧
        raw.member? "addr" = some (.text "[::1]:8333") ∧
        raw'.member? "addr" = some (.text "[::1]:08333") ∧
        ofRaw raw = .ok peer ∧ ofRaw raw' = .ok peer :=
    ⟨_, _, _, rfl, rfl, rfl, rfl, rfl, rfl⟩
  obtain ⟨name, fields, shape, agree⟩ := members_agree bound decoded (List.mem_singleton_self _)
    decoded' (List.mem_singleton_self _) projected projected'
  obtain ⟨-, rfl⟩ := Shape.record.inj (Shape.list.inj shape)
  obtain ⟨value, value', found, found', agrees⟩ :=
    agree (Shape.required "addr" .text) (List.mem_cons_of_mem _ List.mem_cons_self)
  obtain rfl := Option.some.inj (addr.symm.trans found)
  obtain rfl := Option.some.inj (addr'.symm.trans found')
  exact ⟨binding, raw, raw', peer, bound, decoded, decoded', projected, projected', agrees⟩

end PeerInfo

end NodeClient
