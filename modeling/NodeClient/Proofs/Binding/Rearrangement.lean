import NodeClient.Proofs.Projection.Arrangement
import NodeClient.Proofs.Projection.Availability
import NodeClient.Proofs.Projection.Counters

/-! # Rearranged results

Results of a bound operation that are rearrangements of each other are projected onto the same value,
or neither of them is.
-/

namespace NodeClient

/-- What a result is projected onto, if it is read and has a projection. -/
def Dialect.canonical? (dialect : Dialect) (result : Json) : Option Canonical :=
  (dialect.decode result).toOption.bind fun raw => (dialect.projection.apply raw).toOption

theorem Dialect.canonical?_eq_some_iff {dialect : Dialect} {result : Json} {canonical : Canonical} :
    dialect.canonical? result = some canonical ↔
      ∃ raw, dialect.decode result = .ok raw ∧ dialect.projection.apply raw = .ok canonical := by
  rw [canonical?]
  cases dialect.decode result with
  | error cause => simp [Except.toOption]
  | ok raw => cases applied : dialect.projection.apply raw <;> simp [Except.toOption, applied]

/-- Only the projection onto peers answers peers. -/
theorem Projection.eq_peers_of_apply {projection : Projection} {raw : Raw} {peers : List PeerInfo}
    (applied : projection.apply raw = .ok (.peers peers)) :
    projection = .peers ∧ eachItem PeerInfo.ofRaw raw = .ok peers := by
  cases projection with
  | peers =>
    obtain ⟨values, each, same⟩ := Projected.exists_of_map_eq_ok applied
    exact ⟨rfl, Canonical.peers.inj same ▸ each⟩
  | asSent => exact nomatch applied
  | _ =>
    obtain ⟨_, _, other⟩ := Projected.exists_of_map_eq_ok applied
    exact nomatch other

namespace Binding

variable {release : Release} {operation : Operation} {binding : Binding Dialect}

/-- Results that are left as they were sent are no counters and hold none. -/
theorem sorted_of_asSent (bound : release.profile.binding? operation = some binding)
    (sent : binding.body.projection = .asSent) {result : Json} {raw : Raw}
    (read : binding.body.shape.read result = .ok raw) : raw.sorted = raw := by
  have scalar : binding.body.shape = .null ∨ binding.body.shape = .bool ∨
      binding.body.shape = .int := by
    obtain ⟨listed, _, _⟩ := of_binding? bound
    fin_cases listed <;>
      first | exact .inl rfl | exact .inr (.inl rfl) | exact .inr (.inr rfl) | contradiction
  rcases scalar with null | bool | int
  · rw [null] at read
    cases result <;> cases read
    rfl
  · rw [bool] at read
    obtain ⟨_, _, rfl⟩ := Shape.read_bool_eq_ok_iff.mp read
    rfl
  · rw [int] at read
    obtain ⟨_, _, rfl⟩ := Shape.read_int_eq_ok_iff.mp read
    rfl

/-- What is projected is what is projected with the counters in order. -/
theorem canonical?_eq (bound : release.profile.binding? operation = some binding) (result : Json) :
    binding.body.canonical? result =
      (binding.body.shape.answer result).bind fun raw =>
        (binding.body.projection.apply raw).toOption := by
  rw [Dialect.canonical?, Dialect.decode, Shape.answer]
  cases read : binding.body.shape.read result with
  | error problems => rfl
  | ok raw =>
    have same : binding.body.projection.apply raw.sorted = binding.body.projection.apply raw := by
      by_cases sent : binding.body.projection = .asSent
      · rw [sorted_of_asSent bound sent read]
      · exact Projection.apply_sorted sent raw
    exact congrArg Except.toOption same.symm

/-- Neither the order of members nor members that the release does not declare have an influence on a
result, and the counters of a peer come out in one order. -/
theorem canonical?_rearranged (bound : release.profile.binding? operation = some binding)
    {result other : Json} (rearranged : binding.body.shape.Rearranged result other) :
    binding.body.canonical? result = binding.body.canonical? other ∧
      ∀ peers, binding.body.canonical? result = some (.peers peers) → result.NamesDistinct →
        ∀ peer ∈ peers,
          Ascending peer.bytesSentPerMessage ∧ Ascending peer.bytesRecvPerMessage := by
  refine ⟨?_, ?_⟩
  · rw [canonical?_eq bound, canonical?_eq bound, rearranged.answer_eq.2]
  · intro peers projected distinct
    obtain ⟨raw, decoded, applied⟩ := Dialect.canonical?_eq_some_iff.mp projected
    obtain ⟨projects, each⟩ := Projection.eq_peers_of_apply applied
    rw [projection_eq_projectionFor bound] at projects
    obtain rfl : operation = .getPeerInfo := by cases operation <;> first | rfl | contradiction
    obtain ⟨name, shape⟩ := shape_peers bound
    rw [Dialect.decode_eq_ok_iff, shape] at decoded
    obtain ⟨items, rows, rfl, rfl, read⟩ := Shape.read_list_eq_ok_iff.mp decoded
    have yields : (Projected.each PeerInfo.ofRaw rows).Yields fun peers => ∀ peer ∈ peers,
        Ascending peer.bytesSentPerMessage ∧ Ascending peer.bytesRecvPerMessage := by
      refine .each fun row listed => PeerInfo.yields_ofRaw ?_
      obtain ⟨item, source, answered⟩ := exists_source_of_mem read listed
      exact Shape.countsOnce_of_read (Value.namesDistinct_of_item distinct source) answered
    exact yields peers each

/-- A peer of release 18 that is told in two ways: the counters change their order, and a member is
added that the release does not declare. -/
theorem canonical?_rearranged_peer :
    let peer (counts : List (String × Json)) : List (String × Json) :=
      [("bytessent_per_msg", .obj counts), ("bytesrecv_per_msg", .obj []), ("id", .int 1),
        ("addr", .str "1.2.3.4:8333"), ("services", .str "0"), ("relaytxes", .bool true),
        ("lastsend", .int 5), ("lastrecv", .int 6), ("bytessent", .int 7), ("bytesrecv", .int 8),
        ("conntime", .int 9), ("timeoffset", .int 0), ("version", .int 70015), ("subver", .str ""),
        ("inbound", .bool false), ("synced_headers", .int (-1)), ("synced_blocks", .int (-1)),
        ("inflight", .arr []), ("addnode", .bool true), ("banscore", .int 0),
        ("whitelisted", .bool false), ("startingheight", .int 100)]
    let told : Json := .arr [.obj (peer [("tx", .int 5), ("addr", .int 3)])]
    let other : Json :=
      .arr [.obj (("permissions", .null) :: peer [("addr", .int 3), ("tx", .int 5)])]
    let dialect : Dialect := ⟨noArguments "getpeerinfo", .list .peerInfoV17, .peers⟩
    ∃ peers, dialect.canonical? told = some (.peers peers) ∧
      dialect.canonical? other = some (.peers peers) ∧
      ∀ peer ∈ peers, Ascending peer.bytesSentPerMessage ∧ Ascending peer.bytesRecvPerMessage := by
  intro peer told other dialect
  have bound : Release.v18.profile.binding? .getPeerInfo =
      some ⟨.getPeerInfo, .v17, some .v18, dialect⟩ := rfl
  have swapped : Shape.peerInfoV17.Rearranged
      (.obj (peer [("tx", .int 5), ("addr", .int 3)]))
      (.obj (peer [("addr", .int 3), ("tx", .int 5)])) := by
    refine .member ?_ (.order .counters (by decide) (.swap _ _ _)) [] _
    have distinct : ((Shape.peerCoreFields ++ Shape.peerEarlyFields).map FieldOf.name).Nodup := by
      decide
    have found : ((Shape.peerCoreFields ++ Shape.peerEarlyFields).find? fun field =>
        field.name == "bytessent_per_msg") = some (Shape.required "bytessent_per_msg" .counters) :=
      rfl
    exact fun kind declares => Shape.kind_of_declares distinct found declares
  have added : Shape.peerInfoV17.Rearranged
      (.obj (peer [("addr", .int 3), ("tx", .int 5)]))
      (.obj (("permissions", .null) :: peer [("addr", .int 3), ("tx", .int 5)])) := by
    refine .add ?_ _ _
    intro kind declares
    obtain ⟨field, listed, named, _⟩ := Shape.declares_record_iff.mp declares
    have unnamed : ∀ field ∈ Shape.peerCoreFields ++ Shape.peerEarlyFields,
        field.name ≠ "permissions" := by decide
    exact unnamed field listed named
  have rearranged : dialect.shape.Rearranged told other := by
    refine .item ?_ (swapped.trans added) [] []
    rintro _ ⟨⟩
    rfl
  obtain ⟨same, ascend⟩ := canonical?_rearranged bound rearranged
  have projected : ∃ peers, dialect.canonical? told = some (.peers peers) := ⟨_, rfl⟩
  obtain ⟨peers, projected⟩ := projected
  refine ⟨peers, projected, same ▸ projected, ascend peers projected ?_⟩
  simp [told, peer, Value.NamesDistinct, Value.ItemsDistinct, Value.MembersDistinct]

end Binding

end NodeClient
