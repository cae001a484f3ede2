import NodeClient.Proofs.Binding.Table
import NodeClient.Proofs.Encoding.Arguments

/-! # The same arguments to a newer release

A signature that only appends optional slots to an older one encodes whatever the older one takes to
the same list: the new slots are not set, so they are dropped at the end, and the group reads the old
slots. The signatures of the table only grow in this way from release to release, hence a newer
release can take more arguments, but it gets the same list for the old ones.
-/

namespace NodeClient

namespace Signature

/-- A newer signature of the same method and group, with more optional slots at the end. -/
structure Extends (older newer : Signature) : Prop where
  method : newer.method = older.method
  group : newer.exactlyOneOf = older.exactlyOneOf
  slots : ∃ extra, newer.slots = older.slots ++ extra ∧ ∀ slot ∈ extra, slot.isRequired = false

theorem Extends.refl (signature : Signature) : signature.Extends signature :=
  ⟨rfl, rfl, [], (List.append_nil _).symm, fun _ member => absurd member List.not_mem_nil⟩

/-- A name that is not that of a slot has no value that is set. -/
theorem memberOrNull_of_declares {signature : Signature} {values : List (String × Argument)}
    (declared : signature.Declares values) {name : String} (unknown : name ∉ signature.names) :
    Value.memberOrNull name values = .null := by
  cases found : values.lookup name with
  | none => rw [Value.memberOrNull, found, Option.getD_none]
  | some value =>
    obtain ⟨front, back, split, _⟩ := List.lookup_eq_some_iff.mp found
    have member : (name, value) ∈ values := by
      rw [split]
      exact List.mem_append_right _ List.mem_cons_self
    cases value with
    | null => rw [Value.memberOrNull, found, Option.getD_some]
    | _ => exact absurd (declared _ member rfl) unknown

variable {older newer : Signature} {values : List (String × Argument)}

theorem Extends.names_subset (grown : older.Extends newer) : older.names ⊆ newer.names := by
  obtain ⟨extra, slots, _⟩ := grown.slots
  rw [names, names, slots, List.map_append]
  exact List.subset_append_left _ _

theorem Extends.declares (grown : older.Extends newer) (declared : older.Declares values) :
    newer.Declares values :=
  fun given member set => grown.names_subset (declared given member set)

/-- The members of the group have the slots they had. -/
theorem Extends.supplied_eq (grown : older.Extends newer) (values : List (String × Argument)) :
    newer.supplied values = older.supplied values := by
  obtain ⟨extra, slots, _⟩ := grown.slots
  rw [supplied, supplied, grown.group]
  refine List.filter_congr fun name member => ?_
  obtain ⟨slot, declared, named⟩ := List.mem_map.mp (older.mem_names_of_mem_group member)
  have found : (older.slots.find? fun slot => slot.name == name).isSome :=
    List.find?_isSome.mpr ⟨slot, declared, beq_iff_eq.mpr named⟩
  simp only [isSupplied, slots, List.find?_append, Option.or_of_isSome found]

/-- Whatever the older signature declares is encoded alike by both, also when it is refused. -/
theorem Extends.encode_eq (grown : older.Extends newer) (declared : older.Declares values) :
    newer.encode values = older.encode values := by
  rw [encode_of_declares declared, encode_of_declares (grown.declares declared), grown.method,
    grown.group, grown.supplied_eq]
  obtain ⟨extra, slots, optional⟩ := grown.slots
  have unset : extra.map (fun slot => (slot, Value.memberOrNull slot.name values)) =
      extra.map fun slot => (slot, .null) := by
    refine List.map_congr_left fun slot member => ?_
    have unknown : slot.name ∉ older.names := by
      have nodup := newer.names_nodup
      rw [names, slots, List.map_append] at nodup
      exact fun known => List.disjoint_of_nodup_append nodup known (List.mem_map_of_mem member)
    rw [memberOrNull_of_declares declared unknown]
  have same : Encoding.elide older.method newer.slots
        (newer.names.map fun name => Value.memberOrNull name values) =
      Encoding.elide older.method older.slots
        (older.names.map fun name => Value.memberOrNull name values) := by
    simp only [names, List.map_map, Function.comp_def, slots]
    refine Encoding.elide_append _ (List.length_map _).le (List.length_map _).le optional ?_
    rw [Encoding.pair_map, Encoding.pair_map, List.map_append, unset]
  rw [same]

end Signature

namespace Binding

private theorem appends (slots : List Slot) (name : String) (default : Option Argument) :
    ∃ extra, slots ++ [optional name default] = slots ++ extra ∧
      ∀ slot ∈ extra, slot.isRequired = false := by
  refine ⟨_, rfl, fun slot member => ?_⟩
  rw [List.mem_singleton.mp member]
  rfl

/-- From release to release, signatures only grow at the end. -/
theorem signatureFor_extends {older newer : Release} (le : older ≤ newer) (operation : Operation) :
    (signatureFor older operation).Extends (signatureFor newer operation) := by
  have later {last : Release} (behind : ¬ older ≤ last) : ¬ newer ≤ last := fun before =>
    behind (Nat.le_trans le before)
  cases operation with
  | addNode =>
    rw [signatureFor, signatureFor]
    split_ifs with before after after
    · exact .refl _
    · exact ⟨rfl, rfl, appends [required "node", required "command"] "v2transport" none⟩
    · exact absurd after (later before)
    · exact .refl _
  | getNodeAddresses =>
    rw [signatureFor, signatureFor]
    split_ifs with before after after
    · exact .refl _
    · exact ⟨rfl, rfl, appends [optional "count" (some (.int 1))] "network" none⟩
    · exact absurd after (later before)
    · exact .refl _
  | _ => exact .refl _

/-- Binding a newer release never changes what is sent. Arguments that the older release encodes give
the same list, and the only arguments that the newer release gains are those that set a slot which
the older one does not declare. -/
theorem encode_upgrade {operation : Operation} {older newer : Release} (le : older ≤ newer)
    {before after : Binding Dialect} (bound : older.profile.binding? operation = some before)
    (boundToo : newer.profile.binding? operation = some after) (values : List (String × Argument)) :
    (∀ wire, before.body.signature.encode values = .ok wire →
      after.body.signature.encode values = .ok wire) ∧
    ∀ wire error, after.body.signature.encode values = .ok wire →
      before.body.signature.encode values = .error error →
        ∃ name, error = ⟨before.body.signature.method, .unsupportedArgument name⟩ ∧
          name ∈ after.body.signature.names ∧ name ∉ before.body.signature.names := by
  have grown : before.body.signature.Extends after.body.signature := by
    rw [signature_eq_signatureFor bound, signature_eq_signatureFor boundToo]
    exact signatureFor_extends le operation
  refine ⟨?_, ?_⟩
  · intro wire encoded
    rw [grown.encode_eq (Signature.encode_eq_ok_iff.mp encoded).1, encoded]
  · intro wire error encoded rejected
    by_cases declared : before.body.signature.Declares values
    · rw [grown.encode_eq declared, rejected] at encoded
      contradiction
    · obtain ⟨given, member, set, unknown, refused⟩ :=
        Signature.encode_of_not_declares declared
      refine ⟨given.1, Except.error.inj (rejected.symm.trans refused), ?_, unknown⟩
      exact (Signature.encode_eq_ok_iff.mp encoded).1 given member set

/-- Between releases 25 and 26 the operation that adds a node gained the flag for the transport:
without the flag both releases are sent the same list, with it the older one refuses it by name. -/
theorem encode_upgrade_addNode :
    let before := entry .addNode .v17 (some .v25) addNodeSignature .null .asSent
    let after := entry .addNode .v26 none addNodeTransportSignature .null .asSent
    let plain := [("node", .str "n:8333"), ("command", .const (.addNode .onetry))]
    Release.v25 ≤ Release.v26 ∧
      Release.v25.profile.binding? .addNode = some before ∧
      Release.v26.profile.binding? .addNode = some after ∧
      after.body.signature.encode plain = .ok [.str "n:8333", .str "onetry"] ∧
      ∃ name, EncodeError.mk "addnode" (.unsupportedArgument "v2transport") =
          ⟨before.body.signature.method, .unsupportedArgument name⟩ ∧
        name ∈ after.body.signature.names ∧ name ∉ before.body.signature.names := by
  intro before after plain
  have le : Release.v25 ≤ Release.v26 := by decide
  have bound : Release.v25.profile.binding? .addNode = some before := rfl
  have boundToo : Release.v26.profile.binding? .addNode = some after := rfl
  have kept := (encode_upgrade le bound boundToo plain).1 [.str "n:8333", .str "onetry"] rfl
  have gained := (encode_upgrade le bound boundToo (plain ++ [("v2transport", .bool true)])).2
    [.str "n:8333", .str "onetry", .bool true] _ rfl rfl
  exact ⟨le, bound, boundToo, kept, gained⟩

end Binding

end NodeClient
