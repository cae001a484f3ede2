import NodeClient.Proofs.Encoding.Agreement
import NodeClient.Proofs.Encoding.Idempotence

/-! # Exactly one member of a group

Of the members of a group exactly one must be supplied. The encoder counts those that are set to
anything but their default, on the values it is given. The server sees the wire list only, where holes
hold defaults and the end is cut off; there, too, exactly one member stands out.
-/

namespace NodeClient

/-- An item is not the default of its slot. Where no default is stated, every item differs. -/
def Slot.Differs (slot : Slot) (item : Argument) : Prop :=
  ∀ default, slot.default? = some default → Value.equals item default = false

/-- The wire list holds what is settled for the rows in front; behind them nothing is set. -/
theorem Encoding.exists_rows_of_elide {operation : String} {slots : List Slot}
    {value : Slot → Argument} {wire : List Argument}
    (encoded : elide operation slots (slots.map value) = .ok wire) :
    ∃ rows dropped, (slots.map fun slot => (slot, value slot)) = rows ++ dropped ∧
      (∀ row ∈ rows, Fillable row) ∧ (∀ row ∈ dropped, row.2.isNull = true) ∧
      wire = rows.map fun row => (settled row).toWire := by
  obtain ⟨_, set, fillable, sent⟩ := elide_eq_ok_iff.mp encoded
  obtain ⟨dropped, split, unset⟩ := exists_dropped slots (slots.map value)
  rw [pair_map] at split
  exact ⟨_, dropped, split, fillable_of_sent set fillable, unset, sent.symm⟩

/-- A row in front of the dropped ones stands at the place of its slot. -/
theorem Encoding.getElem?_rows {slots : List Slot} {value : Slot → Argument}
    {rows dropped : List (Slot × Argument)}
    (split : (slots.map fun slot => (slot, value slot)) = rows ++ dropped) {place : Nat}
    (within : place < rows.length) :
    rows[place]? = slots[place]?.map fun slot => (slot, value slot) := by
  rw [← List.getElem?_map, split, List.getElem?_append_left within]

namespace Signature

/-- The members of the group that are set, and not to their default. -/
def picked (signature : Signature) (values : List (String × Argument)) : Set String :=
  {name | name ∈ signature.exactlyOneOf ∧ ∃ slot ∈ signature.slots, slot.name = name ∧
    (Value.memberOrNull name values).isNull = false ∧
    slot.Differs (Value.memberOrNull name values)}

/-- The members of the group that have an item in a wire list, and one that is not their default. -/
def standingOut (signature : Signature) (wire : List Argument) : Set String :=
  {name | name ∈ signature.exactlyOneOf ∧ ∃ (place : Nat) (slot : Slot) (item : Argument),
    signature.slots[place]? = some slot ∧ slot.name = name ∧ wire[place]? = some item ∧
    slot.Differs item}

theorem chosen_iff {row : Slot × Argument} :
    chosen row = true ↔ row.2.isNull = false ∧ row.1.Differs row.2 := by
  cases default : row.1.default? <;> simp [chosen, Slot.Differs, default]

/-- The encoder finds the members that are picked. -/
theorem mem_supplied_iff {signature : Signature} {values : List (String × Argument)} {name : String} :
    name ∈ signature.supplied values ↔ name ∈ signature.picked values := by
  rw [supplied, List.mem_filter]
  constructor
  · rintro ⟨member, supplied⟩
    obtain ⟨slot, declared, rfl⟩ := List.mem_map.mp (signature.mem_names_of_mem_group member)
    rw [isSupplied_name declared, chosen_iff] at supplied
    exact ⟨member, slot, declared, rfl, supplied⟩
  · rintro ⟨member, slot, declared, rfl, picked⟩
    rw [isSupplied_name declared, chosen_iff]
    exact ⟨member, picked⟩

private theorem existsUnique_mem_iff {α : Type} {items : List α} (nodup : items.Nodup) :
    (∃! item, item ∈ items) ↔ items.length = 1 := by
  constructor
  · rintro ⟨item, member, only⟩
    have same : items = List.replicate items.length item := List.eq_replicate_of_mem only
    rw [same, List.nodup_replicate] at nodup
    have positive := List.length_pos_of_mem member
    omega
  · intro single
    obtain ⟨item, rfl⟩ := List.length_eq_one_iff.mp single
    exact ⟨item, List.mem_singleton_self item, fun other member => List.mem_singleton.mp member⟩

/-- In a group that lists no name twice, one member is supplied exactly when one is picked. -/
theorem length_supplied_eq_one_iff {signature : Signature} (once : signature.exactlyOneOf.Nodup)
    (values : List (String × Argument)) :
    (signature.supplied values).length = 1 ↔ ∃! name, name ∈ signature.picked values := by
  have nodup : (signature.supplied values).Nodup := once.filter _
  simp only [← existsUnique_mem_iff nodup, mem_supplied_iff]

theorem elide_ne_conflict (operation method : String) (slots : List Slot) (values : List Argument)
    (names supplied : List String) :
    Encoding.elide operation slots values ≠ .error ⟨method, .conflict names supplied⟩ := by
  intro conflict
  by_cases short : values.length ≤ slots.length
  · rw [Encoding.elide_eq operation short] at conflict
    cases reported : (Encoding.leading slots values).find? fun row => row.2.isNull with
    | some row => simp [reported] at conflict
    | none =>
      cases filling : Encoding.fill operation (slots.countP Slot.isRequired)
          (Encoding.kept slots values) with
      | error error =>
        obtain ⟨_, _, _, _, _, rfl⟩ := Encoding.exists_of_fill_error filling
        simp [reported, filling] at conflict
      | ok filled => simp [reported, filling] at conflict
  · rw [Encoding.elide, if_pos (Nat.lt_of_not_le short)] at conflict
    simp at conflict

/-- The only conflict of declared arguments is that of the group, where not one member is supplied. -/
theorem encode_eq_conflict_iff {signature : Signature} {values : List (String × Argument)}
    (declared : signature.Declares values) (grouped : signature.exactlyOneOf ≠ [])
    {method : String} {names supplied : List String} :
    signature.encode values = .error ⟨method, .conflict names supplied⟩ ↔
      (signature.supplied values).length ≠ 1 ∧ method = signature.method ∧
        names = signature.exactlyOneOf ∧ supplied = signature.supplied values := by
  rw [encode_of_declares declared]
  by_cases single : (signature.supplied values).length = 1
  · rw [if_neg (fun conflict => conflict.2 single)]
    simp only [elide_ne_conflict, single, ne_eq, not_true_eq_false, false_and]
  · rw [if_pos ⟨grouped, single⟩]
    simp only [Except.error.injEq, EncodeError.mk.injEq, EncodeCause.conflict.injEq, ne_eq, single,
      not_false_eq_true, true_and, eq_comm]

/-- What is sent for a row differs from the default of its slot exactly when the row was chosen: a
set value is told by what is sent for it, and a hole is filled with the default itself. -/
theorem differs_settled_iff {row : Slot × Argument} (fillable : Encoding.Fillable row)
    (tells : row.1.TellsAlike row.2)
    (fills : ∀ default, row.1.default? = some default →
      Value.equals default.toWire default = true) :
    row.1.Differs (Encoding.settled row).toWire ↔ chosen row = true := by
  rw [chosen_iff]
  cases unset : row.2.isNull with
  | false =>
    rw [Encoding.settled_of_set unset, and_iff_right rfl]
    exact forall₂_congr fun default stated => by rw [tells default stated]
  | true =>
    obtain ⟨default, stated⟩ := Option.isSome_iff_exists.mp (fillable unset)
    simp only [Bool.true_eq_false, false_and, iff_false]
    intro differs
    have filler : Encoding.settled row = default := by
      simp only [Encoding.settled, unset, stated, ↓reduceIte, Option.getD_some]
    have other := differs default stated
    rw [filler, fills default stated] at other
    contradiction

/-- The members that stand out in the wire list are those that were picked. -/
theorem mem_standingOut_iff {signature : Signature} {values : List (String × Argument)}
    {wire : List Argument} (fills : signature.FillsAlike)
    (tells : ∀ slot ∈ signature.slots, slot.name ∈ signature.exactlyOneOf →
      slot.TellsAlike (Value.memberOrNull slot.name values))
    (encoded : Encoding.elide signature.method signature.slots
      (signature.names.map fun name => Value.memberOrNull name values) = .ok wire) {name : String} :
    name ∈ signature.standingOut wire ↔ name ∈ signature.picked values := by
  simp only [names, List.map_map, Function.comp_def] at encoded
  obtain ⟨rows, dropped, split, fillable, unset, rfl⟩ := Encoding.exists_rows_of_elide encoded
  constructor
  · rintro ⟨member, place, slot, item, found, rfl, sent, differs⟩
    rw [List.getElem?_map] at sent
    obtain ⟨row, listed, rfl⟩ := Option.map_eq_some_iff.mp sent
    have placed := Encoding.getElem?_rows split (List.getElem?_eq_some_iff.mp listed).1
    rw [listed, found, Option.map_some] at placed
    obtain rfl := Option.some.inj placed
    have declared := List.mem_of_getElem? found
    rw [differs_settled_iff (fillable _ (List.mem_of_getElem? listed)) (tells slot declared member)
      (fills slot declared member), chosen_iff] at differs
    exact ⟨member, slot, declared, rfl, differs⟩
  · rintro ⟨member, slot, declared, rfl, picked⟩
    have given := List.mem_map_of_mem
      (f := fun slot => (slot, Value.memberOrNull slot.name values)) declared
    rw [split, List.mem_append] at given
    rcases given with present | behind
    · obtain ⟨place, listed⟩ := List.mem_iff_getElem?.mp present
      have placed := Encoding.getElem?_rows split (List.getElem?_eq_some_iff.mp listed).1
      obtain ⟨other, found, same⟩ := Option.map_eq_some_iff.mp (placed.symm.trans listed)
      obtain rfl : other = slot := congrArg Prod.fst same
      let item := (Encoding.settled (other, Value.memberOrNull other.name values)).toWire
      refine ⟨member, place, other, item, found, rfl, ?_, ?_⟩
      · rw [List.getElem?_map, listed, Option.map_some]
      · rw [differs_settled_iff (fillable _ present) (tells other declared member)
          (fills other declared member), chosen_iff]
        exact picked
    · have hole := unset _ behind
      rw [picked.1] at hole
      contradiction

/-- Exactly one member of a group is supplied, on the values and on the wire. Declared arguments are a
conflict exactly when the members that are set, and not to their default, are not one; the conflict
lists them in the order of the group. Any list that is sent has an item other than the default for
exactly one member, if the defaults of the group are regular and its values are told from them by what
is sent. -/
theorem encode_exactly_one (signature : Signature) (grouped : signature.exactlyOneOf ≠ [])
    (once : signature.exactlyOneOf.Nodup) (values : List (String × Argument))
    (declared : signature.Declares values) :
    ((∃ method names supplied,
        signature.encode values = .error ⟨method, .conflict names supplied⟩) ↔
      ¬ ∃! name, name ∈ signature.picked values) ∧
    (∀ method names supplied,
      signature.encode values = .error ⟨method, .conflict names supplied⟩ →
        method = signature.method ∧ names = signature.exactlyOneOf ∧
          supplied.Sublist signature.exactlyOneOf ∧
          ∀ name, name ∈ supplied ↔ name ∈ signature.picked values) ∧
    ∀ wire, signature.encode values = .ok wire → signature.Regular →
      (∀ slot ∈ signature.slots, slot.name ∈ signature.exactlyOneOf →
        slot.TellsAlike (Value.memberOrNull slot.name values)) →
      (∀ name, name ∈ signature.standingOut wire ↔ name ∈ signature.picked values) ∧
        ∃! name, name ∈ signature.standingOut wire := by
  refine ⟨?_, ?_, ?_⟩
  · rw [← length_supplied_eq_one_iff once]
    constructor
    · rintro ⟨method, names, supplied, conflict⟩
      exact ((encode_eq_conflict_iff declared grouped).mp conflict).1
    · intro several
      exact ⟨_, _, _, (encode_eq_conflict_iff declared grouped).mpr ⟨several, rfl, rfl, rfl⟩⟩
  · intro method names supplied conflict
    obtain ⟨_, rfl, rfl, rfl⟩ := (encode_eq_conflict_iff declared grouped).mp conflict
    exact ⟨rfl, rfl, List.filter_sublist, fun name => mem_supplied_iff⟩
  · intro wire encoded regular tells
    obtain ⟨_, single, elided⟩ := encode_eq_ok_iff.mp encoded
    have same : ∀ name, name ∈ signature.standingOut wire ↔ name ∈ signature.picked values :=
      fun name => mem_standingOut_iff regular.fillsAlike tells elided
    refine ⟨same, ?_⟩
    simp only [same]
    exact (length_supplied_eq_one_iff once values).mp (single grouped)

/-- A node is disconnected by an address or by its id. Both together are a conflict, and so is an
empty address on its own; an id is sent behind an empty address, which does not stand out. -/
theorem encode_exactly_one_disconnectNode :
    let signature := Binding.disconnectNodeSignature
    let both : List (String × Argument) := [("nodeid", .int 7), ("address", .str "n:8333")]
    let empty : List (String × Argument) := [("address", .str "")]
    signature.exactlyOneOf ≠ [] ∧ signature.exactlyOneOf.Nodup ∧
      signature.Declares both ∧ signature.Declares empty ∧
      signature.Declares [("nodeid", .int 7)] ∧
      (¬ ∃! name, name ∈ signature.picked both) ∧
      (∀ name, name ∈ ["address", "nodeid"] ↔ name ∈ signature.picked both) ∧
      (¬ ∃! name, name ∈ signature.picked empty) ∧
      ∃! name, name ∈ signature.standingOut [.str "", .int 7] := by
  intro signature both empty
  have grouped : signature.exactlyOneOf ≠ [] := List.cons_ne_nil _ _
  have once : signature.exactlyOneOf.Nodup := by decide
  have declared : signature.Declares both := by
    intro given member _
    rcases List.mem_pair.mp member with rfl | rfl <;> decide
  have alone : ∀ name ∈ signature.names, ∀ value, signature.Declares [(name, value)] := by
    intro name known value given member _
    rw [List.mem_singleton.mp member]
    exact known
  have settle := encode_exactly_one signature grouped once
  obtain ⟨conflict, listed, _⟩ := settle both declared
  have refused : signature.encode both =
      .error ⟨"disconnectnode", .conflict ["address", "nodeid"] ["address", "nodeid"]⟩ := by rfl
  have refusedEmpty : signature.encode empty =
      .error ⟨"disconnectnode", .conflict ["address", "nodeid"] []⟩ := by rfl
  have sent : signature.encode [("nodeid", .int 7)] = .ok [.str "", .int 7] := by rfl
  have address := alone "address" (by decide) (.str "")
  have id := alone "nodeid" (by decide) (.int 7)
  have alike : signature.SentAlike [("nodeid", .int 7)] := by
    refine sentAlike_of_faithful _ fun given member => ?_
    rw [List.mem_singleton.mp member]
    trivial
  exact ⟨grouped, once, declared, address, id, conflict.mp ⟨_, _, _, refused⟩,
    (listed _ _ _ refused).2.2.2, (settle empty address).1.mp ⟨_, _, _, refusedEmpty⟩,
    ((settle _ id).2.2 _ sent regular_disconnectNode alike.tellsAlike).2⟩

/-- Both members stand out in the list that is sent where the hole is filled with a release: the
release as it is sent is not the default of its slot, and the other slot has none. For the same reason
the number that would fill the hole counts as a choice when it is given. -/
theorem standingOut_release :
    releaseSignature.encode [("b", .int 5)] = .ok [.int 17, .int 5] ∧
    (¬ ∃! name, name ∈ releaseSignature.standingOut [.int 17, .int 5]) ∧
    releaseSignature.encode [("a", .int 17)] = .ok [.int 17] := by
  refine ⟨rfl, fun only => ?_, rfl⟩
  have first : "a" ∈ releaseSignature.standingOut [.int 17, .int 5] := by
    refine ⟨by decide, 0, _, _, rfl, rfl, rfl, ?_⟩
    rintro _ ⟨⟩
    rfl
  have second : "b" ∈ releaseSignature.standingOut [.int 17, .int 5] := by
    refine ⟨by decide, 1, _, _, rfl, rfl, rfl, ?_⟩
    rintro _ ⟨⟩
  exact absurd (only.unique first second) (by decide)

end Signature

end NodeClient
