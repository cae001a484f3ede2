import NodeClient.Binding.Table
import NodeClient.Proofs.Encoding.Arguments
import NodeClient.Proofs.Json.Equality

/-! # Encoding a wire list again

A wire list given as positional arguments is encoded to itself, as long as every value is told by what
is sent for it. Nothing is dropped or filled anew (`Encoding.elide_again`), and the group has the same
choice: a default that was put into a hole is not a choice, since it equals the default of its slot,
and a command is compared as its word. Not-a-number does not equal itself, so it must not be the
default of a member of the group; and a member of an enumeration that is neither a string nor an
integer does not equal what it is sent as, so that a hole filled with it is a second choice.
-/

namespace NodeClient

namespace Argument

/-- An argument that equals what it is sent as. Only the members of enumerations of other things than
strings and integers do not. -/
def Faithful : Argument → Prop
  | .const member => member.meaning.isOther = false
  | _ => True

variable {argument : Argument}

theorem Faithful.staysSet (faithful : argument.Faithful) : argument.StaysSet := by
  intro set
  cases argument with
  | const member =>
    cases means : member.meaning with
    | other value => simp [Faithful, Meaning.isOther, means] at faithful
    | _ =>
      rw [toWire, means]
      rfl
  | null => cases set
  | _ => rfl

/-- What is sent for a faithful argument equals the same values as the argument. -/
theorem Faithful.equals_toWire (faithful : argument.Faithful) (other : Argument) :
    Value.equals argument.toWire other = Value.equals argument other := by
  cases argument with
  | const member =>
    have same : Constant.meaning member = member.meaning := rfl
    cases means : member.meaning with
    | other value => simp [Faithful, Meaning.isOther, means] at faithful
    | _ =>
      rw [toWire, means]
      cases other <;>
        simp [Meaning.value, Value.ofJson, Value.equals, Value.scalarEquals, Value.asInt?,
          Value.asText?, Value.sameConstant, Meaning.isOther, same, means]
  | _ => rfl

end Argument

/-- A value and what is sent for it both equal the default of a slot, or neither does. -/
def Slot.TellsAlike (slot : Slot) (value : Argument) : Prop :=
  ∀ default, slot.default? = some default →
    Value.equals value.toWire default = Value.equals value default

namespace Signature

open Encoding

/-- Whether a row of the group is a choice: it is set, and not to the default of its slot. -/
def chosen (row : Slot × Argument) : Bool :=
  !row.2.isNull &&
    match row.1.default? with
    | some default => !Value.equals row.2 default
    | none => true

/-- What is sent for a row is a choice exactly when the row was one. -/
theorem chosen_sentRow {row : Slot × Argument} (stays : row.2.StaysSet)
    (tells : row.1.TellsAlike row.2)
    (fills : ∀ default, row.1.default? = some default →
      Value.equals default.toWire default = true) :
    chosen (sentRow row) = chosen row := by
  rcases row with ⟨slot, value⟩
  cases unset : value.isNull with
  | false =>
    have set : value.toWire.isNull = false := stays unset
    cases default : slot.default? with
    | none => simp [chosen, sentRow, settled, unset, set, default]
    | some stated =>
      have same : Value.equals value.toWire stated = Value.equals value stated := tells _ default
      simp [chosen, sentRow, settled, unset, set, default, same]
  | true =>
    cases default : slot.default? with
    | none => simp [chosen, sentRow, settled, unset, default, Argument.toWire]
    | some stated =>
      have filled : Value.equals stated.toWire stated = true := fills _ default
      simp [chosen, sentRow, settled, unset, default, filled]

private theorem find?_name {slots : List Slot} (nodup : (slots.map Slot.name).Nodup) {slot : Slot}
    (member : slot ∈ slots) : (slots.find? fun other => other.name == slot.name) = some slot := by
  induction slots with
  | nil => contradiction
  | cons first rest ih =>
    rw [List.map_cons, List.nodup_cons] at nodup
    rcases List.mem_cons.mp member with rfl | later
    · simp
    · have differs : first.name ≠ slot.name := fun same =>
        nodup.1 (same ▸ List.mem_map_of_mem later)
      rw [List.find?_cons_of_neg (by simpa using differs)]
      exact ih nodup.2 later

theorem isSupplied_name {signature : Signature} {slot : Slot} (member : slot ∈ signature.slots)
    (value : Argument) : signature.isSupplied slot.name value = chosen (slot, value) := by
  rw [isSupplied, find?_name signature.names_nodup member]
  rfl

/-- Whether what is put into a hole equals the default of its slot, for every member of the group. -/
def FillsAlike (signature : Signature) : Prop :=
  ∀ slot ∈ signature.slots, slot.name ∈ signature.exactlyOneOf →
    ∀ default, slot.default? = some default → Value.equals default.toWire default = true

/-- The defaults of the group are regular: each names the members of its objects once, is not
not-a-number, and equals what it is sent as. -/
def Regular (signature : Signature) : Prop :=
  ∀ slot ∈ signature.slots, slot.name ∈ signature.exactlyOneOf →
    ∀ default, slot.default? = some default →
      default.NamesDistinct ∧ default ≠ .float .nan ∧ default.Faithful

theorem Regular.fillsAlike {signature : Signature} (regular : signature.Regular) :
    signature.FillsAlike := by
  intro slot declared member default stated
  obtain ⟨distinct, known, faithful⟩ := regular slot declared member default stated
  rw [faithful.equals_toWire]
  exact Value.equals_self default distinct known

/-- The values that a signature is given are told by what is sent for them: each stays set, and those
of the group equal their defaults before and after. -/
structure SentAlike (signature : Signature) (values : List (String × Argument)) : Prop where
  staysSet : ∀ slot ∈ signature.slots, Argument.StaysSet (Value.memberOrNull slot.name values)
  tellsAlike : ∀ slot ∈ signature.slots, slot.name ∈ signature.exactlyOneOf →
    slot.TellsAlike (Value.memberOrNull slot.name values)

/-- Faithful values are told by what is sent for them. -/
theorem sentAlike_of_faithful (signature : Signature) {values : List (String × Argument)}
    (faithful : ∀ given ∈ values, given.2.Faithful) : signature.SentAlike values := by
  have found : ∀ name, Argument.Faithful (Value.memberOrNull name values) := by
    intro name
    cases listed : values.lookup name with
    | none =>
      rw [Value.memberOrNull, listed]
      trivial
    | some value =>
      obtain ⟨front, back, split, _⟩ := List.lookup_eq_some_iff.mp listed
      rw [Value.memberOrNull, listed]
      exact faithful (name, value) (split ▸ List.mem_append_right front List.mem_cons_self)
  exact ⟨fun slot _ => (found slot.name).staysSet,
    fun slot _ _ default _ => (found slot.name).equals_toWire default⟩

/-- The wire list makes the same choice among the members of the group. -/
theorem supplied_zip_wire {signature : Signature} {values : List (String × Argument)}
    {wire : List Argument} (fills : signature.FillsAlike) (alike : signature.SentAlike values)
    (encoded : elide signature.method signature.slots
      (signature.names.map fun name => Value.memberOrNull name values) = .ok wire) :
    signature.supplied (signature.names.zip wire) = signature.supplied values := by
  simp only [names, List.map_map, Function.comp_def] at encoded
  obtain ⟨_, _, _, listed⟩ := elide_eq_ok_iff.mp encoded
  obtain ⟨dropped, split, unset, sent⟩ := exists_pair_sentList signature.slots
    (signature.slots.map fun slot => Value.memberOrNull slot.name values)
  generalize leading signature.slots _ ++ kept signature.slots _ = rows at split sent
  rw [pair_map] at split
  rw [listed, pair_eq_map_zip signature.names_nodup] at sent
  have given : ∀ row ∈ rows ++ dropped, row = (row.1, Value.memberOrNull row.1.name values) := by
    intro row member
    rw [← split] at member
    obtain ⟨slot, _, rfl⟩ := List.mem_map.mp member
    rfl
  refine List.filter_congr fun name member => ?_
  obtain ⟨slot, declared, rfl⟩ := List.mem_map.mp (signature.mem_names_of_mem_group member)
  rw [isSupplied_name declared, isSupplied_name declared]
  have again := List.mem_map_of_mem
    (f := fun slot => (slot, Value.memberOrNull slot.name (signature.names.zip wire))) declared
  rw [names, sent, List.mem_append] at again
  rcases again with kept | unsent
  · obtain ⟨row, present, same⟩ := List.mem_map.mp kept
    obtain rfl : row.1 = slot := congrArg Prod.fst same
    have value := given row (List.mem_append_left _ present)
    have valueOf : row.2 = Value.memberOrNull row.1.name values := congrArg Prod.snd value
    have stays : row.2.StaysSet := valueOf ▸ alike.staysSet row.1 declared
    have tells : row.1.TellsAlike row.2 := valueOf ▸ alike.tellsAlike row.1 declared member
    rw [names, ← same, chosen_sentRow stays tells (fills row.1 declared member), ← value]
  · obtain ⟨row, present, same⟩ := List.mem_map.mp unsent
    obtain rfl : row.1 = slot := congrArg Prod.fst same
    rw [names, ← same, ← given row (List.mem_append_right _ present)]
    simp [chosen, unset row present]

/-- Encoding is idempotent: what named or positional arguments are encoded to is encoded to itself, if
the defaults of the group are regular and the arguments are told by what is sent for them. -/
theorem encode_idempotent (signature : Signature) (regular : signature.Regular) :
    (∀ values wire, signature.SentAlike values → signature.encode values = .ok wire →
      signature.encodePositional wire = .ok wire) ∧
    ∀ values wire, signature.SentAlike (signature.names.zip values) →
      signature.encodePositional values = .ok wire → signature.encodePositional wire = .ok wire := by
  have named : ∀ values wire, signature.SentAlike values → signature.encode values = .ok wire →
      signature.encodePositional wire = .ok wire := by
    intro values wire alike encoded
    obtain ⟨_, chosen, elided⟩ := encode_eq_ok_iff.mp encoded
    have stays : ∀ row ∈ pair signature.slots
        (signature.names.map fun name => Value.memberOrNull name values), row.2.StaysSet := by
      intro row member
      rw [names, List.map_map, pair_map] at member
      obtain ⟨slot, declared, rfl⟩ := List.mem_map.mp member
      exact alike.staysSet slot declared
    have again := elide_again stays elided
    have short := (elide_eq_ok_iff.mp again).1
    rw [encodePositional_of_short short, encode_eq_ok_iff]
    refine ⟨signature.declares_zip wire, ?_, ?_⟩
    · rwa [supplied_zip_wire regular.fillsAlike alike elided]
    · rwa [signature.elide_zip short]
  refine ⟨named, ?_⟩
  intro values wire alike encoded
  by_cases short : values.length ≤ signature.slots.length
  · rw [encodePositional_of_short short] at encoded
    exact named _ wire alike encoded
  · rw [encodePositional, if_pos (Nat.lt_of_not_le short)] at encoded
    contradiction

/-- The default of a group member of this signature, the empty address, is no number. -/
theorem regular_disconnectNode : Binding.disconnectNodeSignature.Regular := by
  intro slot declared _ default stated
  simp only [Binding.disconnectNodeSignature, List.mem_cons, List.not_mem_nil, or_false] at declared
  rcases declared with rfl | rfl
  · obtain rfl : Value.str "" = default := Option.some.inj stated
    exact ⟨trivial, by simp only [ne_eq, reduceCtorEq, not_false_eq_true], trivial⟩
  · contradiction

/-- A node disconnected by its id: the empty address that is put before the id is no second choice
when the list is encoded again. -/
theorem encode_idempotent_disconnectNode :
    Binding.disconnectNodeSignature.Regular ∧
    Binding.disconnectNodeSignature.SentAlike [("nodeid", .int 7)] ∧
    Binding.disconnectNodeSignature.encode [("nodeid", .int 7)] = .ok [.str "", .int 7] ∧
    Binding.disconnectNodeSignature.encodePositional [.str "", .int 7] =
      .ok [.str "", .int 7] := by
  have alike : Binding.disconnectNodeSignature.SentAlike [("nodeid", .int 7)] := by
    refine sentAlike_of_faithful _ fun given member => ?_
    rw [List.mem_singleton.mp member]
    trivial
  have encoded : Binding.disconnectNodeSignature.encode [("nodeid", .int 7)] =
      .ok [.str "", .int 7] := by
    rfl
  exact ⟨regular_disconnectNode, alike, encoded,
    (encode_idempotent _ regular_disconnectNode).1 _ _ alike encoded⟩

/-- A signature of a group whose first member has release 17 for its default, as a member of its
enumeration, and whose second one has none. -/
def releaseSignature : Signature where
  method := "m"
  slots := [⟨"a", false, some (.const (.release .v17))⟩, ⟨"b", false, none⟩]
  exactlyOneOf := ["a", "b"]

/-- The release that fills the hole is sent as its number, which does not equal the release, so the
list that is sent holds two choices when it is encoded again. -/
theorem encode_again_release :
    releaseSignature.encode [("b", .int 5)] = .ok [.int 17, .int 5] ∧
    releaseSignature.encodePositional [.int 17, .int 5] =
      .error ⟨"m", .conflict ["a", "b"] ["a", "b"]⟩ :=
  ⟨rfl, rfl⟩

end Signature

end NodeClient
