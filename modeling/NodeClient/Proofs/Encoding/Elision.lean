import NodeClient.Encoding
import Mathlib.Data.List.DropRight

/-! # The shortest positional list

Encoding pairs every slot with its value, drops the unset values at the end and fills the others
with defaults. Each step is described here without its recursion, and so is the list they give. A
list that was encoded is its own encoding, as long as no value that is set is sent as null: the value
behind its last hole is set again, so the same slots are kept, and a hole is filled with the default
that already stands in it.
-/

namespace NodeClient

@[simp] theorem Value.isNull_null {κ : Type} : (Value.null : Value κ).isNull = true := rfl

namespace Argument

@[simp] theorem toWire_ofJson (value : Json) : toWire (Value.ofJson value) = Value.ofJson value := by
  cases value with
  | const none => cases none
  | _ => rfl

@[simp] theorem toWire_toWire (argument : Argument) : argument.toWire.toWire = argument.toWire := by
  cases argument with
  | const member => exact toWire_ofJson member.meaning.value
  | _ => rfl

/-- An argument that is set is sent as a value that is set. Only a member of an enumeration whose value
is null is not. -/
def StaysSet (argument : Argument) : Prop :=
  argument.isNull = false → argument.toWire.isNull = false

end Argument

namespace Encoding

theorem pair_map_fst (slots : List Slot) (values : List Argument) :
    (pair slots values).map Prod.fst = slots := by
  induction slots generalizing values with
  | nil => rfl
  | cons slot slots ih => cases values <;> simp only [pair, List.map_cons, ih]

@[simp] theorem pair_length (slots : List Slot) (values : List Argument) :
    (pair slots values).length = slots.length := by
  rw [← List.length_map, pair_map_fst]

/-- Slots without a value are paired with null. -/
theorem pair_append (rows : List (Slot × Argument)) (slots : List Slot) :
    pair (rows.map Prod.fst ++ slots) (rows.map Prod.snd) =
      rows ++ slots.map fun slot => (slot, .null) := by
  induction rows with
  | nil =>
    induction slots with
    | nil => rfl
    | cons slot slots ih => simpa only [List.map_nil, List.nil_append, pair, List.map_cons,
        List.cons.injEq, true_and] using ih
  | cons row rows ih => simp only [List.map_cons, List.cons_append, pair, ih]

theorem pair_map (slots : List Slot) (value : Slot → Argument) :
    pair slots (slots.map value) = slots.map fun slot => (slot, value slot) := by
  have paired := pair_append (slots.map fun slot => (slot, value slot)) []
  simpa only [List.map_map, Function.comp_def, List.map_id', List.append_nil, List.map_nil]
    using paired

theorem dropUnset_eq_rdropWhile (rows : List (Slot × Argument)) :
    dropUnset rows = rows.rdropWhile fun row => row.2.isNull := by
  induction rows with
  | nil => rfl
  | cons row rest ih =>
    rw [dropUnset, ih]
    simp only [List.rdropWhile, List.reverse_cons, List.dropWhile_append]
    cases kept : rest.reverse.dropWhile fun row => row.2.isNull with
    | nil => cases unset : row.2.isNull <;> simp [unset]
    | cons last front => simp

/-- What stands in the wire list for a row: its value, or the default of its slot. -/
def settled (row : Slot × Argument) : Argument :=
  if row.2.isNull then row.1.default?.getD .null else row.2

/-- A row that is set, or whose slot has a default. -/
def Fillable (row : Slot × Argument) : Prop := row.2.isNull = true → row.1.default?.isSome

/-- Filling succeeds when every hole has a default, and puts the settled values in place. -/
theorem fill_eq_ok_iff {operation : String} {index : Nat} {rows : List (Slot × Argument)}
    {filled : List Argument} :
    fill operation index rows = .ok filled ↔
      (∀ row ∈ rows, Fillable row) ∧ rows.map settled = filled := by
  induction rows generalizing index filled with
  | nil => simp [fill]
  | cons row rest ih =>
    rcases row with ⟨slot, value⟩
    cases tail : fill operation (index + 1) rest with
    | error error =>
      have unfilled : ¬ ∀ row ∈ rest, Fillable row := by
        intro fillable
        have success : fill operation (index + 1) rest = .ok (rest.map settled) :=
          ih.mpr ⟨fillable, rfl⟩
        rw [tail] at success
        contradiction
      rw [List.forall_mem_cons]
      simp only [fill, tail, unfilled, and_false, false_and, reduceCtorEq]
    | ok others =>
      obtain ⟨fillable, rfl⟩ := ih.mp tail
      have all : (∀ row ∈ (slot, value) :: rest, Fillable row) ↔ Fillable (slot, value) := by
        simp only [List.forall_mem_cons, and_iff_left fillable]
      rw [all]
      cases unset : value.isNull with
      | false => simp [fill, tail, unset, settled, Fillable]
      | true => cases default : slot.default? <;> simp [fill, tail, unset, default, settled, Fillable]

/-- The rows of the required slots, which stand first. -/
def leading (slots : List Slot) (values : List Argument) : List (Slot × Argument) :=
  (pair slots values).take (slots.countP Slot.isRequired)

/-- The rows of the optional slots up to the last one that is set. -/
def kept (slots : List Slot) (values : List Argument) : List (Slot × Argument) :=
  ((pair slots values).drop (slots.countP Slot.isRequired)).rdropWhile fun row => row.2.isNull

theorem settled_of_set {row : Slot × Argument} (set : row.2.isNull = false) :
    settled row = row.2 := by
  simp only [settled, set, Bool.false_eq_true, ↓reduceIte]

/-- The values of rows that are set are settled as they are. -/
theorem map_snd_of_set {rows : List (Slot × Argument)} (set : ∀ row ∈ rows, row.2.isNull = false) :
    rows.map Prod.snd = rows.map settled :=
  List.map_congr_left fun row member => (settled_of_set (set row member)).symm

/-- If the leading rows are set and the holes that are kept have defaults, something can be sent for
every row that is not dropped. -/
theorem fillable_of_sent {slots : List Slot} {values : List Argument}
    (set : ∀ row ∈ leading slots values, row.2.isNull = false)
    (fillable : ∀ row ∈ kept slots values, Fillable row) :
    ∀ row ∈ leading slots values ++ kept slots values, Fillable row := by
  intro row listed
  rcases List.mem_append.mp listed with front | back
  · exact fun hole => absurd ((set row front).symm.trans hole) Bool.false_ne_true
  · exact fillable row back

/-- What is sent for the rows that are not dropped. -/
def sentList (slots : List Slot) (values : List Argument) : List Argument :=
  (leading slots values ++ kept slots values).map fun row => (settled row).toWire

/-- The encoder by the rows of the required slots and those it keeps of the optional ones. -/
theorem elide_eq (operation : String) {slots : List Slot} {values : List Argument}
    (short : values.length ≤ slots.length) :
    elide operation slots values =
      match (leading slots values).find? fun row => row.2.isNull with
      | some row => .error ⟨operation, .missingArgument row.1.name⟩
      | none =>
        match fill operation (slots.countP Slot.isRequired) (kept slots values) with
        | .error error => .error error
        | .ok filled =>
          .ok (((leading slots values).map Prod.snd ++ filled).map Argument.toWire) := by
  simp only [elide, Nat.not_lt.mpr short, ↓reduceIte, dropUnset_eq_rdropWhile]
  rfl

/-- Values that pair alike with the slots are encoded alike. -/
theorem elide_congr (operation : String) {slots : List Slot} {values others : List Argument}
    (short : values.length ≤ slots.length) (shortToo : others.length ≤ slots.length)
    (alike : pair slots values = pair slots others) :
    elide operation slots values = elide operation slots others := by
  simp only [elide_eq operation short, elide_eq operation shortToo, leading, kept, alike]

private theorem rdropWhile_append_of_pos {α : Type} {p : α → Bool} (front : List α) {back : List α}
    (all : ∀ item ∈ back, p item = true) : (front ++ back).rdropWhile p = front.rdropWhile p := by
  rw [List.rdropWhile, List.reverse_append, List.dropWhile_append_of_pos, List.rdropWhile]
  simpa only [List.mem_reverse] using all

private theorem isNull_of_mem_map {α : Type} (items : List α) (slot : α → Slot) :
    ∀ row ∈ items.map fun item => (slot item, (Value.null : Argument)), row.2.isNull = true := by
  intro row member
  obtain ⟨_, _, rfl⟩ := List.mem_map.mp member
  rfl

/-- Optional slots at the end that are not set do not change the encoding. -/
theorem elide_append (operation : String) {slots extra : List Slot} {values padded : List Argument}
    (short : values.length ≤ slots.length) (shortToo : padded.length ≤ (slots ++ extra).length)
    (optional : ∀ slot ∈ extra, slot.isRequired = false)
    (unset : pair (slots ++ extra) padded =
      pair slots values ++ extra.map fun slot => (slot, .null)) :
    elide operation (slots ++ extra) padded = elide operation slots values := by
  have required : (slots ++ extra).countP Slot.isRequired = slots.countP Slot.isRequired := by
    rw [List.countP_append, Nat.add_eq_left, List.countP_eq_zero]
    exact fun slot member => Bool.not_eq_true _ ▸ optional slot member
  have enough : slots.countP Slot.isRequired ≤ (pair slots values).length := by
    rw [pair_length]
    exact List.countP_le_length
  have sameLeading : leading (slots ++ extra) padded = leading slots values := by
    rw [leading, leading, required, unset, List.take_append_of_le_length enough]
  have sameKept : kept (slots ++ extra) padded = kept slots values := by
    rw [kept, kept, required, unset, List.drop_append_of_le_length enough]
    exact rdropWhile_append_of_pos _ (isNull_of_mem_map extra id)
  simp only [elide_eq operation short, elide_eq operation shortToo, required, sameLeading, sameKept]

/-- The whole behaviour of the encoder on a positional list: it needs at most as many values as
slots, a value for each leading slot and a default for each hole, and answers the settled values. -/
theorem elide_eq_ok_iff {operation : String} {slots : List Slot} {values wire : List Argument} :
    elide operation slots values = .ok wire ↔
      values.length ≤ slots.length ∧
      (∀ row ∈ leading slots values, row.2.isNull = false) ∧
      (∀ row ∈ kept slots values, Fillable row) ∧
      sentList slots values = wire := by
  by_cases short : values.length ≤ slots.length
  swap
  · simp only [elide, Nat.lt_of_not_le short, ↓reduceIte, reduceCtorEq, short, false_and]
  rw [elide_eq operation short, and_iff_right short]
  cases found : (leading slots values).find? fun row => row.2.isNull with
  | some row =>
    have unset : row.2.isNull = true :=
      List.find?_some (p := fun row : Slot × Argument => row.2.isNull) found
    have missing : ¬ ∀ row ∈ leading slots values, row.2.isNull = false := fun set =>
      Bool.false_ne_true ((set row (List.mem_of_find?_eq_some found)).symm.trans unset)
    simp only [reduceCtorEq, missing, false_and]
  | none =>
    have set : ∀ row ∈ leading slots values, row.2.isNull = false := by
      simpa only [List.find?_eq_none, Bool.not_eq_true] using found
    rw [and_iff_right set]
    cases filling : fill operation (slots.countP Slot.isRequired) (kept slots values) with
    | error error =>
      have unfilled : ¬ ∀ row ∈ kept slots values, Fillable row := by
        intro fillable
        have success : fill operation (slots.countP Slot.isRequired) (kept slots values) =
            .ok ((kept slots values).map settled) := fill_eq_ok_iff.mpr ⟨fillable, rfl⟩
        rw [filling] at success
        contradiction
      simp only [reduceCtorEq, unfilled, false_and]
    | ok filled =>
      obtain ⟨fillable, rfl⟩ := fill_eq_ok_iff.mp filling
      rw [and_iff_right fillable, map_snd_of_set set, sentList]
      simp only [← List.map_append, List.map_map, Function.comp_def, Except.ok.injEq]

/-- The rows that the encoder drops are unset. -/
theorem exists_dropped (slots : List Slot) (values : List Argument) :
    ∃ dropped, pair slots values = leading slots values ++ kept slots values ++ dropped ∧
      ∀ row ∈ dropped, row.2.isNull = true := by
  refine ⟨((pair slots values).drop (slots.countP Slot.isRequired)).rtakeWhile
    fun row => row.2.isNull, ?_, ?_⟩
  · rw [List.append_assoc, kept, List.rdropWhile_append_rtakeWhile, leading, List.take_append_drop]
  · exact fun row member =>
      List.mem_rtakeWhile_imp (p := fun row : Slot × Argument => row.2.isNull) member

theorem leading_length (slots : List Slot) (values : List Argument) :
    (leading slots values).length = slots.countP Slot.isRequired := by
  rw [leading, List.length_take_of_le]
  rw [pair_length]
  exact List.countP_le_length

/-- A row of the wire list: a slot with what was sent for it. -/
def sentRow (row : Slot × Argument) : Slot × Argument := (row.1, (settled row).toWire)

/-- A row that was set is set on the wire. -/
theorem sentRow_set {row : Slot × Argument} (stays : row.2.StaysSet) (set : row.2.isNull = false) :
    (sentRow row).2.isNull = false := by
  rw [sentRow, settled_of_set set]
  exact stays set

theorem Fillable.sentRow {row : Slot × Argument} (stays : row.2.StaysSet)
    (fillable : Fillable row) : Fillable (sentRow row) := by
  intro unset
  cases set : row.2.isNull with
  | true => exact fillable set
  | false => exact (Bool.false_ne_true ((sentRow_set stays set).symm.trans unset)).elim

/-- A hole whose default is sent as null is a hole again, and is filled alike. -/
theorem toWire_settled_sentRow {row : Slot × Argument} (stays : row.2.StaysSet) :
    (settled (sentRow row)).toWire = (settled row).toWire := by
  rcases row with ⟨slot, value⟩
  cases unset : value.isNull with
  | false => simp [settled, sentRow, unset, stays unset]
  | true =>
    cases default : slot.default? with
    | none => simp [settled, sentRow, unset, default, Argument.toWire]
    | some value =>
      cases null : value.toWire.isNull <;> simp [settled, sentRow, unset, default, null]

/-- The list that is sent, paired with the slots again, holds what was sent for each row, and nothing
for the rows that were dropped. -/
theorem exists_pair_sentList (slots : List Slot) (values : List Argument) :
    ∃ dropped, pair slots values = leading slots values ++ kept slots values ++ dropped ∧
      (∀ row ∈ dropped, row.2.isNull = true) ∧
      pair slots (sentList slots values) =
        (leading slots values ++ kept slots values).map sentRow ++
          dropped.map fun row => (row.1, .null) := by
  obtain ⟨dropped, split, unset⟩ := exists_dropped slots values
  refine ⟨dropped, split, unset, ?_⟩
  have paired := pair_append ((leading slots values ++ kept slots values).map sentRow)
    (dropped.map Prod.fst)
  have declared : slots =
      (leading slots values ++ kept slots values).map Prod.fst ++ dropped.map Prod.fst := by
    rw [← List.map_append, ← split, pair_map_fst]
  simp only [List.map_map, Function.comp_def, sentRow] at paired
  rw [← declared] at paired
  exact paired

theorem sentList_length_le (slots : List Slot) (values : List Argument) :
    (sentList slots values).length ≤ slots.length := by
  obtain ⟨dropped, split, _⟩ := exists_dropped slots values
  have total := congrArg List.length split
  simp only [pair_length, List.length_append] at total
  simp only [sentList, List.length_map, List.length_append]
  omega

theorem leading_sentList (slots : List Slot) (values : List Argument) :
    leading slots (sentList slots values) = (leading slots values).map sentRow := by
  obtain ⟨dropped, _, _, sent⟩ := exists_pair_sentList slots values
  rw [leading, sent, List.map_append, List.append_assoc,
    List.take_left' (by rw [List.length_map, leading_length])]

/-- The last row that was kept was set, so the same rows are kept again. -/
theorem kept_sentList {slots : List Slot} {values : List Argument}
    (stays : ∀ row ∈ kept slots values, row.2.StaysSet) :
    kept slots (sentList slots values) = (kept slots values).map sentRow := by
  obtain ⟨dropped, _, _, sent⟩ := exists_pair_sentList slots values
  rw [kept, sent, List.map_append, List.append_assoc,
    List.drop_left' (by rw [List.length_map, leading_length]),
    rdropWhile_append_of_pos _ (isNull_of_mem_map dropped Prod.fst), List.rdropWhile_eq_self_iff]
  intro nonempty
  have some_kept := List.map_eq_nil_iff.not.mp nonempty
  have last := List.rdropWhile_last_not _ _ some_kept
  rw [List.getLast_map, sentRow_set (stays _ (List.getLast_mem some_kept)) (Bool.not_eq_true _ ▸ last)]
  exact Bool.false_ne_true

/-- Encoding a wire list again gives the wire list, if the values that are set are sent as values that
are set. -/
theorem elide_again {operation : String} {slots : List Slot} {values wire : List Argument}
    (stays : ∀ row ∈ pair slots values, row.2.StaysSet)
    (encoded : elide operation slots values = .ok wire) :
    elide operation slots wire = .ok wire := by
  obtain ⟨_, set, fillable, rfl⟩ := elide_eq_ok_iff.mp encoded
  have staysSent : ∀ row ∈ leading slots values ++ kept slots values, row.2.StaysSet := by
    obtain ⟨dropped, split, _⟩ := exists_dropped slots values
    exact fun row member => stays row (split ▸ List.mem_append_left dropped member)
  have staysKept : ∀ row ∈ kept slots values, row.2.StaysSet := fun row member =>
    staysSent row (List.mem_append_right _ member)
  rw [elide_eq_ok_iff, leading_sentList, kept_sentList staysKept]
  refine ⟨sentList_length_le slots values, ?_, ?_, ?_⟩
  · intro row member
    obtain ⟨source, present, rfl⟩ := List.mem_map.mp member
    exact sentRow_set (staysSent source (List.mem_append_left _ present)) (set source present)
  · intro row member
    obtain ⟨source, present, rfl⟩ := List.mem_map.mp member
    exact (fillable source present).sentRow (staysKept source present)
  · rw [sentList, leading_sentList, kept_sentList staysKept, ← List.map_append, List.map_map]
    exact List.map_congr_left fun row member => toWire_settled_sentRow (staysSent row member)

end Encoding

end NodeClient
