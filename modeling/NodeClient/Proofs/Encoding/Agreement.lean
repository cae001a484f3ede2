import NodeClient.Binding.Table
import NodeClient.Proofs.Encoding.Elision
import NodeClient.Proofs.Encoding.Prescription

/-! # The encoder meets its rules

The rows that the encoder looks at are those of the places that the rules name: the first row in front
that is not set is that of the lowest required slot without a value, the last row that is kept is that
of the last optional slot that is set, and the row that filling reports is the last one that cannot be
filled. So the encoder answers what the rules prescribe, for every list of values.
-/

namespace NodeClient.Encoding

variable {operation : String} {slots : List Slot} {values : List Argument}

theorem getElem?_pair (slots : List Slot) (values : List Argument) (place : Nat) :
    (pair slots values)[place]? = slots[place]?.map fun slot => (slot, valueAt values place) := by
  induction slots generalizing values place with
  | nil => simp [pair]
  | cons slot slots ih =>
    cases values with
    | nil =>
      cases place with
      | zero => rfl
      | succ place => simpa [pair, valueAt] using ih [] place
    | cons value values =>
      cases place with
      | zero => rfl
      | succ place => simpa [pair, valueAt] using ih values place

/-- The row of a required slot. -/
theorem getElem?_leading {place : Nat} (within : place < slots.countP Slot.isRequired) :
    (leading slots values)[place]? =
      slots[place]?.map fun slot => (slot, valueAt values place) := by
  rw [leading, List.getElem?_take_of_lt within, getElem?_pair]

/-- The row of an optional slot that is kept. -/
theorem getElem?_kept {place : Nat} (within : place < (kept slots values).length) :
    (kept slots values)[place]? = slots[slots.countP Slot.isRequired + place]?.map fun slot =>
      (slot, valueAt values (slots.countP Slot.isRequired + place)) := by
  obtain ⟨dropped, split, _⟩ := exists_dropped slots values
  have behind : (leading slots values).length ≤ slots.countP Slot.isRequired + place := by
    rw [leading_length]
    exact Nat.le_add_right _ _
  rw [← getElem?_pair, split, List.append_assoc, List.getElem?_append_right behind, leading_length,
    Nat.add_sub_cancel_left, List.getElem?_append_left within]

/-- Behind the rows that are kept nothing is set. -/
theorem isNull_of_not_kept {place : Nat} {slot : Slot}
    (beyond : slots.countP Slot.isRequired + (kept slots values).length ≤ place)
    (found : slots[place]? = some slot) : (valueAt values place).isNull = true := by
  obtain ⟨dropped, split, unset⟩ := exists_dropped slots values
  have row : dropped[place - (leading slots values ++ kept slots values).length]? =
      some (slot, valueAt values place) := by
    rw [← List.getElem?_append_right, ← split, getElem?_pair, found, Option.map_some]
    rw [List.length_append, leading_length]
    exact beyond
  exact unset _ (List.mem_of_getElem? row)

/-- The required slots that are not set are the rows in front that are not set. -/
theorem RequiredFirst.mem_lacking_iff (requiredFirst : RequiredFirst slots) {place : Nat} :
    place ∈ lacking slots values ↔
      ∃ row, (leading slots values)[place]? = some row ∧ row.2.isNull = true := by
  constructor
  · rintro ⟨slot, found, required, unset⟩
    refine ⟨(slot, valueAt values place), ?_, unset⟩
    rw [getElem?_leading ((requiredFirst.isRequired_iff found).mp required), found, Option.map_some]
  · rintro ⟨row, listed, unset⟩
    have within : place < slots.countP Slot.isRequired := by
      rw [← leading_length slots values]
      exact (List.getElem?_eq_some_iff.mp listed).1
    rw [getElem?_leading within] at listed
    obtain ⟨slot, found, rfl⟩ := Option.map_eq_some_iff.mp listed
    exact ⟨slot, found, (requiredFirst.isRequired_iff found).mpr within, unset⟩

theorem RequiredFirst.lacking_eq_empty_iff (requiredFirst : RequiredFirst slots) :
    lacking slots values = ∅ ↔ ∀ row ∈ leading slots values, row.2.isNull = false := by
  rw [Set.eq_empty_iff_forall_notMem]
  constructor
  · intro none row member
    obtain ⟨place, listed⟩ := List.mem_iff_getElem?.mp member
    rw [← Bool.not_eq_true]
    exact fun unset => none place (requiredFirst.mem_lacking_iff.mpr ⟨row, listed, unset⟩)
  · intro set place member
    obtain ⟨row, listed, unset⟩ := requiredFirst.mem_lacking_iff.mp member
    exact Bool.false_ne_true ((set row (List.mem_of_getElem? listed)).symm.trans unset)

/-- The row that the encoder reports is that of the first required slot that is not set. -/
theorem RequiredFirst.isLeast_lacking (requiredFirst : RequiredFirst slots)
    {row : Slot × Argument}
    (reported : (leading slots values).find? (fun row => row.2.isNull) = some row) :
    ∃ place, IsLeast (lacking slots values) place ∧ slots[place]? = some row.1 := by
  obtain ⟨unset, place, bound, here, before⟩ := List.find?_eq_some_iff_getElem.mp reported
  have listed : (leading slots values)[place]? = some row := by
    rw [List.getElem?_eq_getElem bound, here]
  have within : place < slots.countP Slot.isRequired := by
    rwa [leading_length] at bound
  refine ⟨place, ⟨requiredFirst.mem_lacking_iff.mpr ⟨row, listed, unset⟩, ?_⟩, ?_⟩
  · intro other member
    obtain ⟨earlier, there, missing⟩ := requiredFirst.mem_lacking_iff.mp member
    by_contra less
    have set := before other (Nat.lt_of_not_le less)
    rw [(List.getElem?_eq_some_iff.mp there).2, missing] at set
    exact absurd set (by decide)
  · rw [getElem?_leading within] at listed
    obtain ⟨slot, found, rfl⟩ := Option.map_eq_some_iff.mp listed
    exact found

/-- The optional slots that are set stand among the rows that are kept. -/
theorem lt_of_chosen {place : Nat} (set : place ∈ chosen slots values) :
    place < slots.countP Slot.isRequired + (kept slots values).length := by
  obtain ⟨slot, found, _, given⟩ := set
  by_contra beyond
  exact Bool.false_ne_true
    (given.symm.trans (isNull_of_not_kept (Nat.le_of_not_lt beyond) found))

/-- If rows are kept, the last of them is that of the last optional slot that is set. -/
theorem RequiredFirst.isGreatest_chosen (requiredFirst : RequiredFirst slots) {count : Nat}
    (some_kept : (kept slots values).length = count + 1) :
    IsGreatest (chosen slots values) (slots.countP Slot.isRequired + count) := by
  constructor
  · have nonempty : kept slots values ≠ [] := List.ne_nil_of_length_eq_add_one some_kept
    have last : ¬ ((kept slots values).getLast nonempty).2.isNull = true :=
      List.rdropWhile_last_not _ _ nonempty
    have listed : (kept slots values)[count]? = some ((kept slots values).getLast nonempty) := by
      rw [← List.getLast?_eq_some_getLast nonempty, List.getLast?_eq_getElem?, some_kept,
        Nat.add_sub_cancel]
    rw [getElem?_kept (by omega)] at listed
    obtain ⟨slot, found, same⟩ := Option.map_eq_some_iff.mp listed
    refine ⟨slot, found, ?_, ?_⟩
    · rw [← Bool.not_eq_true, requiredFirst.isRequired_iff found]
      omega
    · rw [← Bool.not_eq_true]
      rw [← same] at last
      exact last
  · intro place set
    have before := lt_of_chosen set
    omega

/-- The slots that cannot be filled are the rows kept that are not fillable. -/
theorem RequiredFirst.mem_unfillable_iff (requiredFirst : RequiredFirst slots) {count place : Nat}
    (some_kept : (kept slots values).length = count + 1) :
    place ∈ unfillable slots values (slots.countP Slot.isRequired + count) ↔
      ∃ offset row, place = slots.countP Slot.isRequired + offset ∧
        (kept slots values)[offset]? = some row ∧ ¬ Fillable row := by
  have hole : ∀ slot : Slot, ∀ value : Argument,
      ¬ Fillable (slot, value) ↔ value.isNull = true ∧ slot.default? = none := by
    intro slot value
    simp only [Fillable, Classical.not_imp, Bool.not_eq_true, Option.isSome_eq_false_iff,
      Option.isNone_iff_eq_none]
  constructor
  · rintro ⟨before, slot, found, optional, unset, bare⟩
    have behind : slots.countP Slot.isRequired ≤ place := by
      rw [← Nat.not_lt, ← requiredFirst.isRequired_iff found, optional]
      exact Bool.false_ne_true
    obtain ⟨offset, rfl⟩ := Nat.exists_eq_add_of_le behind
    refine ⟨offset, _, rfl, ?_, (hole _ _).mpr ⟨unset, bare⟩⟩
    rw [getElem?_kept (by omega), found, Option.map_some]
  · rintro ⟨offset, row, rfl, listed, unfilled⟩
    have within := (List.getElem?_eq_some_iff.mp listed).1
    rw [getElem?_kept within] at listed
    obtain ⟨slot, found, rfl⟩ := Option.map_eq_some_iff.mp listed
    obtain ⟨unset, bare⟩ := (hole _ _).mp unfilled
    have optional : slot.isRequired = false := by
      rw [← Bool.not_eq_true, requiredFirst.isRequired_iff found]
      omega
    refine ⟨?_, slot, found, optional, unset, bare⟩
    -- The last row that is kept is set, so it is none of these.
    by_contra last
    obtain rfl : offset = count := by omega
    obtain ⟨_, _, _, set⟩ := (requiredFirst.isGreatest_chosen some_kept).1
    exact Bool.false_ne_true (set.symm.trans unset)

/-- Filling fails at the last row that is not fillable. -/
theorem exists_of_fill_error {index : Nat} {rows : List (Slot × Argument)} {error : EncodeError}
    (failed : fill operation index rows = .error error) :
    ∃ offset row, rows[offset]? = some row ∧ ¬ Fillable row ∧
      (∀ later other, rows[later]? = some other → ¬ Fillable other → later ≤ offset) ∧
      error = ⟨operation, .missingDefault (index + offset : Nat) row.1.name⟩ := by
  induction rows generalizing index with
  | nil => exact nomatch failed
  | cons row rest ih =>
    obtain ⟨slot, value⟩ := row
    cases tail : fill operation (index + 1) rest with
    | error other =>
      obtain rfl : other = error := by simpa only [fill, tail, Except.error.injEq] using failed
      obtain ⟨offset, row, listed, unfilled, last, rfl⟩ := ih tail
      refine ⟨offset + 1, row, listed, unfilled, ?_, ?_⟩
      · intro later other there opened
        cases later with
        | zero => omega
        | succ later => exact Nat.succ_le_succ (last later other there opened)
      · rw [Nat.add_right_comm, Nat.add_assoc]
    | ok others =>
      have fillable := (fill_eq_ok_iff.mp tail).1
      cases unset : value.isNull with
      | false => simp [fill, tail, unset] at failed
      | true =>
        cases default : slot.default? with
        | some stated => simp [fill, tail, unset, default] at failed
        | none =>
          simp only [fill, tail, unset, default, ↓reduceIte, Except.error.injEq] at failed
          refine ⟨0, (slot, value), rfl, ?_, ?_, failed.symm⟩
          · simp [Fillable, unset, default]
          · intro later other there opened
            cases later with
            | zero => exact Nat.le_refl 0
            | succ later => exact absurd (fillable other (List.mem_of_getElem? there)) opened

/-- What belongs at the place of a row that is set or fillable. -/
theorem itemAt?_eq {place : Nat} {slot : Slot} (found : slots[place]? = some slot)
    (fillable : Fillable (slot, valueAt values place)) :
    itemAt? slots values place = some (settled (slot, valueAt values place)) := by
  cases unset : (valueAt values place).isNull with
  | false => simp [itemAt?, settled, unset]
  | true =>
    obtain ⟨default, stated⟩ : ∃ default, slot.default? = some default :=
      Option.isSome_iff_exists.mp (fillable unset)
    simp [itemAt?, settled, unset, found, stated]

/-- The items of the list that is sent are those that belong at the places of its rows. -/
theorem getElem?_settled (set : ∀ row ∈ leading slots values, row.2.isNull = false)
    (fillable : ∀ row ∈ kept slots values, Fillable row) {place : Nat}
    (within : place < slots.countP Slot.isRequired + (kept slots values).length) :
    ((leading slots values).map Prod.snd ++ (kept slots values).map settled)[place]? =
      itemAt? slots values place := by
  have row : (leading slots values ++ kept slots values)[place]? =
      slots[place]?.map fun slot => (slot, valueAt values place) := by
    by_cases required : place < slots.countP Slot.isRequired
    · rw [List.getElem?_append_left (by rwa [leading_length]), getElem?_leading required]
    · obtain ⟨offset, rfl⟩ := Nat.exists_eq_add_of_le (Nat.le_of_not_lt required)
      rw [List.getElem?_append_right (by rw [leading_length]; omega), leading_length,
        Nat.add_sub_cancel_left, getElem?_kept (by omega)]
  obtain ⟨given, listed⟩ : ∃ given,
      (leading slots values ++ kept slots values)[place]? = some given := by
    refine ⟨_, List.getElem?_eq_getElem ?_⟩
    rwa [List.length_append, leading_length]
  have sent := fillable_of_sent set fillable given (List.mem_of_getElem? listed)
  rw [map_snd_of_set set, ← List.map_append, List.getElem?_map, listed, Option.map_some]
  rw [row] at listed
  obtain ⟨slot, found, rfl⟩ := Option.map_eq_some_iff.mp listed
  exact (itemAt?_eq found sent).symm

/-- If all required slots are set, their values stand in front of the list. -/
theorem leading_map_snd (set : ∀ row ∈ leading slots values, row.2.isNull = false) :
    (leading slots values).map Prod.snd = values.take (slots.countP Slot.isRequired) := by
  refine List.ext_getElem? fun place => ?_
  by_cases within : place < slots.countP Slot.isRequired
  · obtain ⟨row, listed⟩ : ∃ row, (leading slots values)[place]? = some row :=
      ⟨_, List.getElem?_eq_getElem (by rwa [leading_length])⟩
    have given := set row (List.mem_of_getElem? listed)
    rw [List.getElem?_map, listed, Option.map_some, List.getElem?_take_of_lt within]
    rw [getElem?_leading within] at listed
    obtain ⟨slot, found, rfl⟩ := Option.map_eq_some_iff.mp listed
    cases value : values[place]? with
    | some value => simp [valueAt, value]
    | none => simp [valueAt, value] at given
  · rw [List.getElem?_eq_none (by rw [List.length_map, leading_length]; omega),
      List.getElem?_eq_none (by rw [List.length_take]; omega)]

/-- The encoder answers what the rules prescribe. -/
theorem prescribed_elide (operation : String) (requiredFirst : RequiredFirst slots)
    (values : List Argument) :
    Prescribed operation slots values (elide operation slots values) := by
  by_cases fits : values.length ≤ slots.length
  swap
  · rw [elide, if_pos (Nat.lt_of_not_le fits)]
    exact .tooMany (Nat.lt_of_not_le fits)
  rw [elide_eq operation fits]
  cases reported : (leading slots values).find? fun row => row.2.isNull with
  | some row =>
    obtain ⟨place, first, found⟩ := requiredFirst.isLeast_lacking reported
    exact .missingArgument fits first found
  | none =>
    have set : ∀ row ∈ leading slots values, row.2.isNull = false := by
      simpa only [List.find?_eq_none, Bool.not_eq_true] using reported
    have complete := requiredFirst.lacking_eq_empty_iff.mpr set
    cases filling : fill operation (slots.countP Slot.isRequired) (kept slots values) with
    | error error =>
      obtain ⟨offset, row, listed, unfilled, last, rfl⟩ := exists_of_fill_error filling
      have within := (List.getElem?_eq_some_iff.mp listed).1
      obtain ⟨count, some_kept⟩ := Nat.exists_eq_add_of_le' (Nat.one_le_of_lt within)
      have hole : IsGreatest
          (unfillable slots values (slots.countP Slot.isRequired + count))
          (slots.countP Slot.isRequired + offset) := by
        constructor
        · exact (requiredFirst.mem_unfillable_iff some_kept).mpr
            ⟨offset, row, rfl, listed, unfilled⟩
        · intro place member
          obtain ⟨other, there, rfl, present, bare⟩ :=
            (requiredFirst.mem_unfillable_iff some_kept).mp member
          exact Nat.add_le_add_left (last other there present bare) _
      rw [getElem?_kept within] at listed
      obtain ⟨slot, found, rfl⟩ := Option.map_eq_some_iff.mp listed
      exact .missingDefault fits complete (requiredFirst.isGreatest_chosen some_kept) hole found
    | ok filled =>
      obtain ⟨fillable, rfl⟩ := fill_eq_ok_iff.mp filling
      cases length : (kept slots values).length with
      | zero =>
        have plain : chosen slots values = ∅ := by
          refine Set.eq_empty_iff_forall_notMem.mpr fun place member => ?_
          have behind := requiredFirst.le_of_chosen member
          have before := lt_of_chosen member
          omega
        rw [List.eq_nil_of_length_eq_zero length]
        simp only [List.map_nil, List.append_nil, leading_map_snd set]
        exact .requiredOnly fits complete plain (Argument.forall₂_sentAs_iff.mpr rfl)
      | succ count =>
        refine .filled fits complete (requiredFirst.isGreatest_chosen length) ?_ ?_ ?_
        · refine Set.eq_empty_iff_forall_notMem.mpr fun place member => ?_
          obtain ⟨offset, row, _, listed, unfilled⟩ :=
            (requiredFirst.mem_unfillable_iff length).mp member
          exact unfilled (fillable row (List.mem_of_getElem? listed))
        · simp only [List.length_map, List.length_append, leading_length, length]
          omega
        · intro place within
          have item := getElem?_settled set fillable (by omega : place < _ + (kept slots values).length)
          obtain ⟨value, listed⟩ : ∃ value, ((leading slots values).map Prod.snd ++
              (kept slots values).map settled)[place]? = some value := by
            refine ⟨_, List.getElem?_eq_getElem ?_⟩
            simp only [List.length_append, List.length_map, leading_length, length]
            omega
          refine ⟨value, value.toWire, item.symm.trans listed, ?_, Argument.sentAs_iff.mpr rfl⟩
          rw [List.getElem?_map, listed, Option.map_some]

/-- The encoder meets its rules: for slots of which the required ones stand first, it answers an
outcome exactly when the rules prescribe it. A list that it answers has an item for each required
slot, at most one for each slot, and is the shortest one that carries every set value. -/
theorem elide_eq_iff_prescribed (operation : String) {slots : List Slot}
    (requiredFirst : RequiredFirst slots) (values : List Argument) :
    (∀ outcome, elide operation slots values = outcome ↔
      Prescribed operation slots values outcome) ∧
    ∀ wire, elide operation slots values = .ok wire →
      slots.countP Slot.isRequired ≤ wire.length ∧ wire.length ≤ slots.length ∧
        Carries values wire ∧ ∀ other, Carries values other → wire.length ≤ other.length := by
  have answered := prescribed_elide operation requiredFirst values
  constructor
  · intro outcome
    exact ⟨fun same => same ▸ answered, answered.unique⟩
  · intro wire encoded
    rw [encoded] at answered
    obtain ⟨atLeast, atMost, least⟩ := answered.length_bounds requiredFirst
    exact ⟨atLeast, atMost, answered.carries requiredFirst, least⟩

/-- A ban up to an absolute time: the command is sent as its word, and the time that is not given is
filled with its default, since the flag behind it is set. -/
theorem elide_eq_iff_prescribed_setBan :
    let slots := Binding.setBanSignature.slots
    let values : List Argument := [.str "10.0.0.0/24", .const (.setBan .add), .null, .bool true]
    let wire : List Argument := [.str "10.0.0.0/24", .str "add", .int 0, .bool true]
    RequiredFirst slots ∧ elide "setban" slots values = .ok wire ∧
      Prescribed "setban" slots values (.ok wire) ∧
      (∀ outcome, Prescribed "setban" slots values outcome → outcome = .ok wire) ∧
      Carries values wire ∧ ∀ other, Carries values other → 4 ≤ other.length := by
  intro slots values wire
  have requiredFirst : RequiredFirst slots := by
    unfold RequiredFirst
    decide
  have encoded : elide "setban" slots values = .ok wire := by rfl
  obtain ⟨agrees, shortest⟩ := elide_eq_iff_prescribed "setban" requiredFirst values
  obtain ⟨-, -, carries, least⟩ := shortest wire encoded
  exact ⟨requiredFirst, encoded, (agrees _).mp encoded,
    fun outcome prescribed => ((agrees outcome).mpr prescribed).symm.trans encoded, carries, least⟩

end NodeClient.Encoding
