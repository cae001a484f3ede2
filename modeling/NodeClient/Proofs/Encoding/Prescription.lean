import NodeClient.Encoding
import Mathlib.Data.List.Forall2
import Mathlib.Order.Bounds.Basic

/-! # What the rules prescribe for a list of values

The rules of encoding are stated here by the places of the slots, without the recursion that carries
them out: which required slots are not set, which optional ones are, and which of those before the
last one cannot be filled. The form in which an argument is sent is stated by what the argument is.
The rules prescribe at most one outcome for a list of values. A list that is prescribed is the
shortest one that carries every set value.
-/

namespace NodeClient

/-- The wire form of an argument. A member of an enumeration of strings is sent as its string, one of
an enumeration of integers as its integer, and one of any other enumeration as its value. Whatever is
no member of an enumeration is sent as it is. -/
inductive Argument.SentAs : Argument → Argument → Prop where
  | text {member : EnumMember} {word : String} (means : member.meaning = .text word) :
      SentAs (.const member) (.str word)
  | integer {member : EnumMember} {number : Int} (means : member.meaning = .integer number) :
      SentAs (.const member) (.int number)
  | other {member : EnumMember} {value : Json} (means : member.meaning = .other value) :
      SentAs (.const member) (Value.ofJson value)
  | itself {argument : Argument} (noMember : ∀ member, argument ≠ .const member) :
      SentAs argument argument

/-- Every argument has one wire form, which the encoder brings it into. -/
theorem Argument.sentAs_iff {argument item : Argument} :
    argument.SentAs item ↔ argument.toWire = item := by
  constructor
  · rintro (means | means | means | noMember)
    iterate 3 rw [toWire, means]; rfl
    cases argument with
    | const member => exact absurd rfl (noMember member)
    | _ => rfl
  · rintro rfl
    cases argument with
    | const member =>
      cases means : member.meaning with
      | text word =>
        rw [toWire, means]
        exact .text means
      | integer number =>
        rw [toWire, means]
        exact .integer means
      | other value =>
        rw [toWire, means]
        exact .other means
    | _ => exact .itself nofun

/-- The wire forms of a list of arguments. -/
theorem Argument.forall₂_sentAs_iff {arguments wire : List Argument} :
    List.Forall₂ SentAs arguments wire ↔ arguments.map toWire = wire := by
  induction arguments generalizing wire with
  | nil => rw [List.forall₂_nil_left_iff, List.map_nil, eq_comm]
  | cons argument rest ih =>
    rw [List.forall₂_cons_left_iff, List.map_cons]
    simp only [sentAs_iff, ih]
    constructor
    · rintro ⟨_, _, rfl, rfl, rfl⟩
      rfl
    · rintro rfl
      exact ⟨_, _, rfl, rfl, rfl⟩

namespace Encoding

/-- No required slot follows an optional one. -/
def RequiredFirst (slots : List Slot) : Prop :=
  slots.Pairwise fun earlier later => later.isRequired = true → earlier.isRequired = true

/-- The value given for the slot at a place, null where the values end before it. -/
def valueAt (values : List Argument) (place : Nat) : Argument := values[place]?.getD .null

section

variable (slots : List Slot) (values : List Argument)

/-- The places of the required slots that are not set. -/
def lacking : Set Nat :=
  {place | ∃ slot, slots[place]? = some slot ∧ slot.isRequired = true ∧
    (valueAt values place).isNull = true}

/-- The places of the optional slots that are set. -/
def chosen : Set Nat :=
  {place | ∃ slot, slots[place]? = some slot ∧ slot.isRequired = false ∧
    (valueAt values place).isNull = false}

/-- The places of the optional slots before the last one set that are not set and have no
default. -/
def unfillable (last : Nat) : Set Nat :=
  {place | place < last ∧ ∃ slot, slots[place]? = some slot ∧ slot.isRequired = false ∧
    (valueAt values place).isNull = true ∧ slot.default? = none}

/-- What belongs at the place of a slot: its value if it is set, and otherwise its default. -/
def itemAt? (place : Nat) : Option Argument :=
  if (valueAt values place).isNull then slots[place]?.bind Slot.default?
  else some (valueAt values place)

end

/-- The outcome that the rules prescribe for a list of values. -/
inductive Prescribed (operation : String) (slots : List Slot) (values : List Argument) :
    Except EncodeError (List Argument) → Prop where
  | tooMany (surplus : slots.length < values.length) :
      Prescribed operation slots values
        (.error ⟨operation, .tooMany slots.length values.length⟩)
  | missingArgument {place : Nat} {slot : Slot} (fits : values.length ≤ slots.length)
      (first : IsLeast (lacking slots values) place) (found : slots[place]? = some slot) :
      Prescribed operation slots values (.error ⟨operation, .missingArgument slot.name⟩)
  | requiredOnly {wire : List Argument} (fits : values.length ≤ slots.length)
      (complete : lacking slots values = ∅) (plain : chosen slots values = ∅)
      (items : List.Forall₂ Argument.SentAs (values.take (slots.countP Slot.isRequired)) wire) :
      Prescribed operation slots values (.ok wire)
  | missingDefault {last place : Nat} {slot : Slot} (fits : values.length ≤ slots.length)
      (complete : lacking slots values = ∅) (greatest : IsGreatest (chosen slots values) last)
      (hole : IsGreatest (unfillable slots values last) place)
      (found : slots[place]? = some slot) :
      Prescribed operation slots values (.error ⟨operation, .missingDefault place slot.name⟩)
  | filled {last : Nat} {wire : List Argument} (fits : values.length ≤ slots.length)
      (complete : lacking slots values = ∅) (greatest : IsGreatest (chosen slots values) last)
      (fillable : unfillable slots values last = ∅) (length : wire.length = last + 1)
      (items : ∀ place ≤ last, ∃ value item, itemAt? slots values place = some value ∧
        wire[place]? = some item ∧ value.SentAs item) :
      Prescribed operation slots values (.ok wire)

/-- A list that has every set value, in wire form, at its place. -/
def Carries (values wire : List Argument) : Prop :=
  ∀ (place : Nat) (value : Argument), values[place]? = some value → value.isNull = false →
    ∃ item, wire[place]? = some item ∧ value.SentAs item

variable {operation : String} {slots : List Slot} {values : List Argument}

/-- The rules prescribe one outcome. -/
theorem Prescribed.unique {first second : Except EncodeError (List Argument)}
    (one : Prescribed operation slots values first)
    (two : Prescribed operation slots values second) : first = second := by
  have empty : ∀ {places : Set Nat} {place : Nat}, places = ∅ → place ∉ places := by
    rintro _ place rfl
    exact Set.notMem_empty place
  -- Two rules never apply together: the first one needs a set of places to be empty, or to have an
  -- element, where the other needs the contrary.
  cases one with
  | tooMany surplus =>
    cases two with
    | tooMany => rfl
    | _ => omega
  | missingArgument fits least found =>
    cases two with
    | tooMany => omega
    | missingArgument _ least' found' =>
      rw [least.unique least', found', Option.some.injEq] at found
      rw [found]
    | requiredOnly _ complete | missingDefault _ complete | filled _ complete =>
      exact absurd least.1 (empty complete)
  | requiredOnly fits complete plain items =>
    cases two with
    | tooMany => omega
    | missingArgument _ least => exact absurd least.1 (empty complete)
    | requiredOnly _ _ _ items' =>
      rw [Argument.forall₂_sentAs_iff] at items items'
      rw [← items, ← items']
    | missingDefault _ _ greatest | filled _ _ greatest => exact absurd greatest.1 (empty plain)
  | missingDefault fits complete greatest hole found =>
    cases two with
    | tooMany => omega
    | missingArgument _ least => exact absurd least.1 (empty complete)
    | requiredOnly _ _ plain => exact absurd greatest.1 (empty plain)
    | missingDefault _ _ greatest' hole' found' =>
      obtain rfl := greatest.unique greatest'
      obtain rfl := hole.unique hole'
      rw [found', Option.some.injEq] at found
      rw [found]
    | filled _ _ greatest' fillable =>
      obtain rfl := greatest.unique greatest'
      exact absurd hole.1 (empty fillable)
  | @filled last wire fits complete greatest fillable length items =>
    cases two with
    | tooMany => omega
    | missingArgument _ least => exact absurd least.1 (empty complete)
    | requiredOnly _ _ plain => exact absurd greatest.1 (empty plain)
    | missingDefault _ _ greatest' hole =>
      obtain rfl := greatest.unique greatest'
      exact absurd hole.1 (empty fillable)
    | filled _ _ greatest' _ length' items' =>
      obtain rfl := greatest.unique greatest'
      refine congrArg Except.ok (List.ext_getElem? fun place => ?_)
      by_cases within : place ≤ last
      · obtain ⟨value, item, settled, listed, sent⟩ := items place within
        obtain ⟨value', item', settled', listed', sent'⟩ := items' place within
        obtain rfl : value = value' := Option.some.inj (settled.symm.trans settled')
        rw [listed, listed', ← Argument.sentAs_iff.mp sent, ← Argument.sentAs_iff.mp sent']
      · rw [List.getElem?_eq_none (by omega), List.getElem?_eq_none (by omega)]

/-- With the required slots first, a slot is required exactly when its place is below their count. -/
theorem RequiredFirst.isRequired_iff (requiredFirst : RequiredFirst slots) {place : Nat}
    {slot : Slot} (found : slots[place]? = some slot) :
    slot.isRequired = true ↔ place < slots.countP Slot.isRequired := by
  induction slots generalizing place with
  | nil => exact nomatch found
  | cons first rest ih =>
    obtain ⟨before, later⟩ := List.pairwise_cons.mp requiredFirst
    cases leading : first.isRequired with
    | true =>
      rw [List.countP_cons_of_pos leading]
      cases place with
      | zero => simp [← Option.some.inj found, leading]
      | succ place => simpa using ih later found
    | false =>
      have none : ∀ other ∈ rest, ¬ other.isRequired = true := fun other member required =>
        Bool.false_ne_true (leading.symm.trans (before other member required))
      have all : slot ∈ first :: rest → ¬ slot.isRequired = true := by
        rintro (_ | ⟨_, member⟩)
        · exact ne_true_of_eq_false leading
        · exact none slot member
      rw [List.countP_cons_of_neg (ne_true_of_eq_false leading), List.countP_eq_zero.mpr none]
      simp [all (List.mem_of_getElem? found)]

/-- An optional slot that is set stands behind the required ones. -/
theorem RequiredFirst.le_of_chosen (requiredFirst : RequiredFirst slots) {place : Nat}
    (set : place ∈ chosen slots values) : slots.countP Slot.isRequired ≤ place := by
  obtain ⟨slot, found, optional, _⟩ := set
  rw [← Nat.not_lt, ← requiredFirst.isRequired_iff found, optional]
  exact Bool.false_ne_true

/-- A set value belongs to a required slot, or to an optional one that is set. -/
theorem RequiredFirst.place_of_set (requiredFirst : RequiredFirst slots)
    (fits : values.length ≤ slots.length) {place : Nat} {value : Argument}
    (given : values[place]? = some value) (set : value.isNull = false) :
    place < slots.countP Slot.isRequired ∨ place ∈ chosen slots values := by
  have within := (List.getElem?_eq_some_iff.mp given).1
  obtain ⟨slot, found⟩ : ∃ slot, slots[place]? = some slot :=
    ⟨_, List.getElem?_eq_getElem (by omega)⟩
  cases required : slot.isRequired with
  | true => exact .inl ((requiredFirst.isRequired_iff found).mp required)
  | false =>
    have here : valueAt values place = value := by rw [valueAt, given, Option.getD_some]
    exact .inr ⟨slot, found, required, here ▸ set⟩

/-- Where no required slot lacks its value, every required slot is set. -/
theorem RequiredFirst.set_of_complete (requiredFirst : RequiredFirst slots)
    (complete : lacking slots values = ∅) {place : Nat}
    (required : place < slots.countP Slot.isRequired) : (valueAt values place).isNull = false := by
  have declared : place < slots.length := Nat.lt_of_lt_of_le required List.countP_le_length
  have found := List.getElem?_eq_getElem declared
  rw [← Bool.not_eq_true]
  intro unset
  have member : place ∈ lacking slots values :=
    ⟨_, found, (requiredFirst.isRequired_iff found).mpr required, unset⟩
  exact absurd (complete ▸ member) (Set.notMem_empty _)

/-- A place that is set holds a value, which every list that carries the set values has there. -/
theorem Carries.lt_length {wire : List Argument} (carries : Carries values wire) {place : Nat}
    (set : (valueAt values place).isNull = false) : place < wire.length := by
  cases given : values[place]? with
  | none =>
    rw [valueAt, given] at set
    exact nomatch set
  | some value =>
    rw [valueAt, given, Option.getD_some] at set
    obtain ⟨_, listed, _⟩ := carries place value given set
    exact (List.getElem?_eq_some_iff.mp listed).1

/-- A list that is prescribed carries every set value. -/
theorem Prescribed.carries (requiredFirst : RequiredFirst slots) {wire : List Argument}
    (prescribed : Prescribed operation slots values (.ok wire)) : Carries values wire := by
  intro place value given set
  cases prescribed with
  | requiredOnly fits complete plain items =>
    rcases requiredFirst.place_of_set fits given set with required | optional
    · rw [← Argument.forall₂_sentAs_iff.mp items]
      refine ⟨value.toWire, ?_, Argument.sentAs_iff.mpr rfl⟩
      rw [List.getElem?_map, List.getElem?_take_of_lt required, given, Option.map_some]
    · exact absurd (plain ▸ optional) (Set.notMem_empty _)
  | @filled last _ fits complete greatest fillable length items =>
    have upTo : place ≤ last := by
      rcases requiredFirst.place_of_set fits given set with required | optional
      · have behind := requiredFirst.le_of_chosen greatest.1
        omega
      · exact greatest.2 optional
    have here : valueAt values place = value := by rw [valueAt, given, Option.getD_some]
    obtain ⟨settled, item, stands, listed, sent⟩ := items place upTo
    rw [itemAt?, here, set] at stands
    obtain rfl : value = settled := Option.some.inj stands
    exact ⟨item, listed, sent⟩

/-- A list that is prescribed has an item for each required slot and at most one for each slot, and
no list that carries every set value is shorter. -/
theorem Prescribed.length_bounds (requiredFirst : RequiredFirst slots) {wire : List Argument}
    (prescribed : Prescribed operation slots values (.ok wire)) :
    slots.countP Slot.isRequired ≤ wire.length ∧ wire.length ≤ slots.length ∧
      ∀ other, Carries values other → wire.length ≤ other.length := by
  cases prescribed with
  | requiredOnly fits complete plain items =>
    have set : ∀ place < slots.countP Slot.isRequired, (valueAt values place).isNull = false :=
      fun place required => requiredFirst.set_of_complete complete required
    have enough : slots.countP Slot.isRequired ≤ values.length := by
      by_contra fewer
      have beyond := set values.length (by omega)
      rw [valueAt, List.getElem?_eq_none (Nat.le_refl _)] at beyond
      exact nomatch beyond
    rw [← items.length_eq, List.length_take, Nat.min_eq_left enough]
    refine ⟨Nat.le_refl _, List.countP_le_length, fun other carries => ?_⟩
    cases count : slots.countP Slot.isRequired with
    | zero => omega
    | succ place => exact carries.lt_length (set place (by omega))
  | @filled last _ fits complete greatest fillable length items =>
    have behind := requiredFirst.le_of_chosen greatest.1
    obtain ⟨slot, found, _, set⟩ := greatest.1
    have declared := (List.getElem?_eq_some_iff.mp found).1
    refine ⟨by omega, by omega, fun other carries => ?_⟩
    have covered := carries.lt_length set
    omega

end Encoding

end NodeClient
