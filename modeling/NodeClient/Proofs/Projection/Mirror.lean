import NodeClient.Binding.Table
import Mathlib.Data.List.Forall2

/-! # Projections that mirror each other

One projection mirrors another when it fails as the other does, or answers the converted value. The
ways in which they may fail are followed on the way: a projection of a result that was read by its
own shape refuses a member, meets a port that is no number, an integer with too many digits to be told
or a count of milliseconds that is no floating-point number of seconds, and does not fail in any other
way.
-/

namespace NodeClient

/-- The failures of projections of a result that spells some addresses, counts some milliseconds and
states some integers. -/
inductive ProjectionFailure.Arises (spells : String → Prop) (counts states : Int → Prop) :
    ProjectionFailure → Prop where
  | refused (error : ProjectionError) : Arises spells counts states (.refused error)
  | notNumber {text port : String} {fault : Number.IntegerFault} (spelled : spells text)
      (parsed : SocketAddress.parse text = .error (.notNumber port fault)) :
      Arises spells counts states (.notNumber port fault)
  | tooLong {number : Int} (stated : states number)
      (long : Quantity.isTooLong (.int number) = true) : Arises spells counts states .tooLong
  | ratioOutOfRange {milliseconds : Int} (counted : counts milliseconds)
      (overflow : Binary64.ofRatio? milliseconds 1000 = none) :
      Arises spells counts states .ratioOutOfRange

namespace Projected

open ProjectionFailure

variable {α β γ : Type}

/-- A projection fails in allowed ways only. -/
def FailsOnly (allowed : ProjectionFailure → Prop) (projected : Projected α) : Prop :=
  ∀ failure, projected = .error failure → allowed failure

/-- A projection fails in allowed ways only, and another one fails alike or answers the converted
value. -/
structure Mirrors (allowed : ProjectionFailure → Prop) (convert : α → β) (projected : Projected α)
    (other : Projected β) : Prop where
  outcome : other = projected.map convert
  failsOnly : projected.FailsOnly allowed

variable {allowed : ProjectionFailure → Prop} {convert : α → β}

theorem failsOnly_ok (value : α) : FailsOnly allowed (.ok value) := fun _ failed => nomatch failed

theorem failsOnly_error {failure : ProjectionFailure} (allows : allowed failure) :
    FailsOnly allowed (.error failure : Projected α) :=
  fun _ failed => Except.error.inj failed ▸ allows

theorem FailsOnly.map {projected : Projected α} (failsOnly : projected.FailsOnly allowed)
    (f : α → β) : FailsOnly allowed (projected.map f) := by
  cases projected with
  | error failure => exact failsOnly_error (failsOnly failure rfl)
  | ok value => exact failsOnly_ok (f value)

theorem FailsOnly.each {project : α → Projected β} {items : List α}
    (failsOnly : ∀ item ∈ items, (project item).FailsOnly allowed) :
    (each project items).FailsOnly allowed := by
  induction items with
  | nil => exact failsOnly_ok []
  | cons item rest ih =>
    have others := ih fun other listed => failsOnly other (List.mem_cons_of_mem _ listed)
    have head := failsOnly item List.mem_cons_self
    rw [Projected.each]
    cases first : project item with
    | error failure => exact failsOnly_error (head failure first)
    | ok value =>
      cases later : Projected.each project rest with
      | error failure => exact failsOnly_error (others failure later)
      | ok values => exact failsOnly_ok _

namespace Mirrors

theorem of_ok {value : α} {other : β} (converted : other = convert value) :
    Mirrors allowed convert (.ok value) (.ok other) :=
  ⟨congrArg Except.ok converted, failsOnly_ok value⟩

theorem of_error {failure : ProjectionFailure} (allows : allowed failure) :
    Mirrors allowed convert (.error failure) (.error failure) :=
  ⟨rfl, failsOnly_error allows⟩

/-- A step that answers the same value in both. -/
theorem read {property : γ → Prop} {first other : Projected γ} {next : γ → Projected α}
    {next' : γ → Projected β}
    (both : ∃ value, property value ∧ first = .ok value ∧ other = .ok value)
    (rest : ∀ value, property value → Mirrors allowed convert (next value) (next' value)) :
    Mirrors allowed convert (first >>= next) (other >>= next') := by
  obtain ⟨value, holds, rfl, rfl⟩ := both
  exact rest value holds

/-- A step that is taken in both. -/
theorem step {first : Projected γ} {next : γ → Projected α} {next' : γ → Projected β}
    (failsOnly : first.FailsOnly allowed)
    (rest : ∀ value, Mirrors allowed convert (next value) (next' value)) :
    Mirrors allowed convert (first >>= next) (first >>= next') := by
  cases first with
  | error failure => exact of_error (failsOnly failure rfl)
  | ok value => exact rest value

end Mirrors

variable {spells : String → Prop} {counts states : Int → Prop}

theorem failsOnly_refuse (operation field : String) (fault : FieldFault) :
    FailsOnly (Arises spells counts states) (refuse operation field fault : Projected α) :=
  failsOnly_error (.refused _)

/-- An address fails on a port that is no number, or is refused. -/
theorem failsOnly_address (operation field : String) {text : String} (spelled : spells text) :
    FailsOnly (Arises spells counts states) (address operation field text) := by
  rw [address]
  cases parsed : SocketAddress.parse text with
  | ok address => exact failsOnly_ok address
  | error fault =>
    cases fault with
    | notNumber port fault => exact failsOnly_error (.notNumber spelled parsed)
    | _ => exact failsOnly_refuse _ _ _

theorem failsOnly_addressOrNull (operation field : String) {text? : Option String}
    (spelled : ∀ text, text? = some text → spells text) :
    FailsOnly (Arises spells counts states) (addressOrNull operation field text?) := by
  cases text? with
  | none => exact failsOnly_ok none
  | some text => exact (failsOnly_address operation field (spelled text rfl)).map some

/-- A member is refused for a number unless that is an integer with too many digits to be told. -/
theorem failsOnly_refuseNumber (operation field : String) {number : Quantity} (fault : FieldFault)
    (stated : ∀ value, number = .int value → states value) :
    FailsOnly (Arises spells counts states) (refuseNumber operation field number fault : Projected α) := by
  rw [refuseNumber]
  cases number with
  | float value => exact failsOnly_refuse _ _ _
  | int value =>
    split_ifs with long
    · exact failsOnly_error (.tooLong (stated value rfl) long)
    · exact failsOnly_refuse _ _ _

/-- Two projections that refuse a member for the same number fail alike. -/
theorem Mirrors.of_refuseNumber {convert : α → β} (operation field : String) {number : Quantity}
    (fault : FieldFault) (stated : ∀ value, number = .int value → states value) :
    Mirrors (Arises spells counts states) convert (refuseNumber operation field number fault)
      (refuseNumber operation field number fault) := by
  refine ⟨?_, failsOnly_refuseNumber operation field fault stated⟩
  rw [refuseNumber, refuseNumber]
  cases number.isTooLong <;> rfl

theorem failsOnly_instant (operation field : String) {seconds : Quantity}
    (stated : ∀ value, seconds = .int value → states value) :
    FailsOnly (Arises spells counts states) (instant operation field seconds) := by
  rw [instant]
  cases Instant.ofTimestamp seconds with
  | ok instant => exact failsOnly_ok instant
  | error fault => cases fault <;> exact failsOnly_refuseNumber _ _ _ stated

theorem failsOnly_satoshis (operation field : String) (amount : Binary64) :
    FailsOnly (Arises spells counts states) (satoshis operation field (.float amount)) := by
  rw [satoshis, Quantity.isTooLong, if_neg Bool.false_ne_true]
  cases Amount.toSatoshis (.float amount) with
  | ok satoshis => exact failsOnly_ok satoshis
  | error fault => cases fault <;> exact failsOnly_refuse _ _ _

theorem failsOnly_subnet (operation field text : String) :
    FailsOnly (Arises spells counts states) (subnet operation field text) := by
  rw [subnet]
  cases Address.isBannable text.toList with
  | true => exact failsOnly_ok text
  | false => exact failsOnly_refuse _ _ _

/-- The instant of a count of milliseconds fails where the count is too large for a floating-point
number, or is refused. -/
theorem failsOnly_timeOf {milliseconds : Int} (counted : counts milliseconds) :
    FailsOnly (Arises spells counts states) (NetTotals.timeOf milliseconds) := by
  rw [NetTotals.timeOf]
  cases seconds : Binary64.ofRatio? milliseconds 1000 with
  | none => exact failsOnly_error (.ratioOutOfRange counted seconds)
  | some seconds => exact failsOnly_instant _ _ nofun

end Projected

end NodeClient
