import NodeClient.Number.Quantity
import NodeClient.Proofs.Json.Reading
import NodeClient.Proofs.Number.Integer

/-! # Integers that were read

An integer with too many digits is not read. So every integer that stands in a value that was read, however
deep, can be told in a message again.
-/

namespace NodeClient

open Text

/-- An integer stands somewhere in a value. -/
inductive Value.HasInteger {κ : Type} (number : Int) : Value κ → Prop where
  | self : HasInteger number (.int number)
  | item {items : List (Value κ)} {item : Value κ} (listed : item ∈ items)
      (inside : HasInteger number item) : HasInteger number (.arr items)
  | member {members : List (String × Value κ)} {member : String × Value κ}
      (listed : member ∈ members) (inside : HasInteger number member.2) :
      HasInteger number (.obj members)

theorem Quantity.isTooLong_int (number : Int) :
    isTooLong (.int number) = decide (10 ^ Number.digitLimit ≤ number.natAbs) := by
  have fits : (Nat.toDigits 10 number.natAbs).length ≤ Number.digitLimit ↔
      number.natAbs < 10 ^ Number.digitLimit :=
    Nat.length_toDigits_le_iff (by decide) (by decide)
  rw [isTooLong, decide_eq_decide, ← not_le, fits, not_lt]

namespace Value.HasInteger

variable {κ : Type} {number : Int} {name : String} {members : List (String × Value κ)}

theorem of_member? (stated : member? name members = some (.int number)) :
    HasInteger number (.obj members) := by
  obtain ⟨before, after, rfl, _⟩ := List.lookup_eq_some_iff.mp stated
  exact .member (List.mem_append_right before List.mem_cons_self) .self

theorem of_memberOrNull (inside : HasInteger number (memberOrNull name members)) :
    HasInteger number (.obj members) := by
  cases found : member? name members with
  | none =>
    rw [memberOrNull, ← member?, found] at inside
    cases inside
  | some value =>
    rw [memberOrNull_of_member? found] at inside
    obtain ⟨before, after, rfl, _⟩ := List.lookup_eq_some_iff.mp found
    exact .member (List.mem_append_right before List.mem_cons_self) inside

end Value.HasInteger

namespace Json

/-- Digits of a text are below ten. -/
theorem lt_ten_of_asciiDigit? {c : Char} {digit : Nat} (read : asciiDigit? c = some digit) :
    digit < 10 := by
  rw [asciiDigit?] at read
  split_ifs at read with range
  rw [Option.some.injEq] at read
  omega

theorem lt_ten_of_asciiDigits (text : List Char) : ∀ digit ∈ (asciiDigits text).1, digit < 10 := by
  induction text with
  | nil => exact List.forall_mem_nil _
  | cons c rest ih =>
    rw [asciiDigits]
    cases read : asciiDigit? c with
    | none => exact List.forall_mem_nil _
    | some value => exact List.forall_mem_cons.mpr ⟨lt_ten_of_asciiDigit? read, ih⟩

theorem lt_ten_of_wholeDigits (text : List Char) : ∀ digit ∈ (wholeDigits text).1, digit < 10 := by
  rw [wholeDigits.eq_def]
  split
  · exact List.forall_mem_singleton.mpr (by decide)
  · exact lt_ten_of_asciiDigits _

theorem ofDigits_lt {digits : List Nat} (each : ∀ digit ∈ digits, digit < 10) :
    ofDigits 10 digits < 10 ^ digits.length := by
  induction digits using List.reverseRecOn with
  | nil => decide
  | append_singleton digits digit ih =>
    rw [List.forall_mem_append, List.forall_mem_singleton] at each
    rw [Number.ofDigits_append_singleton, List.length_append, List.length_singleton, pow_succ]
    have front := ih each.1
    omega

/-- An integer is written with at most as many digits as it was read with. -/
theorem isTooLong_withSign {digits : List Nat} (negative : Bool) (each : ∀ digit ∈ digits, digit < 10)
    (short : digits.length ≤ Number.digitLimit) :
    Quantity.isTooLong (.int (Number.withSign negative (ofDigits 10 digits))) = false := by
  have magnitude : (Number.withSign negative (ofDigits 10 digits)).natAbs = ofDigits 10 digits := by
    rw [Number.withSign]
    split_ifs
    · rw [Int.natAbs_neg, Int.natAbs_natCast]
    · rw [Int.natAbs_natCast]
  rw [Quantity.isTooLong_int, magnitude, decide_eq_false_iff_not, not_le]
  exact (ofDigits_lt each).trans_le (Nat.pow_le_pow_right (by decide) short)

theorem isTooLong_of_readNumber {text : List Char} {found : Json × List Char}
    (success : readNumber text = .ok found) {number : Int} (inside : found.1.HasInteger number) :
    Quantity.isTooLong (.int number) = false := by
  rw [readNumber.eq_def] at success
  dsimp only at success
  split at success
  · exact nomatch success
  · next whole after _ split =>
    have each := congrArg Prod.fst split ▸ lt_ten_of_wholeDigits _
    split_ifs at success with integral long
    · obtain rfl := Except.ok.inj success
      cases inside with
      | self => exact isTooLong_withSign _ each (not_lt.mp long)
    · obtain rfl := Except.ok.inj success
      exact nomatch inside

theorem kept_isTooLong (number : Int) :
    Kept fun value => value.HasInteger number → Quantity.isTooLong (.int number) = false where
  word word listed inside := by
    simp only [words, List.mem_cons, List.not_mem_nil, or_false] at listed
    rcases listed with rfl | rfl | rfl | rfl | rfl | rfl <;> exact nomatch inside
  number success inside := isTooLong_of_readNumber success inside
  text _ inside := nomatch inside
  list each inside := by
    cases inside with
    | item listed inside => exact each _ listed inside
  object _ each inside := by
    cases inside with
    | member listed inside => exact each _ listed inside

/-- An integer in a value that was read does not have too many digits. -/
theorem isTooLong_of_read {text : String} {value : Json} (success : read text = .ok value)
    {number : Int} (inside : value.HasInteger number) : Quantity.isTooLong (.int number) = false :=
  (kept_isTooLong number).of_read success inside

end Json

end NodeClient
