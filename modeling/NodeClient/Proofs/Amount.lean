import NodeClient.Projection.Basic
import NodeClient.Proofs.Json.RoundTrip
import NodeClient.Proofs.Number.Precision

/-! # Amounts are converted exactly

The text of an amount spells one decimal number of at most seventeen digits. Its product with the satoshis
in a coin has at most twenty-five, so decimal arithmetic does not round it, and the amount is converted
exactly where the product is whole. Every other amount is refused.
-/

namespace NodeClient

open Text

namespace Decimal

/-- The value of a decimal with a sign. -/
def signed (negative : Bool) (decimal : Decimal) : ℚ :=
  if negative then -decimal.value else decimal.value

theorem abs_signed (negative : Bool) (decimal : Decimal) :
    |decimal.signed negative| = decimal.value := by
  cases negative with
  | true => exact (abs_neg _).trans (abs_of_nonneg decimal.value_nonneg)
  | false => exact abs_of_nonneg decimal.value_nonneg

theorem signed_of_nonneg {negative : Bool} {decimal : Decimal} (nonneg : 0 ≤ decimal.signed negative) :
    decimal.signed negative = decimal.value :=
  (abs_of_nonneg nonneg).symm.trans (decimal.abs_signed negative)

theorem signed_of_zero {decimal : Decimal} (zero : decimal.value = 0) (negative : Bool) :
    decimal.signed negative = 0 :=
  abs_eq_zero.mp ((decimal.abs_signed negative).trans zero)

end Decimal

namespace Number

/-- A text spells a decimal number, with its sign. -/
def Denotes (text : List Char) (number : ℚ) : Prop :=
  ∃ (spelling : Spelling) (negative : Bool), text = spelling.signed negative ∧
    number = spelling.decimal.signed negative

namespace Spelling

theorem text_begins (spelling : Spelling) :
    ∃ c more, spelling.text = c :: more ∧ c.isDigit = true := by
  obtain ⟨c, more, begins, digit⟩ := spelling.exists_digit
  refine ⟨c, more ++ (pointed spelling.fraction ++ marked spelling.exponent?), ?_, digit⟩
  rw [text, begins, List.cons_append]

/-- The parts of a spelling are read off its text. -/
theorem decimal_eq_of_text_eq {first second : Spelling} (same : first.text = second.text) :
    first.decimal = second.decimal := by
  have ends : Json.Ends [] := fun _ listed => nomatch listed
  have parts (spelling : Spelling) :
      Json.wholeDigits spelling.text = (spelling.whole.map digitValue,
        pointed spelling.fraction ++ marked spelling.exponent?) ∧
      Json.fractionDigits (pointed spelling.fraction ++ marked spelling.exponent?) =
        (spelling.fraction.map digitValue, marked spelling.exponent?) ∧
      Json.exponentOf (marked spelling.exponent?) = (spelling.exponent?, []) := by
    have breaks := breaks_marked spelling.exponent? ends
    rw [List.append_nil] at breaks
    refine ⟨wholeDigits_append spelling.areDigits.1 spelling.plain
      (stops_pointed spelling.fraction breaks), fractionDigits_pointed spelling.areDigits.2 breaks, ?_⟩
    have read := exponentOf_marked spelling.exponent? ends
    rwa [List.append_nil] at read
  obtain ⟨whole, fraction, exponent⟩ := parts first
  obtain ⟨whole', fraction', exponent'⟩ := parts second
  rw [same, whole', Prod.mk.injEq] at whole
  obtain ⟨sameWhole, rest⟩ := whole
  rw [← rest, fraction', Prod.mk.injEq] at fraction
  obtain ⟨sameFraction, rest⟩ := fraction
  rw [← rest, exponent', Prod.mk.injEq] at exponent
  have length : first.fraction.length = second.fraction.length := by
    rw [← List.length_map digitValue, ← sameFraction, List.length_map]
  rw [decimal, decimal, List.map_append, List.map_append, sameWhole, sameFraction, exponent.1, length]

end Spelling

/-- A text spells no more than one number. -/
theorem Denotes.unique {text : List Char} {number other : ℚ} (denotes : Denotes text number)
    (denotes' : Denotes text other) : number = other := by
  obtain ⟨spelling, negative, rfl, rfl⟩ := denotes
  obtain ⟨spelling', negative', same, rfl⟩ := denotes'
  have unsigned (first second : Spelling) : '-' :: first.text ≠ second.text := by
    intro same
    obtain ⟨c, more, begins, digit⟩ := second.text_begins
    rw [begins, List.cons.injEq] at same
    rw [← same.1] at digit
    exact absurd digit (by decide)
  cases negative with
  | true =>
    cases negative' with
    | true => rw [Spelling.decimal_eq_of_text_eq (List.cons.inj same).2]
    | false => exact absurd same (unsigned _ _)
  | false =>
    cases negative' with
    | true => exact absurd same.symm (unsigned _ _)
    | false => rw [Spelling.decimal_eq_of_text_eq same]

/-- A text that spells a number has a digit. -/
theorem Denotes.exists_isDigit {text : List Char} {number : ℚ} (denotes : Denotes text number) :
    ∃ c ∈ text, c.isDigit = true := by
  obtain ⟨spelling, negative, rfl, _⟩ := denotes
  obtain ⟨c, more, begins, digit⟩ := spelling.text_begins
  refine ⟨c, ?_, digit⟩
  rw [Spelling.signed, begins]
  cases negative with
  | true => exact List.mem_cons_of_mem _ List.mem_cons_self
  | false => exact List.mem_cons_self

end Number

namespace Decimal

/-- A decimal is whole where its value is. -/
theorem whole?_eq_some_iff {decimal : Decimal} {number : Nat} :
    decimal.whole? = some number ↔ decimal.value = number := by
  have positive : 0 < Number.power 10 (-decimal.exponent) := Number.power_pos (by decide) _
  have scale : (Number.power 10 (-decimal.exponent) : ℚ) ≠ 0 := by exact_mod_cast positive.ne'
  have value : decimal.value * Number.power 10 (-decimal.exponent) =
      (decimal.coefficient * Number.power 10 decimal.exponent : Nat) := by
    have power := Number.power_div_power (by decide : 0 < 10) decimal.exponent
    push_cast at power ⊢
    rw [Decimal.value, ← power]
    field_simp
  have whole : decimal.value = number ↔ decimal.coefficient * Number.power 10 decimal.exponent =
      number * Number.power 10 (-decimal.exponent) := by
    rw [← mul_left_inj' scale, value]
    norm_cast
  rw [whole, whole?]
  generalize decimal.coefficient * Number.power 10 decimal.exponent = numerator at *
  generalize Number.power 10 (-decimal.exponent) = denominator at *
  split_ifs with divides
  · rw [Option.some.injEq, Nat.div_eq_iff_eq_mul_left positive (Nat.dvd_of_mod_eq_zero divides)]
  · refine iff_of_false (by rintro ⟨⟩) ?_
    rintro rfl
    exact divides (Nat.mul_mod_left number denominator)

end Decimal

namespace Amount

/-- Decimal arithmetic does not round the product of coins of at most seventeen digits. -/
theorem product_of_short {coins : Decimal} (short : coins.coefficient < 10 ^ Decimal.mostDigits) :
    product coins = ⟨coins.coefficient * satoshisPerCoin, coins.exponent⟩ := by
  have bounded : coins.coefficient * satoshisPerCoin < 10 ^ precision := by
    have wide : 10 ^ Decimal.mostDigits * satoshisPerCoin ≤ 10 ^ precision := by decide
    exact ((Nat.mul_lt_mul_right (by decide)).mpr short).trans_le wide
  have fits := (Nat.length_toDigits_le_iff (by decide) (by decide)).mpr bounded
  have exact (number : Nat) : Binary64.roundQuotient number 1 = number := by
    rw [Binary64.roundQuotient]
    simp [Nat.mod_one]
  rw [product, Decimal.round]
  dsimp only
  rw [Nat.sub_eq_zero_of_le fits, Nat.cast_zero, Number.power_of_nonpos le_rfl, exact, add_zero]

/-- The satoshis of coins of at most seventeen digits are the product, where it is whole. -/
theorem whole?_product {coins : Decimal} (short : coins.coefficient < 10 ^ Decimal.mostDigits)
    {satoshis : Nat} :
    (product coins).whole? = some satoshis ↔ coins.value * 10 ^ 8 = satoshis := by
  rw [Decimal.whole?_eq_some_iff, product_of_short short, Decimal.value, Decimal.value]
  have coin : (satoshisPerCoin : ℚ) = 10 ^ 8 := by norm_num [satoshisPerCoin]
  push_cast
  rw [coin, mul_right_comm]

end Amount

namespace Binary64

/-- The text of a finite number denotes the decimal that stands for it, with its sign. -/
theorem denotes_finite_iff {negative : Bool} {significand : Nat} {exponent : Int} {number : ℚ} :
    Number.Denotes (text (.finite negative significand exponent)).toList number ↔
      number = (shortest significand exponent).signed negative := by
  obtain ⟨spelling, written, spells⟩ :=
    Json.exists_signed_of_finite negative significand exponent
  have denotes : Number.Denotes (text (.finite negative significand exponent)).toList
      ((shortest significand exponent).signed negative) :=
    ⟨spelling, negative, written, by rw [Decimal.signed, Decimal.signed, spells.value]⟩
  exact ⟨fun other => other.unique denotes, fun same => same ▸ denotes⟩

/-- The texts of the special values denote no number. -/
theorem not_denotes_nan (number : ℚ) : ¬ Number.Denotes (text .nan).toList number := by
  intro denotes
  obtain ⟨c, listed, digit⟩ := denotes.exists_isDigit
  have letters : (text .nan).toList.any Char.isDigit = false := by decide
  exact List.any_eq_false.mp letters c listed digit

theorem not_denotes_infinite (negative : Bool) (number : ℚ) :
    ¬ Number.Denotes (text (.infinite negative)).toList number := by
  intro denotes
  obtain ⟨c, listed, digit⟩ := denotes.exists_isDigit
  have letters : (text (.infinite negative)).toList.any Char.isDigit = false := by
    cases negative <;> decide
  exact List.any_eq_false.mp letters c listed digit

/-- A finite number is negative where the number that its text denotes is. -/
theorem isNegative_finite {significand : Nat} {exponent : Int}
    (normal : IsNormal significand exponent) (negative : Bool) :
    isNegative (.finite negative significand exponent) = true ↔
      (shortest significand exponent).signed negative < 0 := by
  rcases Nat.eq_zero_or_pos significand with rfl | positive
  · have zero : (shortest 0 exponent).value = 0 := by
      rw [shortest, if_pos rfl, Decimal.value, Nat.cast_zero, zero_mul]
    rw [Decimal.signed_of_zero zero]
    exact iff_of_false (by simp [isNegative]) (lt_irrefl _)
  · have above : 0 < (shortest significand exponent).value :=
      lt_of_lt_of_le (by positivity) ((contains_shortest positive exponent).bounds normal positive).1
    have nonzero : (significand != 0) = true := bne_iff_ne.mpr positive.ne'
    rw [isNegative, nonzero, Bool.and_true]
    cases negative with
    | true => exact iff_of_true rfl (neg_neg_of_pos above)
    | false => exact iff_of_false Bool.false_ne_true above.not_gt

end Binary64

namespace Amount

/-- A finite amount that is not negative is converted where the product is whole. -/
theorem toSatoshis_of_magnitude {amount : Quantity} {coins : Decimal} {satoshis : Int}
    (nonneg : amount.isNegative = false) (finite : magnitude? amount = some coins) :
    toSatoshis amount = .ok satoshis ↔
      ∃ count : Nat, (product coins).whole? = some count ∧ (count : Int) = satoshis := by
  rw [toSatoshis, nonneg, if_neg Bool.false_ne_true, finite, orFault, Except.bind]
  cases (product coins).whole? with
  | none => simp [orFault, Except.map]
  | some count => simp [orFault, Except.map]

/-- An amount is converted to the satoshis of the number that its text denotes, where this is not negative
and the satoshis are whole. -/
theorem toSatoshis_eq_ok_iff {amount : Binary64} (canonical : amount.IsCanonical) {satoshis : Int} :
    toSatoshis (.float amount) = .ok satoshis ↔
      ∃ coins, Number.Denotes amount.text.toList coins ∧ 0 ≤ coins ∧ coins * 10 ^ 8 = satoshis := by
  cases amount with
  | nan => exact iff_of_false nofun fun ⟨coins, denotes, _⟩ => Binary64.not_denotes_nan coins denotes
  | infinite negative =>
    refine iff_of_false ?_ fun ⟨coins, denotes, _⟩ =>
      Binary64.not_denotes_infinite negative coins denotes
    cases negative <;> exact nofun
  | finite negative significand exponent =>
    have short := Binary64.coefficient_shortest_lt canonical.below exponent
    have sign := Binary64.isNegative_finite canonical negative
    simp only [Binary64.denotes_finite_iff, exists_eq_left]
    cases below : Quantity.isNegative (.float (.finite negative significand exponent)) with
    | true =>
      rw [toSatoshis, if_pos below]
      exact iff_of_false nofun fun converted => absurd (sign.mp below) (not_lt.mpr converted.1)
    | false =>
      rw [toSatoshis_of_magnitude below rfl]
      rw [Quantity.isNegative] at below
      rw [below, iff_false_left Bool.false_ne_true, not_lt] at sign
      simp only [whole?_product short, Decimal.signed_of_nonneg sign]
      generalize Binary64.shortest significand exponent = coins at *
      have nonneg := coins.value_nonneg
      rw [and_iff_right nonneg]
      constructor
      · rintro ⟨count, product, rfl⟩
        exact_mod_cast product
      · intro product
        have positive : (0 : ℚ) ≤ satoshis := product ▸ by positivity
        obtain ⟨count, rfl⟩ := Int.eq_ofNat_of_zero_le (by exact_mod_cast positive)
        exact ⟨count, by exact_mod_cast product, rfl⟩

end Amount

namespace Projected

variable (operation field : String) (amount : Binary64)

/-- A floating-point amount is converted as an amount is, and refused with the field otherwise. -/
theorem satoshis_float :
    (∃ value, Amount.toSatoshis (.float amount) = .ok value ∧
      satoshis operation field (.float amount) = .ok value) ∨
    ((∀ value, Amount.toSatoshis (.float amount) ≠ .ok value) ∧
      ∃ fault, satoshis operation field (.float amount) =
        .error (.refused ⟨operation, .invalid field fault⟩)) := by
  rw [satoshis, Quantity.isTooLong, if_neg Bool.false_ne_true]
  cases Amount.toSatoshis (.float amount) with
  | ok value => exact .inl ⟨value, rfl, rfl⟩
  | error fault => cases fault <;> exact .inr ⟨nofun, _, rfl⟩

/-- An amount is converted to the satoshis of the number that its text denotes, where this is not negative
and the satoshis are whole, and any other amount is refused with the operation and the field. The text of
a finite amount denotes one number, of at most seventeen digits, and the product with the satoshis in a
coin has the digits of an exact one. -/
theorem satoshis_of_amount (operation field : String) {amount : Binary64}
    (canonical : amount.IsCanonical) :
    (∀ value, satoshis operation field (.float amount) = .ok value ↔
      ∃ coins, Number.Denotes amount.text.toList coins ∧ 0 ≤ coins ∧ coins * 10 ^ 8 = value) ∧
    (∀ failure, satoshis operation field (.float amount) = .error failure →
      ∃ fault, failure = .refused ⟨operation, .invalid field fault⟩) ∧
    ∀ coins, Amount.magnitude? (.float amount) = some coins →
      (∃ number, Number.Denotes amount.text.toList number ∧ |number| = coins.value ∧
        ∀ other, Number.Denotes amount.text.toList other → other = number) ∧
      coins.coefficient < 10 ^ 17 ∧
      Amount.product coins = ⟨coins.coefficient * 10 ^ 8, coins.exponent⟩ := by
  refine ⟨fun value => ?_, fun failure failed => ?_, fun coins finite => ?_⟩
  · rw [← Amount.toSatoshis_eq_ok_iff canonical]
    rcases satoshis_float operation field amount with
      ⟨value', converted, same⟩ | ⟨refused, _, same⟩
    · rw [same, converted, Except.ok.injEq, Except.ok.injEq]
    · rw [same]
      exact iff_of_false nofun (refused value)
  · rcases satoshis_float operation field amount with ⟨_, _, same⟩ | ⟨_, fault, same⟩
    · exact nomatch same.symm.trans failed
    · exact ⟨fault, Except.error.inj (failed.symm.trans same)⟩
  · cases amount with
    | nan => exact nomatch finite
    | infinite negative => exact nomatch finite
    | finite negative significand exponent =>
      obtain rfl := Option.some.inj finite
      have short := Binary64.coefficient_shortest_lt canonical.below exponent
      exact ⟨⟨_, Binary64.denotes_finite_iff.mpr rfl, Decimal.abs_signed negative _, fun other denotes =>
        Binary64.denotes_finite_iff.mp denotes⟩, short, Amount.product_of_short short⟩

/-- The amount that is written `1e-05` is a thousand satoshis. -/
theorem satoshis_of_amount_exponent :
    (Binary64.finite false 5902958103587057 (-69)).IsCanonical ∧
      satoshis "getnetworkinfo" "relayfee" (.float (.finite false 5902958103587057 (-69))) =
        .ok 1000 := by
  have canonical : (Binary64.finite false 5902958103587057 (-69)).IsCanonical :=
    ⟨by decide, by decide, by decide, by decide⟩
  have written : (Binary64.finite false 5902958103587057 (-69)).text.toList =
      ['1', 'e', '-', '0', '5'] := by decide +kernel
  obtain ⟨spelling, spells, decimal⟩ : ∃ spelling : Number.Spelling,
      spelling.signed false = ['1', 'e', '-', '0', '5'] ∧ spelling.decimal = ⟨1, -5⟩ :=
    ⟨⟨['1'], [], some (-5), ⟨List.forall_mem_singleton.mpr rfl, List.forall_mem_nil _⟩, by decide⟩,
      by decide +kernel, rfl⟩
  have denotes : Number.Denotes (Binary64.finite false 5902958103587057 (-69)).text.toList
      (1 / 100000) := by
    refine ⟨spelling, false, written.trans spells.symm, ?_⟩
    rw [decimal, Decimal.signed, if_neg Bool.false_ne_true, Decimal.value]
    norm_num
  exact ⟨canonical, ((satoshis_of_amount _ _ canonical).1 1000).mpr
    ⟨1 / 100000, denotes, by norm_num, by norm_num⟩⟩

end Projected

end NodeClient
