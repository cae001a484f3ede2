import NodeClient.Proofs.Number.Rounding

/-! # The decimal that stands for a number

The decimal with the fewest digits is searched for in the interval of the number, so it is rounded to
the number again, and so is every other decimal of the same value.
-/

namespace NodeClient

/-- A count of digits tells the order of a number. -/
theorem Number.toDigits_bounds {number : Nat} (nonzero : number ≠ 0) :
    10 ^ ((Nat.toDigits 10 number).length - 1) ≤ number ∧
      number < 10 ^ (Nat.toDigits 10 number).length := by
  have some : 0 < (Nat.toDigits 10 number).length := Nat.length_toDigits_pos
  refine ⟨?_, (Nat.length_toDigits_le_iff (by decide) some).mp le_rfl⟩
  by_contra less
  by_cases single : (Nat.toDigits 10 number).length = 1
  · rw [single, not_le] at less
    exact nonzero (Nat.lt_one_iff.mp less)
  · have shorter := (Nat.length_toDigits_le_iff (by decide) (by omega)).mpr (not_le.mp less)
    omega

namespace Decimal

def value (decimal : Decimal) : ℚ := decimal.coefficient * 10 ^ decimal.exponent

theorem value_nonneg (decimal : Decimal) : 0 ≤ decimal.value := by
  rw [value]
  positivity

/-- Zeros that move into the exponent do not change a value. -/
theorem value_normalize (fuel : Nat) (decimal : Decimal) :
    (decimal.normalize fuel).value = decimal.value := by
  induction fuel generalizing decimal with
  | zero => rfl
  | succ fuel ih =>
    rw [normalize]
    split_ifs with zeros
    · have whole : ((decimal.coefficient / 10 : Nat) : ℚ) * 10 = decimal.coefficient := by
        exact_mod_cast Nat.div_mul_cancel (Nat.dvd_of_mod_eq_zero zeros.2)
      rw [ih, value, value, zpow_add_one₀ (by norm_num), ← whole]
      ring
    · rfl

end Decimal

namespace Binary64

theorem spanOf_denominator_pos (significand : Nat) (exponent : Int) :
    0 < (spanOf significand exponent).denominator := Number.power_pos two_pos _

/-- The test, in whole numbers, that a decimal lies in an interval. -/
def Span.Admits (span : Span) (decimal : Decimal) : Prop :=
  let scale := Number.power 10 (-decimal.exponent)
  let unit := span.denominator * Number.power 10 decimal.exponent
  if span.closed then
    span.low * scale ≤ decimal.coefficient * unit ∧ decimal.coefficient * unit ≤ span.high * scale
  else
    span.low * scale < decimal.coefficient * unit ∧ decimal.coefficient * unit < span.high * scale

theorem Span.contains_iff_admits {span : Span} (positive : 0 < span.denominator)
    (decimal : Decimal) : span.Contains decimal.value ↔ span.Admits decimal := by
  obtain ⟨coefficient, exponent⟩ := decimal
  have above : (0 : ℚ) < Number.power 10 (-exponent) := by
    exact_mod_cast Number.power_pos (by decide) (-exponent)
  have whole : (0 : ℚ) < span.denominator := by exact_mod_cast positive
  -- Both sides of each comparison are brought over this denominator.
  have scale : (0 : ℚ) < span.denominator * Number.power 10 (-exponent) := mul_pos whole above
  have quotient (number : Nat) : (number : ℚ) / span.denominator =
      (number * Number.power 10 (-exponent) : Nat) /
        (span.denominator * Number.power 10 (-exponent)) := by
    push_cast
    field_simp
  have value : (⟨coefficient, exponent⟩ : Decimal).value =
      (coefficient * (span.denominator * Number.power 10 exponent) : Nat) /
        (span.denominator * Number.power 10 (-exponent)) := by
    have power := Number.power_div_power (by decide : 0 < 10) exponent
    rw [Decimal.value]
    push_cast at power ⊢
    rw [← power]
    field_simp
  rw [Contains, Admits, quotient, quotient, value]
  simp only [div_le_div_iff_of_pos_right scale, div_lt_div_iff_of_pos_right scale, Nat.cast_le,
    Nat.cast_lt]

/-- The coefficient of the greatest decimal with an exponent that is not beyond a value. -/
def Span.floorAt (span : Span) (exponent : Int) : Nat :=
  span.value * Number.power 10 (-exponent) / (span.denominator * Number.power 10 exponent)

/-- The two neighbours of a value on a grid of decimals are tried: one that is admitted is found, and
without one neither is admitted. -/
theorem candidate?_spec (span : Span) (order : Int) (digits : Nat) :
    let exponent := order - ((digits - 1 : Nat) : Int)
    let lower : Decimal := ⟨span.floorAt exponent, exponent⟩
    let upper : Decimal := ⟨span.floorAt exponent + 1, exponent⟩
    (∃ decimal, candidate? span order digits = some decimal ∧ span.Admits decimal ∧
      (decimal = lower ∨ decimal = upper)) ∨
    candidate? span order digits = none ∧ ¬ span.Admits lower ∧ ¬ span.Admits upper := by
  intro exponent lower upper
  have passes (coefficient : Nat) : (if span.closed then
          decide (span.low * Number.power 10 (-exponent) ≤
              coefficient * (span.denominator * Number.power 10 exponent)) &&
            decide (coefficient * (span.denominator * Number.power 10 exponent) ≤
              span.high * Number.power 10 (-exponent))
        else
          decide (span.low * Number.power 10 (-exponent) <
              coefficient * (span.denominator * Number.power 10 exponent)) &&
            decide (coefficient * (span.denominator * Number.power 10 exponent) <
              span.high * Number.power 10 (-exponent))) = true ↔
      span.Admits ⟨coefficient, exponent⟩ := by
    rw [Span.Admits]
    split_ifs <;> simp
  have below := passes (span.floorAt exponent)
  have above := passes (span.floorAt exponent + 1)
  rw [candidate?]
  dsimp only
  split
  · next lowerPasses upperPasses =>
    split_ifs
    · exact .inl ⟨_, rfl, below.mp lowerPasses, .inl rfl⟩
    · exact .inl ⟨_, rfl, above.mp upperPasses, .inr rfl⟩
  · next lowerPasses _ => exact .inl ⟨_, rfl, below.mp lowerPasses, .inl rfl⟩
  · next _ upperPasses => exact .inl ⟨_, rfl, above.mp upperPasses, .inr rfl⟩
  · next lowerFails upperFails =>
    refine .inr ⟨rfl, fun admits => ?_, fun admits => ?_⟩
    · exact Bool.false_ne_true (lowerFails.symm.trans (below.mpr admits))
    · exact Bool.false_ne_true (upperFails.symm.trans (above.mpr admits))

/-- A decimal that is found for an interval is a neighbour of its value, and in the interval. -/
theorem of_candidate? {span : Span} {order : Int} {digits : Nat} {decimal : Decimal}
    (found : candidate? span order digits = some decimal) :
    span.Admits decimal ∧ decimal.exponent = order - ((digits - 1 : Nat) : Int) ∧
      decimal.coefficient ≤ span.floorAt decimal.exponent + 1 := by
  rcases candidate?_spec span order digits with ⟨_, same, admits, neighbour⟩ | ⟨none, _⟩
  · obtain rfl := Option.some.inj (found.symm.trans same)
    refine ⟨admits, ?_⟩
    rcases neighbour with rfl | rfl
    · exact ⟨rfl, Nat.le_succ _⟩
    · exact ⟨rfl, le_rfl⟩
  · exact nomatch found.symm.trans none

theorem value_exactDecimal (significand : Nat) (exponent : Int) :
    (exactDecimal significand exponent).value = significand * 2 ^ exponent := by
  have two := Number.power_div_power two_pos exponent
  have five := Number.power_div_power (by decide : 0 < 5) (-exponent)
  rw [neg_neg] at five
  push_cast at two five
  rw [exactDecimal, Decimal.value]
  push_cast
  rcases le_total 0 exponent with nonneg | nonpos
  · rw [min_eq_right nonneg]
    rw [Number.power_of_nonpos (by omega : -exponent ≤ 0)] at two ⊢
    rw [← two]
    simp
  · rw [min_eq_left nonpos]
    rw [Number.power_of_nonpos nonpos] at five ⊢
    have ten : (10 : ℚ) ^ exponent = 2 ^ exponent * 5 ^ exponent := by
      rw [← mul_zpow]
      norm_num
    rw [Nat.cast_one, div_one] at five
    rw [five, ten, zpow_neg]
    field_simp
    simp

/-- The decimal that stands for a number is in its interval. -/
theorem contains_shortest {significand : Nat} (positive : 0 < significand) (exponent : Int) :
    (spanOf significand exponent).Contains (shortest significand exponent).value := by
  have scaled := spanOf_denominator_pos significand exponent
  rw [shortest, if_neg positive.ne']
  dsimp only
  rw [Decimal.value_normalize]
  cases found : (List.range 17).findSome? fun index => candidate? (spanOf significand exponent)
      (decimalOrder (spanOf significand exponent).value (spanOf significand exponent).denominator)
      (index + 1) with
  | none =>
    rw [Option.getD_none, value_exactDecimal]
    exact contains_value positive
  | some decimal =>
    obtain ⟨digits, _, candidate⟩ := List.exists_of_findSome?_eq_some found
    exact (Span.contains_iff_admits scaled decimal).mpr (of_candidate? candidate).1

/-- The digits of a coefficient tell the order of a decimal. -/
theorem value_bounds {decimal : Decimal} (nonzero : decimal.coefficient ≠ 0) :
    let order : Int := (Nat.toDigits 10 decimal.coefficient).length + decimal.exponent
    (10 : ℚ) ^ (order - 1) ≤ decimal.value ∧ decimal.value < 10 ^ order := by
  obtain ⟨coefficient, exponent⟩ := decimal
  have some : 0 < (Nat.toDigits 10 coefficient).length := Nat.length_toDigits_pos
  obtain ⟨lower, upper⟩ := Number.toDigits_bounds nonzero
  set length := (Nat.toDigits 10 coefficient).length with counted
  have unit : (0 : ℚ) < 10 ^ exponent := by positivity
  constructor
  · have split : (length : Int) + exponent - 1 = (length - 1 : Nat) + exponent := by omega
    rw [split, zpow_add₀ (by norm_num), zpow_natCast, Decimal.value]
    exact mul_le_mul_of_nonneg_right (by exact_mod_cast lower) unit.le
  · rw [zpow_add₀ (by norm_num), zpow_natCast, Decimal.value]
    exact mul_lt_mul_of_pos_right (by exact_mod_cast upper) unit

/-- What lies in the interval of a number is neither below half the least number nor beyond twice the
greatest power of two. -/
theorem Span.Contains.bounds {significand : Nat} {exponent : Int} {ratio : ℚ}
    (contains : (spanOf significand exponent).Contains ratio)
    (normal : IsNormal significand exponent) (positive : 0 < significand) :
    (2 : ℚ) ^ (-1075 : Int) ≤ ratio ∧ ratio < 2 ^ (1024 : Int) := by
  have nearest := contains.nearest positive
  have unit : (0 : ℚ) < 2 ^ exponent := by positivity
  have atLeast : (1 : ℚ) ≤ significand := by exact_mod_cast positive
  have atMost : (significand : ℚ) + 1 ≤ 2 * leastSignificand := by exact_mod_cast normal.below
  have half := nearest.lower
  have above := nearest.upper
  rw [le_div_iff₀ unit] at half
  rw [div_le_iff₀ unit] at above
  have least : (2 : ℚ) ^ leastExponent ≤ 2 ^ exponent := zpow_le_zpow_right₀ one_le_two normal.least
  have greatest : (2 : ℚ) ^ exponent ≤ 2 ^ greatestExponent :=
    zpow_le_zpow_right₀ one_le_two normal.greatest
  constructor
  · calc (2 : ℚ) ^ (-1075 : Int)
        = 1 / 2 * 2 ^ leastExponent := by
          rw [one_div, ← zpow_neg_one, ← zpow_add₀ two_ne_zero]
          rfl
      _ ≤ (significand - 1 / 2) * 2 ^ exponent :=
          mul_le_mul (by linarith) least (by positivity) (by linarith)
      _ ≤ ratio := half
  · have double : (2 * leastSignificand : ℚ) = 2 ^ (53 : Int) := by norm_num [leastSignificand]
    calc ratio
        ≤ (significand + 1 / 2) * 2 ^ exponent := above
      _ < 2 ^ (53 : Int) * 2 ^ exponent := mul_lt_mul_of_pos_right (by linarith) unit
      _ ≤ 2 ^ (53 : Int) * 2 ^ greatestExponent := mul_le_mul_of_nonneg_left greatest (by positivity)
      _ = 2 ^ (1024 : Int) := by
          rw [← zpow_add₀ two_ne_zero]
          rfl

/-- Decimals of such values are not cut off for their order. -/
theorem order_bounds {decimal : Decimal} (nonzero : decimal.coefficient ≠ 0)
    (lower : (2 : ℚ) ^ (-1075 : Int) ≤ decimal.value) (upper : decimal.value < 2 ^ (1024 : Int)) :
    let order : Int := (Nat.toDigits 10 decimal.coefficient).length + decimal.exponent
    ¬ 320 < order ∧ ¬ order < -340 := by
  obtain ⟨reached, missed⟩ := value_bounds nonzero
  set order : Int := (Nat.toDigits 10 decimal.coefficient).length + decimal.exponent
  constructor
  · intro beyond
    have huge : (2 : ℚ) ^ (1024 : Int) ≤ 10 ^ (320 : Int) := by
      have powers : 2 ^ 1024 ≤ 10 ^ 320 := by decide +kernel
      exact_mod_cast powers
    have far : (10 : ℚ) ^ (320 : Int) ≤ 10 ^ (order - 1) :=
      zpow_le_zpow_right₀ (by norm_num) (by omega)
    exact absurd (far.trans reached) (not_le.mpr (upper.trans_le huge))
  · intro beyond
    have tiny : (10 : ℚ) ^ (-341 : Int) ≤ 2 ^ (-1075 : Int) := by
      have powers : 2 ^ 1075 ≤ 10 ^ 341 := by decide +kernel
      rw [zpow_neg, zpow_neg]
      exact inv_anti₀ (by positivity) (by exact_mod_cast powers)
    have far : (10 : ℚ) ^ order ≤ 10 ^ (-341 : Int) :=
      zpow_le_zpow_right₀ (by norm_num) (by omega)
    exact absurd (missed.trans_le (far.trans tiny)) (not_lt.mpr lower)

/-- A decimal in the interval of a number is rounded to this number. -/
theorem ofDecimal_of_contains (negative : Bool) {significand : Nat} {exponent : Int}
    {decimal : Decimal} (normal : IsNormal significand exponent) (positive : 0 < significand)
    (contains : (spanOf significand exponent).Contains decimal.value) :
    ofDecimal negative decimal.coefficient decimal.exponent =
      .finite negative significand exponent := by
  obtain ⟨lower, upper⟩ := contains.bounds normal positive
  have nonzero : decimal.coefficient ≠ 0 := by
    intro zero
    rw [Decimal.value, zero, Nat.cast_zero, zero_mul] at lower
    exact absurd lower (not_le.mpr (by positivity))
  obtain ⟨notHuge, notTiny⟩ := order_bounds nonzero lower upper
  have same : ((decimal.coefficient * Number.power 10 decimal.exponent : Nat) : ℚ) /
      Number.power 10 (-decimal.exponent) = decimal.value := by
    have power := Number.power_div_power (by decide : 0 < 10) decimal.exponent
    rw [Decimal.value]
    push_cast at power ⊢
    rw [← power, mul_div_assoc]
  rw [ofDecimal, if_neg nonzero]
  dsimp only
  rw [if_neg notHuge, if_neg notTiny]
  refine ofQuotient_of_contains negative normal positive (Number.power_pos (by decide) _) ?_
  rwa [same]

/-- Every decimal of the value that a number is written with is rounded to this number. -/
theorem ofDecimal_of_value_eq (negative : Bool) {significand : Nat} {exponent : Int}
    {decimal : Decimal} (normal : IsNormal significand exponent)
    (same : decimal.value = (shortest significand exponent).value) :
    ofDecimal negative decimal.coefficient decimal.exponent =
      .finite negative significand exponent := by
  rcases Nat.eq_zero_or_pos significand with rfl | positive
  · have zero : decimal.coefficient = 0 := by
      rw [shortest, if_pos rfl, Decimal.value, Decimal.value, Nat.cast_zero, zero_mul,
        mul_eq_zero, Nat.cast_eq_zero] at same
      exact same.resolve_right (by positivity)
    obtain rfl := normal.full.resolve_left (by decide)
    rw [ofDecimal, if_pos zero, zeroOf]
  · exact ofDecimal_of_contains negative normal positive (same ▸ contains_shortest positive exponent)

end Binary64

end NodeClient
