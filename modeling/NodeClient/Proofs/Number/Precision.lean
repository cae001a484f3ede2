import NodeClient.Proofs.Number.Shortest
import Mathlib.Algebra.Order.Floor.Semifield
import Mathlib.Data.Rat.Floor

/-! # Seventeen digits are enough

Among the decimals of seventeen digits, the two neighbours of a number are closer to each other than the
ends of its interval, so one of them is in the interval. The decimal that stands for a number is therefore
found within seventeen digits, and has no more of them.
-/

namespace NodeClient

namespace Decimal

/-- Most significant digits of the decimal that stands for a number. -/
def mostDigits : Nat := 17

theorem coefficient_normalize_le (fuel : Nat) (decimal : Decimal) :
    (decimal.normalize fuel).coefficient ≤ decimal.coefficient := by
  induction fuel generalizing decimal with
  | zero => exact le_rfl
  | succ fuel ih =>
    rw [normalize]
    split_ifs
    · exact (ih _).trans (Nat.div_le_self _ _)
    · exact le_rfl

/-- A coefficient that does not end in zero is no power of ten. -/
theorem coefficient_normalize_lt {decimal : Decimal} {digits : Nat} (fuel : Nat)
    (bounded : decimal.coefficient ≤ 10 ^ (digits + 1)) :
    (decimal.normalize (fuel + 1)).coefficient < 10 ^ (digits + 1) := by
  have power : 10 ^ (digits + 1) = 10 ^ digits * 10 := pow_succ 10 digits
  have positive : 0 < 10 ^ digits := by positivity
  rw [normalize]
  split_ifs with zeros
  · have smaller := coefficient_normalize_le fuel ⟨decimal.coefficient / 10, decimal.exponent + 1⟩
    dsimp only at smaller
    omega
  · omega

end Decimal

namespace Binary64

/-- The decimal order of a quotient is the greatest power of ten that it reaches. -/
theorem decimalOrder_spec {numerator denominator : Nat} (positive : 0 < numerator)
    (positive' : 0 < denominator) :
    (10 : ℚ) ^ decimalOrder numerator denominator ≤ (numerator : ℚ) / denominator ∧
      (numerator : ℚ) / denominator < 10 ^ (decimalOrder numerator denominator + 1) := by
  have scale : (0 : ℚ) < denominator := by exact_mod_cast positive'
  rw [decimalOrder, le_div_iff₀ scale, div_lt_iff₀ scale]
  split_ifs with whole
  · obtain ⟨lower, upper⟩ := Number.toDigits_bounds (Nat.div_pos whole positive').ne'
    have some : 0 < (Nat.toDigits 10 (numerator / denominator)).length := Nat.length_toDigits_pos
    rw [Nat.le_div_iff_mul_le positive'] at lower
    rw [Nat.div_lt_iff_lt_mul positive'] at upper
    generalize (Nat.toDigits 10 (numerator / denominator)).length = length at *
    have order : (length : Int) - 1 = (length - 1 : Nat) := by omega
    rw [sub_add_cancel, order, zpow_natCast, zpow_natCast]
    exact ⟨by exact_mod_cast lower, by exact_mod_cast upper⟩
  · have least : numerator ≤ denominator - 1 := by omega
    obtain ⟨lower, upper⟩ := Number.toDigits_bounds (Nat.div_pos least positive).ne'
    have some : 0 < (Nat.toDigits 10 ((denominator - 1) / numerator)).length :=
      Nat.length_toDigits_pos
    rw [Nat.le_div_iff_mul_le positive] at lower
    rw [Nat.div_lt_iff_lt_mul positive] at upper
    generalize (Nat.toDigits 10 ((denominator - 1) / numerator)).length = length at *
    have order : -(length : Int) + 1 = -(length - 1 : Nat) := by omega
    have reached : denominator ≤ 10 ^ length * numerator := by omega
    have missed : 10 ^ (length - 1) * numerator < denominator := by omega
    rw [order, zpow_neg, zpow_neg, zpow_natCast, zpow_natCast, inv_mul_le_iff₀ (by positivity),
      lt_inv_mul_iff₀ (by positivity)]
    exact ⟨by exact_mod_cast reached, by exact_mod_cast missed⟩

/-- The greatest decimal that is not beyond a value is less than one unit below it. -/
theorem floorAt_bounds {span : Span} (positive : 0 < span.denominator) (exponent : Int) :
    (span.floorAt exponent : ℚ) * 10 ^ exponent ≤ span.value / span.denominator ∧
      (span.value : ℚ) / span.denominator < (span.floorAt exponent + 1) * 10 ^ exponent := by
  have unit : (0 : ℚ) < 10 ^ exponent := by positivity
  have ratio : (span.value : ℚ) / span.denominator / 10 ^ exponent =
      (span.value * Number.power 10 (-exponent) : Nat) /
        (span.denominator * Number.power 10 exponent : Nat) := by
    have above : (Number.power 10 exponent : ℚ) ≠ 0 := by
      exact_mod_cast (Number.power_pos (by decide) exponent).ne'
    have below : (Number.power 10 (-exponent) : ℚ) ≠ 0 := by
      exact_mod_cast (Number.power_pos (by decide) (-exponent)).ne'
    have power := Number.power_div_power (by decide : 0 < 10) exponent
    push_cast at power ⊢
    rw [← power]
    field_simp
  rw [← le_div_iff₀ unit, ← div_lt_iff₀ unit, ratio, Span.floorAt,
    ← Nat.floor_div_eq_div (K := ℚ)]
  exact ⟨Nat.floor_le (by positivity), Nat.lt_floor_add_one _⟩

variable {significand : Nat} {exponent : Int}

/-- The value in the interval of a number. -/
theorem value_spanOf (significand : Nat) (exponent : Int) :
    ((spanOf significand exponent).value : ℚ) / (spanOf significand exponent).denominator =
      significand * 2 ^ exponent := by
  rw [spanOf]
  dsimp only
  rw [quarters]
  push_cast
  ring

theorem spanOf_value_pos (positive : 0 < significand) (exponent : Int) :
    0 < (spanOf significand exponent).value :=
  Nat.mul_pos (Nat.mul_pos (by decide) positive) (Number.power_pos two_pos _)

/-- A candidate has at most as many digits as are asked for, or is a power of ten. -/
theorem coefficient_le_of_candidate? {span : Span} {digits : Nat} {decimal : Decimal}
    (nonzero : 0 < span.value) (positive : 0 < span.denominator) (one : 1 ≤ digits)
    (found : candidate? span (decimalOrder span.value span.denominator) digits = some decimal) :
    decimal.coefficient ≤ 10 ^ digits := by
  obtain ⟨_, order, atMost⟩ := of_candidate? found
  have unit : (0 : ℚ) < 10 ^ decimal.exponent := by positivity
  have reached := (floorAt_bounds positive decimal.exponent).1
  have missed := (decimalOrder_spec nonzero positive).2
  have split : decimalOrder span.value span.denominator + 1 = digits + decimal.exponent := by omega
  rw [split, zpow_add₀ (by norm_num), zpow_natCast] at missed
  have less := lt_of_mul_lt_mul_right (reached.trans_lt missed) unit.le
  have whole : span.floorAt decimal.exponent < 10 ^ digits := by exact_mod_cast less
  omega

/-- Ratios on both sides of a number and outside its interval are apart by at least the interval. -/
theorem interval_le {lower upper : ℚ} (positive : 0 < significand)
    (atMost : lower / 2 ^ exponent ≤ significand) (atLeast : significand ≤ upper / 2 ^ exponent)
    (lowerOutside : ¬ (spanOf significand exponent).Contains lower)
    (upperOutside : ¬ (spanOf significand exponent).Contains upper) :
    (1 : ℚ) / 2 + quartersBelow significand exponent / 4 ≤
      upper / 2 ^ exponent - lower / 2 ^ exponent := by
  rw [contains_spanOf_iff positive] at lowerOutside upperOutside
  have nonneg : (0 : ℚ) ≤ quartersBelow significand exponent := Nat.cast_nonneg _
  split_ifs at lowerOutside upperOutside with even
  · have left : ¬ (significand : ℚ) - quartersBelow significand exponent / 4 ≤ lower / 2 ^ exponent :=
      fun inside => lowerOutside ⟨inside, by linarith⟩
    have right : ¬ upper / 2 ^ exponent ≤ (significand : ℚ) + 1 / 2 :=
      fun inside => upperOutside ⟨by linarith, inside⟩
    linarith
  · have left : ¬ (significand : ℚ) - quartersBelow significand exponent / 4 < lower / 2 ^ exponent :=
      fun inside => lowerOutside ⟨inside, by linarith⟩
    have right : ¬ upper / 2 ^ exponent < (significand : ℚ) + 1 / 2 := by
      intro inside
      have some : (1 : ℚ) ≤ quartersBelow significand exponent := by
        have : 1 ≤ quartersBelow significand exponent := by
          rw [quartersBelow]
          split_ifs <;> omega
        exact_mod_cast this
      exact upperOutside ⟨by linarith, inside⟩
    linarith

/-- The last of seventeen digits counts less than the interval is wide. -/
theorem lastDigit_lt_interval {order : Int} (below : significand < 2 * leastSignificand)
    (reached : (10 : ℚ) ^ order / 2 ^ exponent ≤ significand) :
    (10 : ℚ) ^ order / 2 ^ exponent / 10 ^ 16 <
      (1 : ℚ) / 2 + quartersBelow significand exponent / 4 := by
  rw [div_lt_iff₀ (by positivity)]
  by_cases power : significand = leastSignificand ∧ leastExponent < exponent
  · have least : (significand : ℚ) = 4503599627370496 := by
      rw [power.1]
      rfl
    rw [quartersBelow, if_pos power]
    norm_num
    linarith
  · have bounded : (significand : ℚ) < 9007199254740992 := by exact_mod_cast below
    rw [quartersBelow, if_neg power]
    norm_num
    linarith

/-- One of the decimals with seventeen digits next to a number is in its interval. -/
theorem exists_candidate? (positive : 0 < significand) (below : significand < 2 * leastSignificand)
    (exponent : Int) :
    ∃ decimal, candidate? (spanOf significand exponent)
      (decimalOrder (spanOf significand exponent).value (spanOf significand exponent).denominator)
      Decimal.mostDigits = some decimal := by
  have scaled := spanOf_denominator_pos significand exponent
  have nonzero := spanOf_value_pos positive exponent
  have unit : (0 : ℚ) < 2 ^ exponent := by positivity
  have reached := (decimalOrder_spec nonzero scaled).1
  rw [value_spanOf, ← div_le_iff₀ unit] at reached
  rcases candidate?_spec (spanOf significand exponent) (decimalOrder
      (spanOf significand exponent).value (spanOf significand exponent).denominator)
      Decimal.mostDigits with ⟨decimal, found, _⟩ | ⟨_, lowerFails, upperFails⟩
  · exact ⟨decimal, found⟩
  · -- Were both neighbours outside, they would be apart by more than the unit of the last digit.
    rw [← Span.contains_iff_admits scaled] at lowerFails upperFails
    set order := decimalOrder (spanOf significand exponent).value
      (spanOf significand exponent).denominator
    have digits : order - ((Decimal.mostDigits - 1 : Nat) : Int) = order - 16 := rfl
    rw [digits] at lowerFails upperFails
    obtain ⟨atMost, atLeast⟩ := floorAt_bounds scaled (order - 16)
    rw [value_spanOf] at atMost atLeast
    set floor := (spanOf significand exponent).floorAt (order - 16)
    have apart := interval_le positive (by rwa [Decimal.value, div_le_iff₀ unit])
      (by rw [Decimal.value, le_div_iff₀ unit]; push_cast; exact atLeast.le) lowerFails upperFails
    have step : (⟨floor + 1, order - 16⟩ : Decimal).value / 2 ^ exponent -
        (⟨floor, order - 16⟩ : Decimal).value / 2 ^ exponent = 10 ^ order / 2 ^ exponent / 10 ^ 16 := by
      rw [Decimal.value, Decimal.value, zpow_sub₀ (by norm_num)]
      push_cast
      norm_num
      ring
    rw [step] at apart
    exact absurd apart (lastDigit_lt_interval below reached).not_ge

/-- The decimal that stands for a number has at most seventeen digits. -/
theorem coefficient_shortest_lt (below : significand < 2 * leastSignificand) (exponent : Int) :
    (shortest significand exponent).coefficient < 10 ^ Decimal.mostDigits := by
  rw [shortest]
  split_ifs with zero
  · positivity
  · have positive : 0 < significand := Nat.pos_of_ne_zero zero
    have scaled := spanOf_denominator_pos significand exponent
    have nonzero := spanOf_value_pos positive exponent
    refine Decimal.coefficient_normalize_lt 399 ?_
    cases found : (List.range 17).findSome? fun index => candidate? (spanOf significand exponent)
        (decimalOrder (spanOf significand exponent).value (spanOf significand exponent).denominator)
        (index + 1) with
    | none =>
      obtain ⟨decimal, candidate⟩ := exists_candidate? positive below exponent
      have missing := List.findSome?_eq_none_iff.mp found 16 (by decide)
      cases candidate.symm.trans missing
    | some decimal =>
      obtain ⟨index, listed, candidate⟩ := List.exists_of_findSome?_eq_some found
      have bounded := coefficient_le_of_candidate? nonzero scaled (Nat.le_add_left 1 index) candidate
      have few : index + 1 ≤ 16 + 1 := by
        rw [List.mem_range] at listed
        omega
      exact bounded.trans (Nat.pow_le_pow_right (by decide) few)

end Binary64

end NodeClient
