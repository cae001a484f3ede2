import NodeClient.Number.Shortest
import Mathlib.Algebra.Order.Field.Power
import Mathlib.Algebra.Order.Floor.Ring
import Mathlib.Data.Rat.Cast.Order
import Mathlib.Tactic.FieldSimp
import Mathlib.Tactic.Linarith
import Mathlib.Tactic.Positivity
import Mathlib.Tactic.Ring

/-! # Rounding to floating-point numbers

A quotient is rounded to the nearest integer in units of a power of two, which its order of magnitude
gives. Main statement: a quotient that lies in the interval of a number is rounded to this number.
-/

namespace NodeClient

/-- A scale is a power whatever the sign of the exponent. -/
theorem Number.power_div_power {base : Nat} (positive : 0 < base) (exponent : Int) :
    (power base exponent : ℚ) / power base (-exponent) = (base : ℚ) ^ exponent := by
  have nonzero : (base : ℚ) ≠ 0 := by positivity
  rcases le_total 0 exponent with nonneg | nonpos
  · obtain ⟨n, rfl⟩ := Int.eq_ofNat_of_zero_le nonneg
    rw [power_of_nonpos (by omega : -(n : Int) ≤ 0)]
    simp [power]
  · obtain ⟨n, same⟩ := Int.eq_ofNat_of_zero_le (by omega : 0 ≤ -exponent)
    obtain rfl : exponent = -(n : Int) := by omega
    rw [power_of_nonpos nonpos]
    simp [power]

/-- An integer is nearest to a ratio; it is even where another one is as near. -/
structure Nearest (ratio : ℚ) (integer : Nat) : Prop where
  lower : (integer : ℚ) - 1 / 2 ≤ ratio
  upper : ratio ≤ integer + 1 / 2
  even : ratio = integer - 1 / 2 ∨ ratio = integer + 1 / 2 → integer % 2 = 0

theorem Nearest.unique {ratio : ℚ} {integer other : Nat} (nearest : Nearest ratio integer)
    (nearest' : Nearest ratio other) : integer = other := by
  have bounds := nearest.lower.trans nearest'.upper
  have bounds' := nearest'.lower.trans nearest.upper
  have close : (integer : ℚ) ≤ other + 1 := by linarith
  have close' : (other : ℚ) ≤ integer + 1 := by linarith
  norm_cast at close close'
  rcases lt_trichotomy integer other with less | same | greater
  · -- Both are as near, so both are even, though one is the next after the other.
    obtain rfl : other = integer + 1 := by omega
    have upper := nearest.upper
    have lower := nearest'.lower
    push_cast at lower
    have tie : ratio = integer + 1 / 2 := by linarith
    have even := nearest.even (.inr tie)
    have even' := nearest'.even (.inl (by push_cast; linarith))
    omega
  · exact same
  · obtain rfl : integer = other + 1 := by omega
    have upper := nearest'.upper
    have lower := nearest.lower
    push_cast at lower
    have tie : ratio = other + 1 / 2 := by linarith
    have even := nearest'.even (.inr tie)
    have even' := nearest.even (.inl (by push_cast; linarith))
    omega

namespace Binary64

/-- A quotient is rounded to the nearest integer, half to even. -/
theorem nearest_roundQuotient (numerator : Nat) {denominator : Nat} (positive : 0 < denominator) :
    Nearest ((numerator : ℚ) / denominator) (roundQuotient numerator denominator) := by
  have split := Nat.div_add_mod numerator denominator
  have below := Nat.mod_lt numerator positive
  have scale : (0 : ℚ) < denominator := by exact_mod_cast positive
  rw [roundQuotient]
  set quotient := numerator / denominator
  set remainder := numerator % denominator
  have ratio : (numerator : ℚ) / denominator = quotient + remainder / denominator := by
    rw [← split]
    push_cast
    field_simp
  have nonneg : (0 : ℚ) ≤ remainder / denominator := by positivity
  have lessOne : (remainder : ℚ) / denominator < 1 := by
    rw [div_lt_one scale]
    exact_mod_cast below
  have atMost : (remainder : ℚ) / denominator ≤ 1 / 2 ↔ 2 * remainder ≤ denominator := by
    rw [div_le_div_iff₀ scale two_pos, one_mul, mul_comm]
    norm_cast
  have atLeast : (1 : ℚ) / 2 ≤ remainder / denominator ↔ denominator ≤ 2 * remainder := by
    rw [div_le_div_iff₀ two_pos scale, one_mul, mul_comm]
    norm_cast
  rw [ratio]
  by_cases down : 2 * remainder < denominator ∨ 2 * remainder = denominator ∧ quotient % 2 = 0
  · simp only [down, ↓reduceIte]
    have half := atMost.mpr (by omega)
    refine ⟨by linarith, by linarith, fun tie => ?_⟩
    have reached := atLeast.mp (by rcases tie with less | more <;> linarith)
    omega
  · simp only [down, ↓reduceIte]
    have half := atLeast.mpr (by omega)
    refine ⟨by push_cast; linarith, by push_cast; linarith, fun tie => ?_⟩
    push_cast at tie
    have reached := atMost.mp (by rcases tie with less | more <;> linarith)
    omega

/-- The ratio of a quotient in units of a power of two. -/
theorem nearest_significandAt (numerator : Nat) {denominator : Nat} (positive : 0 < denominator)
    (exponent : Int) :
    Nearest ((numerator : ℚ) / denominator / 2 ^ exponent)
      (significandAt numerator denominator exponent) := by
  have scaled : (numerator : ℚ) / denominator / 2 ^ exponent =
      ((numerator * Number.power 2 (-exponent) : Nat) : ℚ) /
        (denominator * Number.power 2 exponent : Nat) := by
    have power := Number.power_div_power two_pos exponent
    have above : (Number.power 2 exponent : ℚ) ≠ 0 := by
      exact_mod_cast (Number.power_pos two_pos exponent).ne'
    have below : (Number.power 2 (-exponent) : ℚ) ≠ 0 := by
      exact_mod_cast (Number.power_pos two_pos (-exponent)).ne'
    push_cast at power ⊢
    rw [← power]
    field_simp
  rw [scaled]
  exact nearest_roundQuotient _ (Nat.mul_pos positive (Number.power_pos two_pos exponent))

/-- Whether a quotient reaches a power of two. -/
theorem reaches_iff {numerator denominator : Nat} (positive : 0 < denominator) (exponent : Int) :
    denominator * Number.power 2 exponent ≤ numerator * Number.power 2 (-exponent) ↔
      (2 : ℚ) ^ exponent ≤ numerator / denominator := by
  have scale : (0 : ℚ) < denominator := by exact_mod_cast positive
  have below : (0 : ℚ) < Number.power 2 (-exponent) := by
    exact_mod_cast Number.power_pos two_pos (-exponent)
  have power := Number.power_div_power two_pos exponent
  push_cast at power
  rw [← power, div_le_div_iff₀ below scale, mul_comm (Number.power 2 exponent : ℚ)]
  norm_cast

/-- The order of a quotient is the greatest power of two that it reaches. -/
theorem orderOf_spec {numerator denominator : Nat} (positive : 0 < numerator)
    (positive' : 0 < denominator) :
    (2 : ℚ) ^ orderOf numerator denominator ≤ (numerator : ℚ) / denominator ∧
      (numerator : ℚ) / denominator < 2 ^ (orderOf numerator denominator + 1) := by
  have scale : (0 : ℚ) < denominator := by exact_mod_cast positive'
  have bounds (n : Nat) (nonzero : 0 < n) :
      (2 : ℚ) ^ (n.log2 : Int) ≤ n ∧ (n : ℚ) < 2 ^ ((n.log2 : Int) + 1) := by
    have lower := Nat.log2_self_le nonzero.ne'
    have upper := Nat.lt_log2_self (n := n)
    refine ⟨by exact_mod_cast lower, by exact_mod_cast upper⟩
  obtain ⟨low, high⟩ := bounds numerator positive
  obtain ⟨low', high'⟩ := bounds denominator positive'
  rw [orderOf]
  set guess : Int := (numerator.log2 : Int) - denominator.log2
  -- The logarithms of the two parts leave two orders.
  have below : (2 : ℚ) ^ (guess - 1) < (numerator : ℚ) / denominator := by
    rw [lt_div_iff₀ scale]
    calc (2 : ℚ) ^ (guess - 1) * denominator
        < 2 ^ (guess - 1) * 2 ^ ((denominator.log2 : Int) + 1) := by gcongr
      _ = 2 ^ (numerator.log2 : Int) := by
        rw [← zpow_add₀ two_ne_zero]
        congr 1
        omega
      _ ≤ numerator := low
  have above : (numerator : ℚ) / denominator < 2 ^ (guess + 1) := by
    rw [div_lt_iff₀ scale]
    calc (numerator : ℚ) < 2 ^ ((numerator.log2 : Int) + 1) := high
      _ = 2 ^ (guess + 1) * 2 ^ (denominator.log2 : Int) := by
        rw [← zpow_add₀ two_ne_zero]
        congr 1
        omega
      _ ≤ 2 ^ (guess + 1) * denominator := by gcongr
  split_ifs with reaches
  · exact ⟨(reaches_iff positive' _).mp reaches, above⟩
  · rw [reaches_iff positive', not_le] at reaches
    exact ⟨below.le, by rwa [sub_add_cancel]⟩

theorem le_orderOf {numerator denominator : Nat} {exponent : Int} (positive : 0 < numerator)
    (positive' : 0 < denominator) (reaches : (2 : ℚ) ^ exponent ≤ (numerator : ℚ) / denominator) :
    exponent ≤ orderOf numerator denominator := by
  have below := reaches.trans_lt (orderOf_spec positive positive').2
  have less := (zpow_lt_zpow_iff_right₀ one_lt_two).mp below
  omega

theorem orderOf_lt {numerator denominator : Nat} {exponent : Int} (positive : 0 < numerator)
    (positive' : 0 < denominator) (below : (numerator : ℚ) / denominator < 2 ^ exponent) :
    orderOf numerator denominator < exponent :=
  (zpow_lt_zpow_iff_right₀ one_lt_two).mp ((orderOf_spec positive positive').1.trans_lt below)

/-- The one form in which finite numbers are kept. -/
structure IsNormal (significand : Nat) (exponent : Int) : Prop where
  below : significand < 2 * leastSignificand
  least : leastExponent ≤ exponent
  greatest : exponent ≤ greatestExponent
  full : leastSignificand ≤ significand ∨ exponent = leastExponent

/-- A ratio lies in an interval. -/
def Span.Contains (span : Span) (ratio : ℚ) : Prop :=
  if span.closed then
    (span.low : ℚ) / span.denominator ≤ ratio ∧ ratio ≤ (span.high : ℚ) / span.denominator
  else (span.low : ℚ) / span.denominator < ratio ∧ ratio < (span.high : ℚ) / span.denominator

section

variable {significand : Nat} {exponent : Int} {ratio : ℚ}

/-- A multiple of a quarter of a unit, as an interval keeps it. -/
theorem quarters (count : Nat) (exponent : Int) :
    ((count * Number.power 2 (exponent - 2) : Nat) : ℚ) / Number.power 2 (-(exponent - 2)) =
      count / 4 * 2 ^ exponent := by
  have power := Number.power_div_power two_pos (exponent - 2)
  push_cast at power ⊢
  rw [mul_div_assoc, power, zpow_sub₀ two_ne_zero]
  norm_num
  ring

/-- How many quarters of a unit the interval of a number reaches below it. -/
def quartersBelow (significand : Nat) (exponent : Int) : Nat :=
  if significand = leastSignificand ∧ leastExponent < exponent then 1 else 2

theorem quartersBelow_le : quartersBelow significand exponent ≤ 2 := by
  rw [quartersBelow]
  split_ifs <;> omega

/-- The interval of a number in units of its exponent: up to half a unit above it, and half a unit
below it, or a quarter below a power of two. Odd numbers leave out the ends. -/
theorem contains_spanOf_iff (positive : 0 < significand) :
    (spanOf significand exponent).Contains ratio ↔
      if significand % 2 = 0 then
        (significand : ℚ) - quartersBelow significand exponent / 4 ≤ ratio / 2 ^ exponent ∧
          ratio / 2 ^ exponent ≤ significand + 1 / 2
      else
        (significand : ℚ) - quartersBelow significand exponent / 4 < ratio / 2 ^ exponent ∧
          ratio / 2 ^ exponent < significand + 1 / 2 := by
  have unit : (0 : ℚ) < 2 ^ exponent := by positivity
  have atMost : quartersBelow significand exponent ≤ 2 := quartersBelow_le
  have low : (((spanOf significand exponent).low : ℚ) / (spanOf significand exponent).denominator) =
      (significand - quartersBelow significand exponent / 4) * 2 ^ exponent := by
    rw [spanOf, ← quartersBelow]
    dsimp only
    rw [quarters, Nat.cast_sub (by omega)]
    push_cast
    ring
  have high :
      (((spanOf significand exponent).high : ℚ) / (spanOf significand exponent).denominator) =
        (significand + 1 / 2) * 2 ^ exponent := by
    rw [spanOf]
    dsimp only
    rw [quarters]
    push_cast
    ring
  have closed : (spanOf significand exponent).closed = true ↔ significand % 2 = 0 := by
    rw [spanOf]
    exact beq_iff_eq
  rw [Span.Contains, low, high, ← le_div_iff₀ unit, ← div_le_iff₀ unit, ← lt_div_iff₀ unit,
    ← div_lt_iff₀ unit]
  simp only [closed]

/-- What lies in the interval of a number has it as the nearest integer in units of its exponent. -/
theorem Span.Contains.nearest (contains : (spanOf significand exponent).Contains ratio)
    (positive : 0 < significand) : Nearest (ratio / 2 ^ exponent) significand := by
  rw [contains_spanOf_iff positive] at contains
  have weaken : (quartersBelow significand exponent : ℚ) ≤ 2 := by exact_mod_cast quartersBelow_le
  split_ifs at contains with even
  · exact ⟨by linarith, by linarith, fun _ => even⟩
  · refine ⟨by linarith, by linarith, fun tie => ?_⟩
    rcases tie with less | more <;> linarith

theorem Span.Contains.quarter (contains : (spanOf significand exponent).Contains ratio)
    (power : significand = leastSignificand) (above : leastExponent < exponent) :
    (leastSignificand : ℚ) - 1 / 4 ≤ ratio / 2 ^ exponent := by
  have positive : 0 < significand := by
    rw [power]
    decide
  have one : quartersBelow significand exponent = 1 := by rw [quartersBelow, if_pos ⟨power, above⟩]
  rw [contains_spanOf_iff positive, one, power] at contains
  push_cast at contains
  split_ifs at contains <;> linarith

/-- The value of a number lies in its interval. -/
theorem contains_value (positive : 0 < significand) :
    (spanOf significand exponent).Contains (significand * 2 ^ exponent) := by
  have unit : (2 : ℚ) ^ exponent ≠ 0 := by positivity
  have atLeast : (1 : ℚ) ≤ quartersBelow significand exponent := by
    have : 1 ≤ quartersBelow significand exponent := by
      rw [quartersBelow]
      split_ifs <;> omega
    exact_mod_cast this
  rw [contains_spanOf_iff positive, mul_div_cancel_right₀ _ unit]
  split_ifs
  · exact ⟨by linarith, by linarith⟩
  · exact ⟨by linarith, by linarith⟩

/-- What is less than half a unit short of a carry is rounded up to it. -/
theorem nearest_carry (reached : (2 * leastSignificand - 1 / 2 : ℚ) ≤ ratio)
    (missed : ratio < 2 * leastSignificand) : Nearest ratio (2 * leastSignificand) := by
  refine ⟨?_, ?_, fun _ => by decide⟩
  · push_cast
    linarith
  · push_cast
    linarith

section

variable {numerator denominator : Nat}

/-- A quotient is rounded to the nearest significand in units of the exponent of its order. -/
theorem ofQuotient_of_nearest (negative : Bool) (normal : IsNormal significand exponent)
    (nonzero : 0 < numerator) (positive : 0 < denominator)
    (chosen : max (orderOf numerator denominator - 52) leastExponent = exponent)
    (nearest : Nearest ((numerator : ℚ) / denominator / 2 ^ exponent) significand) :
    ofQuotient negative numerator denominator = .finite negative significand exponent := by
  have rounded := (nearest_significandAt numerator positive exponent).unique nearest
  have kept : significand ≠ 2 * leastSignificand := normal.below.ne
  rw [ofQuotient, if_neg nonzero.ne']
  simp only [chosen, rounded, kept, ↓reduceIte, not_lt.mpr normal.greatest]

/-- A quotient that is rounded up to a carry has the next greater exponent. -/
theorem ofQuotient_of_carry (negative : Bool) (inside : exponent ≤ greatestExponent)
    (nonzero : 0 < numerator) (positive : 0 < denominator)
    (chosen : max (orderOf numerator denominator - 52) leastExponent = exponent - 1)
    (nearest : Nearest ((numerator : ℚ) / denominator / 2 ^ (exponent - 1))
      (2 * leastSignificand)) :
    ofQuotient negative numerator denominator = .finite negative leastSignificand exponent := by
  have rounded := (nearest_significandAt numerator positive (exponent - 1)).unique nearest
  rw [ofQuotient, if_neg nonzero.ne']
  simp only [chosen, rounded, ↓reduceIte, sub_add_cancel, not_lt.mpr inside]

theorem pos_of_nearest
    (nearest : Nearest ((numerator : ℚ) / denominator / 2 ^ exponent) significand)
    (positive : 0 < significand) : 0 < numerator := by
  rw [Nat.pos_iff_ne_zero]
  rintro rfl
  have atLeast : (1 : ℚ) ≤ significand := by exact_mod_cast positive
  have zero := nearest.lower
  rw [Nat.cast_zero, zero_div, zero_div] at zero
  linarith

/-- A quotient that reaches the least significand in units of an exponent, or has the least exponent,
is rounded with this exponent. -/
theorem exponent_of_reaches (normal : IsNormal significand exponent) (nonzero : 0 < numerator)
    (positive : 0 < denominator)
    (nearest : Nearest ((numerator : ℚ) / denominator / 2 ^ exponent) significand)
    (reaches : (leastSignificand : ℚ) ≤ (numerator : ℚ) / denominator / 2 ^ exponent ∨
      exponent = leastExponent) :
    max (orderOf numerator denominator - 52) leastExponent = exponent := by
  have unit : (0 : ℚ) < 2 ^ exponent := by positivity
  have atMost : (significand : ℚ) + 1 ≤ 2 * leastSignificand := by exact_mod_cast normal.below
  have below : (numerator : ℚ) / denominator < 2 ^ (exponent + 53) := by
    rw [zpow_add₀ two_ne_zero, mul_comm, ← div_lt_iff₀ unit]
    have double : (2 : ℚ) ^ (53 : Int) = 2 * leastSignificand := by norm_num [leastSignificand]
    linarith [nearest.upper]
  have order := orderOf_lt nonzero positive below
  rcases reaches with full | same
  · have least : (leastSignificand : ℚ) = 2 ^ (52 : Int) := by norm_num [leastSignificand]
    rw [least, le_div_iff₀ unit, mul_comm, ← zpow_add₀ two_ne_zero] at full
    have reached := le_orderOf nonzero positive full
    have atLeast := normal.least
    omega
  · omega

/-- Only below a power of two an interval holds quotients that do not reach the least significand. -/
theorem eq_leastSignificand_of_short (normal : IsNormal significand exponent)
    (other : exponent ≠ leastExponent) (nearest : Nearest ratio significand)
    (short : ratio < leastSignificand) : significand = leastSignificand := by
  have full := normal.full.resolve_right other
  by_contra more
  have next : (leastSignificand : ℚ) + 1 ≤ significand := by
    have above : leastSignificand + 1 ≤ significand := by omega
    exact_mod_cast above
  linarith [nearest.lower]

/-- A quotient in the interval of a number is rounded to this number. -/
theorem ofQuotient_of_contains (negative : Bool) (normal : IsNormal significand exponent)
    (positive : 0 < significand) (positive' : 0 < denominator)
    (contains : (spanOf significand exponent).Contains ((numerator : ℚ) / denominator)) :
    ofQuotient negative numerator denominator = .finite negative significand exponent := by
  have nearest := contains.nearest positive
  have nonzero := pos_of_nearest nearest positive
  by_cases reaches : (leastSignificand : ℚ) ≤ (numerator : ℚ) / denominator / 2 ^ exponent ∨
      exponent = leastExponent
  · have chosen := exponent_of_reaches normal nonzero positive' nearest reaches
    exact ofQuotient_of_nearest negative normal nonzero positive' chosen nearest
  · -- Below a power of two the quotient is rounded up to it, with the next smaller exponent.
    rw [not_or, not_le] at reaches
    obtain ⟨short, other⟩ := reaches
    have above : leastExponent < exponent := lt_of_le_of_ne normal.least (Ne.symm other)
    obtain rfl := eq_leastSignificand_of_short normal other nearest short
    have quarter := contains.quarter rfl above
    have unit : (0 : ℚ) < 2 ^ exponent := by positivity
    have reached : (2 : ℚ) ^ (exponent + 51) ≤ (numerator : ℚ) / denominator := by
      rw [zpow_add₀ two_ne_zero, mul_comm, ← le_div_iff₀ unit]
      have half : (2 : ℚ) ^ (51 : Int) ≤ leastSignificand - 1 / 4 := by norm_num [leastSignificand]
      linarith
    have missed : (numerator : ℚ) / denominator < 2 ^ (exponent + 52) := by
      have least : (leastSignificand : ℚ) = 2 ^ (52 : Int) := by norm_num [leastSignificand]
      rwa [zpow_add₀ two_ne_zero, mul_comm, ← div_lt_iff₀ unit, ← least]
    have chosen : max (orderOf numerator denominator - 52) leastExponent = exponent - 1 := by
      have atLeast := le_orderOf nonzero positive' reached
      have atMost := orderOf_lt nonzero positive' missed
      omega
    have doubled : (numerator : ℚ) / denominator / 2 ^ (exponent - 1) =
        2 * ((numerator : ℚ) / denominator / 2 ^ exponent) := by
      rw [zpow_sub_one₀ two_ne_zero]
      field_simp
    have carry : Nearest ((numerator : ℚ) / denominator / 2 ^ (exponent - 1))
        (2 * leastSignificand) := by
      rw [doubled]
      exact nearest_carry (by linarith) (by linarith)
    exact ofQuotient_of_carry negative normal.greatest nonzero positive' chosen carry

end

end

section

variable {numerator denominator : Nat}

/-- The least magnitude that is rounded to an infinity, half a unit above the greatest number. -/
def overflowBound : ℚ := (2 * leastSignificand - 1 / 2) * 2 ^ greatestExponent

/-- A magnitude is infinite where its exponent, after a carry, is beyond the greatest one. -/
theorem ofQuotient_eq_infinite_iff_exponent (negative : Bool) (nonzero : 0 < numerator) :
    ofQuotient negative numerator denominator = .infinite negative ↔
      greatestExponent <
        if significandAt numerator denominator
            (max (orderOf numerator denominator - 52) leastExponent) = 2 * leastSignificand then
          max (orderOf numerator denominator - 52) leastExponent + 1
        else max (orderOf numerator denominator - 52) leastExponent := by
  rw [ofQuotient, if_neg nonzero.ne']
  generalize max (orderOf numerator denominator - 52) leastExponent = exponent
  by_cases full : significandAt numerator denominator exponent = 2 * leastSignificand
  · simp only [full, ↓reduceIte]
    split_ifs with beyond <;> simp [beyond]
  · simp only [full, ↓reduceIte]
    split_ifs with beyond <;> simp [beyond]

/-- A quotient is rounded to an infinity where its magnitude reaches the bound. -/
theorem ofQuotient_eq_infinite_iff (negative : Bool) (nonzero : 0 < numerator)
    (positive : 0 < denominator) :
    ofQuotient negative numerator denominator = .infinite negative ↔
      overflowBound ≤ (numerator : ℚ) / denominator := by
  have unit : (0 : ℚ) < 2 ^ greatestExponent := by positivity
  have double : (2 * leastSignificand : ℚ) * 2 ^ greatestExponent = 2 ^ (greatestExponent + 53) := by
    rw [add_comm, zpow_add₀ two_ne_zero]
    norm_num [leastSignificand]
  obtain ⟨reached, missed⟩ := orderOf_spec nonzero positive
  rw [ofQuotient_eq_infinite_iff_exponent negative nonzero, overflowBound]
  set order := orderOf numerator denominator
  set exponent := max (order - 52) leastExponent with chosen
  have nearest := nearest_significandAt numerator positive exponent
  set significand := significandAt numerator denominator exponent
  have range : leastExponent < greatestExponent := by decide
  constructor
  · intro beyond
    split_ifs at beyond with full
    · have lower := nearest.lower
      rw [full, le_div_iff₀ (by positivity)] at lower
      push_cast at lower
      have wider : (2 : ℚ) ^ greatestExponent ≤ 2 ^ exponent :=
        zpow_le_zpow_right₀ one_le_two (by omega)
      calc (2 * leastSignificand - 1 / 2 : ℚ) * 2 ^ greatestExponent
          ≤ (2 * leastSignificand - 1 / 2) * 2 ^ exponent :=
            mul_le_mul_of_nonneg_left wider (by norm_num [leastSignificand])
        _ ≤ numerator / denominator := lower
    · have wider : (2 : ℚ) ^ (greatestExponent + 53) ≤ 2 ^ order :=
        zpow_le_zpow_right₀ one_le_two (by omega)
      rw [← double] at wider
      linarith
  · intro beyond
    have half : (2 : ℚ) ^ (greatestExponent + 52) ≤ (numerator : ℚ) / denominator := by
      refine le_trans ?_ beyond
      rw [add_comm, zpow_add₀ two_ne_zero]
      gcongr
      norm_num [leastSignificand]
    have high := le_orderOf nonzero positive half
    by_cases top : exponent = greatestExponent
    · have below : (numerator : ℚ) / denominator < 2 ^ (greatestExponent + 53) := by
        refine missed.trans_le (zpow_le_zpow_right₀ one_le_two ?_)
        omega
      rw [← double, ← div_lt_iff₀ unit] at below
      rw [← le_div_iff₀ unit] at beyond
      rw [top] at nearest
      rw [if_pos (nearest.unique (nearest_carry beyond below))]
      omega
    · split_ifs <;> omega

end

theorem ofQuotient_eq_infinite_or_finite (negative : Bool) (numerator denominator : Nat) :
    ofQuotient negative numerator denominator = .infinite negative ∨
      ∃ significand exponent,
        ofQuotient negative numerator denominator = .finite negative significand exponent := by
  rw [ofQuotient]
  split_ifs with zero
  · exact .inr ⟨_, _, rfl⟩
  · dsimp only
    split_ifs
    · exact .inl rfl
    · exact .inr ⟨_, _, rfl⟩
    · exact .inl rfl
    · exact .inr ⟨_, _, rfl⟩

theorem overflowBound_eq : overflowBound = ((2 ^ 54 - 1) * 2 ^ 970 : Nat) := by
  have top : (2 : ℚ) ^ greatestExponent = 2 * 2 ^ 970 := by
    rw [← pow_succ']
    rfl
  have whole : (2 * leastSignificand - 1 / 2 : ℚ) * 2 = (2 ^ 54 - 1 : Nat) := by
    norm_num [leastSignificand]
  rw [overflowBound, top, ← mul_assoc, whole, Nat.cast_mul, Nat.cast_pow, Nat.cast_ofNat]

/-- A quotient below the bound is rounded to a finite number of its sign. -/
theorem exists_finite_of_lt (negative : Bool) {numerator denominator : Nat}
    (positive : 0 < denominator) (below : (numerator : ℚ) / denominator < overflowBound) :
    ∃ significand exponent,
      ofQuotient negative numerator denominator = .finite negative significand exponent := by
  rcases Nat.eq_zero_or_pos numerator with rfl | nonzero
  · exact ⟨0, leastExponent, if_pos rfl⟩
  · refine (ofQuotient_eq_infinite_or_finite negative numerator denominator).resolve_left ?_
    rw [ofQuotient_eq_infinite_iff negative nonzero positive]
    exact below.not_ge

theorem div_lt_overflowBound_iff {numerator denominator : Nat} (positive : 0 < denominator) :
    (numerator : ℚ) / denominator < overflowBound ↔
      numerator < denominator * ((2 ^ 54 - 1) * 2 ^ 970) := by
  have scale : (0 : ℚ) < denominator := by exact_mod_cast positive
  rw [overflowBound_eq, div_lt_iff₀ scale, mul_comm (_ : ℚ)]
  exact_mod_cast Iff.rfl

/-- A ratio of an integer is in the range of finite numbers where its magnitude is below the bound. -/
theorem ofRatio?_isSome_iff (value : Int) {divisor : Nat} (positive : 0 < divisor) :
    (ofRatio? value divisor).isSome ↔ value.natAbs < divisor * ((2 ^ 54 - 1) * 2 ^ 970) := by
  rw [← div_lt_overflowBound_iff positive, ofRatio?]
  by_cases below : (value.natAbs : ℚ) / divisor < overflowBound
  · obtain ⟨significand, exponent, finite⟩ := exists_finite_of_lt (value < 0) positive below
    exact iff_of_true (by rw [finite]; rfl) below
  · have nonzero : 0 < value.natAbs := by
      rw [Nat.pos_iff_ne_zero]
      intro zero
      rw [zero, Nat.cast_zero, zero_div] at below
      exact below (mul_pos (by norm_num [leastSignificand]) (by positivity))
    have infinite := (ofQuotient_eq_infinite_iff (value < 0) nonzero positive).mpr (not_lt.mp below)
    exact iff_of_false (by rw [infinite]; exact Bool.false_ne_true) below

/-- An integer is in the range of finite numbers where its magnitude is below the bound. -/
theorem ofInt?_isSome_iff (value : Int) :
    (ofInt? value).isSome ↔ value.natAbs < (2 ^ 54 - 1) * 2 ^ 970 := by
  rw [ofInt?, ofRatio?_isSome_iff value one_pos, one_mul]

end Binary64

end NodeClient
