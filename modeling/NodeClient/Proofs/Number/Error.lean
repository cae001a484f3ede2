import NodeClient.Proofs.Number.Rounding
import Mathlib.Algebra.Order.Floor.Semifield
import Mathlib.Data.Rat.Floor

/-! # The error of rounding

A quotient is rounded in units of a power of two, so the number that it becomes is at most half a unit
away from it. A multiple of the unit is kept, and an integer that has a number of its own is not passed.
The whole part and the fraction of a number are those of its value.
-/

namespace NodeClient

namespace Nearest

variable {ratio : ℚ} {integer whole : Nat}

theorem abs_sub_le (nearest : Nearest ratio integer) : |(integer : ℚ) - ratio| ≤ 1 / 2 := by
  rw [abs_le]
  exact ⟨by linarith [nearest.upper], by linarith [nearest.lower]⟩

/-- What reaches an integer is not rounded below it. -/
theorem le_of_le (nearest : Nearest ratio integer) (reached : (whole : ℚ) ≤ ratio) :
    whole ≤ integer := by
  have next : (whole : ℚ) < integer + 1 := by linarith [nearest.upper]
  exact Nat.lt_add_one_iff.mp (by exact_mod_cast next)

theorem eq_of_natCast (nearest : Nearest whole integer) : integer = whole := by
  refine le_antisymm ?_ (nearest.le_of_le le_rfl)
  have previous : (integer : ℚ) < whole + 1 := by linarith [nearest.lower]
  exact Nat.lt_add_one_iff.mp (by exact_mod_cast previous)

end Nearest

namespace Binary64

variable {negative sign : Bool} {numerator denominator significand : Nat} {exponent : Int}

theorem zpow_le_overflowBound {top : Int} (inside : top ≤ 1023) :
    (2 : ℚ) ^ top ≤ overflowBound := by
  calc (2 : ℚ) ^ top ≤ 2 ^ (52 + greatestExponent) := zpow_le_zpow_right₀ one_le_two inside
    _ = leastSignificand * 2 ^ greatestExponent := by
      rw [zpow_add₀ two_ne_zero]
      rfl
    _ ≤ overflowBound := mul_le_mul_of_nonneg_right (by norm_num [leastSignificand]) (by positivity)

/-- The exponent that a quotient is rounded with. -/
def unitOf (numerator denominator : Nat) : Int :=
  max (orderOf numerator denominator - 52) leastExponent

/-- A quotient becomes the nearest multiple of its unit. -/
theorem exists_units (nonzero : 0 < numerator) (positive : 0 < denominator)
    (rounded : ofQuotient negative numerator denominator = .finite sign significand exponent) :
    ∃ units : Nat,
      Nearest ((numerator : ℚ) / denominator / 2 ^ unitOf numerator denominator) units ∧
        (significand : ℚ) * 2 ^ exponent = units * 2 ^ unitOf numerator denominator := by
  have nearest := nearest_significandAt numerator positive (unitOf numerator denominator)
  rw [ofQuotient, if_neg nonzero.ne', ← unitOf] at rounded
  generalize unitOf numerator denominator = unit at *
  refine ⟨_, nearest, ?_⟩
  by_cases carried : significandAt numerator denominator unit = 2 * leastSignificand
  · simp only [carried, ↓reduceIte] at rounded
    split_ifs at rounded
    obtain ⟨rfl, rfl, rfl⟩ := Binary64.finite.inj rounded
    rw [carried, zpow_add_one₀ two_ne_zero]
    push_cast
    ring
  · simp only [carried, ↓reduceIte] at rounded
    split_ifs at rounded
    obtain ⟨rfl, rfl, rfl⟩ := Binary64.finite.inj rounded
    rfl

/-- Below a power of two that is not among the smallest ones, the unit is 53 binary places further. -/
theorem unitOf_le {top : Int} (nonzero : 0 < numerator) (positive : 0 < denominator)
    (below : (numerator : ℚ) / denominator < 2 ^ top) (normal : -1021 ≤ top) :
    unitOf numerator denominator ≤ top - 53 := by
  have order := orderOf_lt nonzero positive below
  rw [unitOf, leastExponent]
  omega

/-- A number that is rounded from zero is zero. -/
theorem significand_of_zero
    (rounded : ofQuotient negative 0 denominator = .finite sign significand exponent) :
    significand = 0 := by
  rw [ofQuotient, if_pos rfl] at rounded
  exact (Binary64.finite.inj rounded).2.1.symm

/-- Below a power of two the error is at most its fraction of 54 binary places. -/
theorem abs_value_sub_le {top : Int} (positive : 0 < denominator)
    (below : (numerator : ℚ) / denominator < 2 ^ top) (normal : -1021 ≤ top)
    (rounded : ofQuotient negative numerator denominator = .finite sign significand exponent) :
    |(significand : ℚ) * 2 ^ exponent - numerator / denominator| ≤ 2 ^ (top - 54) := by
  rcases Nat.eq_zero_or_pos numerator with rfl | nonzero
  · rw [significand_of_zero rounded]
    simp only [Nat.cast_zero, zero_mul, zero_div, sub_zero, abs_zero]
    positivity
  · obtain ⟨units, nearest, value⟩ := exists_units nonzero positive rounded
    have small := unitOf_le nonzero positive below normal
    set unit := unitOf numerator denominator
    have scale : (0 : ℚ) < 2 ^ unit := by positivity
    have split : (units : ℚ) * 2 ^ unit - numerator / denominator =
        (units - numerator / denominator / 2 ^ unit) * 2 ^ unit := by
      field_simp
    rw [value, split, abs_mul, abs_of_pos scale]
    calc |(units : ℚ) - numerator / denominator / 2 ^ unit| * 2 ^ unit
        ≤ 1 / 2 * 2 ^ (top - 53) :=
          mul_le_mul nearest.abs_sub_le (zpow_le_zpow_right₀ one_le_two small) scale.le
            (by norm_num)
      _ = 2 ^ (top - 54) := by
        rw [show top - 53 = top - 54 + 1 by ring, zpow_add_one₀ two_ne_zero]
        ring

/-- A quotient of few binary places is kept. -/
theorem value_eq_of_places {top : Int} {places count : Nat} (positive : 0 < denominator)
    (below : (numerator : ℚ) / denominator < 2 ^ top) (normal : -1021 ≤ top)
    (exact : (numerator : ℚ) / denominator = count / 2 ^ places) (few : top + places ≤ 53)
    (rounded : ofQuotient negative numerator denominator = .finite sign significand exponent) :
    (significand : ℚ) * 2 ^ exponent = numerator / denominator := by
  rcases Nat.eq_zero_or_pos numerator with rfl | nonzero
  · rw [significand_of_zero rounded]
    simp only [Nat.cast_zero, zero_mul, zero_div]
  · obtain ⟨units, nearest, value⟩ := exists_units nonzero positive rounded
    have small := unitOf_le nonzero positive below normal
    obtain ⟨more, steps⟩ := Int.eq_ofNat_of_zero_le
      (show 0 ≤ -(unitOf numerator denominator + places) by omega)
    have unit : unitOf numerator denominator = -((more + places : Nat) : Int) := by omega
    have multiple : (numerator : ℚ) / denominator / 2 ^ unitOf numerator denominator =
        (count * 2 ^ more : Nat) := by
      rw [exact, unit, zpow_neg, zpow_natCast, pow_add]
      push_cast
      field_simp
    rw [multiple] at nearest
    rw [value, nearest.eq_of_natCast, ← multiple, div_mul_cancel₀ _ (by positivity)]

/-- An integer with a number of its own is not passed by what reaches it. -/
theorem natCast_le_value {whole : Nat} (small : whole ≤ 2 ^ 53) (positive : 0 < denominator)
    (reached : (whole : ℚ) ≤ numerator / denominator)
    (rounded : ofQuotient negative numerator denominator = .finite sign significand exponent) :
    (whole : ℚ) ≤ significand * 2 ^ exponent := by
  rcases Nat.eq_zero_or_pos numerator with rfl | nonzero
  · rw [Nat.cast_zero, zero_div] at reached
    exact reached.trans (by positivity)
  · obtain ⟨units, nearest, value⟩ := exists_units nonzero positive rounded
    set unit := unitOf numerator denominator with chosen
    have scale : (0 : ℚ) < 2 ^ unit := by positivity
    rw [value]
    rcases le_or_gt unit 0 with nonpos | large
    · obtain ⟨places, same⟩ := Int.eq_ofNat_of_zero_le (neg_nonneg.mpr nonpos)
      have multiple : ((whole * 2 ^ places : Nat) : ℚ) = whole / 2 ^ unit := by
        rw [show unit = -(places : Int) by omega, zpow_neg, zpow_natCast]
        push_cast
        field_simp
      have kept := nearest.le_of_le
        (multiple.trans_le (div_le_div_of_nonneg_right reached scale.le))
      rw [← div_le_iff₀ scale, ← multiple]
      exact_mod_cast kept
    · -- Units above one are those of numbers of 53 binary digits and more.
      have order : unit = orderOf numerator denominator - 52 := by
        rw [chosen, unitOf, leastExponent] at large ⊢
        omega
      have full : ((2 ^ 52 : Nat) : ℚ) ≤ numerator / denominator / 2 ^ unit := by
        have least := (orderOf_spec nonzero positive).1
        rw [show orderOf numerator denominator = 52 + unit by omega,
          zpow_add₀ two_ne_zero, ← le_div_iff₀ scale] at least
        exact_mod_cast least
      have double : (2 : ℚ) ≤ 2 ^ unit := (zpow_one 2).ge.trans (zpow_le_zpow_right₀ one_le_two large)
      calc (whole : ℚ) ≤ 2 ^ 52 * 2 := by
            rw [← pow_succ]
            exact_mod_cast small
        _ ≤ units * 2 ^ unit := by
          refine mul_le_mul ?_ double two_pos.le (Nat.cast_nonneg _)
          exact_mod_cast nearest.le_of_le full

/-- A quotient that reaches the least number above zero does not become zero. -/
theorem significand_pos (nonzero : 0 < numerator) (positive : 0 < denominator)
    (reached : (2 : ℚ) ^ leastExponent ≤ numerator / denominator)
    (rounded : ofQuotient negative numerator denominator = .finite sign significand exponent) :
    0 < significand := by
  obtain ⟨units, nearest, value⟩ := exists_units nonzero positive rounded
  have least : (2 : ℚ) ^ unitOf numerator denominator ≤ numerator / denominator := by
    rcases max_choice (orderOf numerator denominator - 52) leastExponent with order | smallest
    · rw [unitOf, order]
      exact (zpow_le_zpow_right₀ one_le_two (by omega)).trans (orderOf_spec nonzero positive).1
    · rwa [unitOf, smallest]
  rw [← one_mul (2 ^ _ : ℚ), ← le_div_iff₀ (by positivity), ← Nat.cast_one] at least
  have some : (1 : ℚ) ≤ units := by exact_mod_cast nearest.le_of_le least
  rw [Nat.pos_iff_ne_zero]
  rintro rfl
  rw [Nat.cast_zero, zero_mul] at value
  have above : (0 : ℚ) < units * 2 ^ unitOf numerator denominator := by positivity
  exact above.ne value

/-- The value of a finite magnitude as a quotient of natural numbers. -/
theorem value_eq_quotient (significand : Nat) (exponent : Int) :
    (significand : ℚ) * 2 ^ exponent =
      (significand * Number.power 2 exponent : Nat) / (Number.power 2 (-exponent) : Nat) := by
  have power := Number.power_div_power two_pos exponent
  push_cast at power ⊢
  rw [← power, mul_div_assoc]

theorem wholePart_eq_floor (significand : Nat) (exponent : Int) :
    wholePart significand exponent = ⌊(significand : ℚ) * 2 ^ exponent⌋₊ := by
  rw [value_eq_quotient, Nat.floor_div_eq_div, wholePart]

/-- The fraction of a magnitude is what its value has beyond the whole part. -/
theorem fraction_value (significand : Nat) (exponent : Int) :
    ((fraction significand exponent).1 : ℚ) / (fraction significand exponent).2 =
      significand * 2 ^ exponent - wholePart significand exponent := by
  have nonzero : (Number.power 2 (-exponent) : ℚ) ≠ 0 := by
    exact_mod_cast (Number.power_pos two_pos (-exponent)).ne'
  have split := Nat.mod_add_div (significand * Number.power 2 exponent)
    (Number.power 2 (-exponent))
  rw [value_eq_quotient, fraction, wholePart]
  dsimp only
  rw [eq_sub_iff_add_eq, div_add' _ _ _ nonzero, mul_comm (_ : ℚ)]
  exact congrArg (· / (Number.power 2 (-exponent) : ℚ)) (by exact_mod_cast split)

theorem nearest_nearestNat (significand : Nat) (exponent : Int) :
    Nearest (significand * 2 ^ exponent) (nearestNat significand exponent) := by
  rw [value_eq_quotient]
  exact nearest_roundQuotient _ (Number.power_pos two_pos (-exponent))

end Binary64

end NodeClient
