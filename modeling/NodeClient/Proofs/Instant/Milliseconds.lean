import NodeClient.Proofs.Instant.Timestamp
import NodeClient.Proofs.Number.Error
import NodeClient.Proofs.Projection.Shared

/-! # Counts of milliseconds

Traffic totals hold a count of milliseconds, which becomes an instant by way of a floating-point number of
seconds. Up to the middle of year 2242 that number is close enough to the count for the instant to be
exact. From there on to year 9999 the seconds are still right, and the rest is off by 15 microseconds at
most. Other counts are refused, but for those whose seconds are beyond all finite numbers.
-/

namespace NodeClient

namespace Instant

open Binary64

/-- The product of a fraction with a million, as it is rounded, is half a unit away from the microseconds
at most, and the rounding of the product adds little to this. -/
theorem abs_microseconds_sub_le {part : Nat × Nat} (proper : part.1 < part.2) :
    |(microseconds part : ℚ) - 1000000 * (part.1 / part.2)| ≤ 1 / 2 + 2 ^ (-34 : Int) := by
  have positive : 0 < part.2 := by omega
  have scale : (0 : ℚ) < part.2 := by exact_mod_cast positive
  have product : ((1000000 * part.1 : Nat) : ℚ) / part.2 = 1000000 * (part.1 / part.2) := by
    push_cast
    ring
  have below : ((1000000 * part.1 : Nat) : ℚ) / part.2 < 2 ^ (20 : Int) := by
    have lessOne : (part.1 : ℚ) / part.2 < 1 := (div_lt_one scale).mpr (by exact_mod_cast proper)
    rw [product]
    norm_num
    linarith
  obtain ⟨significand, exponent, rounded⟩ :=
    exists_finite_of_lt false positive (below.trans_le (zpow_le_overflowBound (by decide)))
  have error : |(significand : ℚ) * 2 ^ exponent - (1000000 * part.1 : Nat) / part.2| ≤
      2 ^ (-34 : Int) :=
    (abs_value_sub_le positive below (by decide) rounded).trans_eq (by norm_num)
  have nearest := (nearest_nearestNat significand exponent).abs_sub_le
  rw [microseconds, rounded, ← product]
  calc |(nearestNat significand exponent : ℚ) - (1000000 * part.1 : Nat) / part.2|
      ≤ |(nearestNat significand exponent : ℚ) - significand * 2 ^ exponent| +
          |(significand : ℚ) * 2 ^ exponent - (1000000 * part.1 : Nat) / part.2| :=
        abs_sub_le _ _ _
    _ ≤ 1 / 2 + 2 ^ (-34 : Int) := add_le_add nearest error

/-- A count of milliseconds in seconds, by its whole seconds and the milliseconds beyond them. -/
theorem seconds_split (count : Nat) :
    (count : ℚ) / 1000 = (count / 1000 : Nat) + (count % 1000 : Nat) / 1000 := by
  have parts : (count : ℚ) = 1000 * (count / 1000 : Nat) + (count % 1000 : Nat) := by
    exact_mod_cast (Nat.div_add_mod count 1000).symm
  rw [parts]
  ring

theorem milliseconds_le (count : Nat) : ((count % 1000 : Nat) : ℚ) ≤ 999 := by
  exact_mod_cast Nat.le_of_lt_succ (Nat.mod_lt count (by decide))

theorem ofTimestamp_finite (significand : Nat) (exponent : Int) :
    ofTimestamp (.float (.finite false significand exponent)) =
      if 1000000 ≤ microseconds (fraction significand exponent) then
        within (wholePart significand exponent + 1)
          (microseconds (fraction significand exponent) - 1000000)
      else within (wholePart significand exponent) (microseconds (fraction significand exponent)) := by
  rw [ofTimestamp, Quantity.isNegative, Binary64.isNegative, Bool.false_and,
    if_neg Bool.false_ne_true]

section

variable {significand : Nat} {exponent : Int}

/-- A number that is less than a millisecond away from a count has the whole seconds of the count, if it
is not below them where the count is one of whole seconds. -/
theorem wholePart_of_near {count : Nat}
    (near : |(significand : ℚ) * 2 ^ exponent - count / 1000| < 1 / 1000)
    (whole : count % 1000 = 0 → (significand : ℚ) * 2 ^ exponent = count / 1000) :
    wholePart significand exponent = count / 1000 := by
  have last := milliseconds_le count
  rw [wholePart_eq_floor, Nat.floor_eq_iff (by positivity)]
  rw [seconds_split] at near whole
  obtain ⟨above, below⟩ := abs_lt.mp near
  refine ⟨?_, by linarith⟩
  rcases Nat.eq_zero_or_pos (count % 1000) with none | some
  · rw [whole none]
    exact le_add_of_nonneg_right (by positivity)
  · have first : (1 : ℚ) ≤ (count % 1000 : Nat) := by exact_mod_cast some
    linarith

/-- A number that is close to a count of milliseconds has its whole seconds, and its microseconds are
those of the count but for the error. -/
theorem ofTimestamp_of_near {count : Nat} (inside : count / 1000 ≤ lastSecond)
    (near : |(significand : ℚ) * 2 ^ exponent - count / 1000| ≤ 2 ^ (-16 : Int))
    (whole : count % 1000 = 0 → (significand : ℚ) * 2 ^ exponent = count / 1000) :
    ∃ microsecond, ofTimestamp (.float (.finite false significand exponent)) =
        .ok (ofParts (count / 1000) microsecond) ∧ microsecond < 1000000 ∧
      |(microsecond : ℚ) - (count % 1000 * 1000 : Nat)| ≤
        1 / 2 + 2 ^ (-34 : Int) + |(significand : ℚ) * 2 ^ exponent - count / 1000| * 1000000 := by
  have floor := wholePart_of_near (near.trans_lt (by norm_num)) whole
  have last := milliseconds_le count
  have part := fraction_value significand exponent
  have proper : (fraction significand exponent).1 < (fraction significand exponent).2 :=
    Nat.mod_lt _ (Number.power_pos two_pos _)
  have rounding := abs_microseconds_sub_le proper
  have bounds := abs_le.mp (le_refl |(significand : ℚ) * 2 ^ exponent - count / 1000|)
  generalize |(significand : ℚ) * 2 ^ exponent - count / 1000| = error at *
  rw [seconds_split] at bounds
  rw [part, floor, abs_le] at rounding
  set microsecond := microseconds (fraction significand exponent)
  have close : |(microsecond : ℚ) - (count % 1000 * 1000 : Nat)| ≤
      1 / 2 + 2 ^ (-34 : Int) + error * 1000000 := by
    push_cast
    rw [abs_le]
    constructor
    · linarith [rounding.1, bounds.1]
    · linarith [rounding.2, bounds.2]
  have less : microsecond < 1000000 := by
    have bound := (abs_le.mp close).2
    norm_num at bound near
    have below : (microsecond : ℚ) < 1000000 := by linarith
    exact_mod_cast below
  refine ⟨microsecond, ?_, less, close⟩
  rw [ofTimestamp_finite, if_neg less.not_ge, floor, within, if_pos inside]

/-- A number that reaches the end of the last second is out of range. -/
theorem ofTimestamp_of_late
    (late : ((lastSecond + 1 : Nat) : ℚ) ≤ (significand : ℚ) * 2 ^ exponent) :
    ofTimestamp (.float (.finite false significand exponent)) = .error .outOfRange := by
  have beyond : lastSecond < wholePart significand exponent := by
    rw [wholePart_eq_floor]
    exact Nat.le_floor late
  rw [ofTimestamp_finite]
  split_ifs
  · rw [within, if_neg (by omega)]
  · rw [within, if_neg beyond.not_ge]

theorem ofTimestamp_of_negative (nonzero : 0 < significand) :
    ofTimestamp (.float (.finite true significand exponent)) = .error .negative := by
  have below : Quantity.isNegative (.float (.finite true significand exponent)) = true := by
    rw [Quantity.isNegative, Binary64.isNegative, Bool.true_and, bne_iff_ne]
    exact nonzero.ne'
  rw [ofTimestamp, if_pos below]

end

end Instant

namespace NetTotals

open Binary64

theorem timeOf_of_finite {count : Int} {significand : Nat} {exponent : Int}
    (rounded : ofQuotient (count < 0) count.natAbs 1000 =
      .finite (count < 0) significand exponent) :
    timeOf count = Projected.instant method "timemillis"
      (.float (.finite (count < 0) significand exponent)) := by
  rw [timeOf, ofRatio?, rounded]

theorem seconds_lt {count : Nat} (inside : count ≤ 253402300799999) :
    (count : ℚ) / (1000 : Nat) < 2 ^ (38 : Int) := by
  have bound : (count : ℚ) ≤ 253402300799999 := by exact_mod_cast inside
  norm_num
  linarith

/-- How close the number of seconds is to a count of milliseconds up to year 9999. -/
theorem seconds_error {count significand : Nat} {exponent : Int} (inside : count ≤ 253402300799999)
    (rounded : ofQuotient false count 1000 = .finite false significand exponent) :
    |(significand : ℚ) * 2 ^ exponent - count / 1000| ≤ 2 ^ (-16 : Int) ∧
      (count < 8589934592000 →
        |(significand : ℚ) * 2 ^ exponent - count / 1000| ≤ 2 ^ (-21 : Int)) ∧
      (125 ∣ count → (significand : ℚ) * 2 ^ exponent = count / 1000) := by
  have seconds := seconds_lt inside
  rw [← Nat.cast_ofNat (n := 1000)]
  refine ⟨?_, fun early => ?_, ?_⟩
  · exact (abs_value_sub_le (by decide) seconds (by decide) rounded).trans_eq (by norm_num)
  · have bound : (count : ℚ) < 8589934592000 := by exact_mod_cast early
    have seconds : (count : ℚ) / (1000 : Nat) < 2 ^ (33 : Int) := by
      norm_num
      linarith
    exact (abs_value_sub_le (by decide) seconds (by decide) rounded).trans_eq (by norm_num)
  · rintro ⟨parts, rfl⟩
    have places : ((125 * parts : Nat) : ℚ) / (1000 : Nat) = parts / 2 ^ 3 := by
      push_cast
      ring
    exact value_eq_of_places (by decide) seconds (by decide) places (by decide) rounded

/-- A count up to the last millisecond of year 9999 becomes an instant with its whole seconds. -/
theorem timeOf_of_inside {count : Nat} (inside : count ≤ 253402300799999) :
    ∃ microsecond, timeOf count = .ok (Instant.ofParts (count / 1000) microsecond) ∧
      microsecond < 1000000 ∧ |(microsecond : Int) - count % 1000 * 1000| ≤ 15 ∧
      (count < 8589934592000 ∨ 125 ∣ count → microsecond = count % 1000 * 1000) := by
  have unsigned : decide ((count : Int) < 0) = false := decide_eq_false (by omega)
  obtain ⟨significand, exponent, rounded⟩ := exists_finite_of_lt false (by decide)
    ((seconds_lt inside).trans_le (zpow_le_overflowBound (by decide)))
  have converted : timeOf count = Projected.instant method "timemillis"
      (.float (.finite false significand exponent)) := by
    rw [← unsigned]
    exact timeOf_of_finite (by rw [unsigned]; exact rounded)
  obtain ⟨near, early, eighths⟩ := seconds_error inside rounded
  have last : count / 1000 ≤ Instant.lastSecond := by
    rw [Instant.lastSecond]
    omega
  obtain ⟨microsecond, made, proper, close⟩ :=
    Instant.ofTimestamp_of_near last near fun none => eighths (by omega)
  refine ⟨microsecond, ?_, proper, ?_, fun short => ?_⟩
  · rw [converted, Projected.instant, made]
  · have bound : |(microsecond : ℚ) - (count % 1000 * 1000 : Nat)| < (16 : Nat) := by
      norm_num at near close ⊢
      linarith
    have whole : |(microsecond : Int) - count % 1000 * 1000| < 16 := by exact_mod_cast bound
    omega
  · have bound : |(microsecond : ℚ) - (count % 1000 * 1000 : Nat)| < (1 : Nat) := by
      rcases short with less | multiple
      · have near := early less
        norm_num at near close ⊢
        linarith
      · rw [eighths multiple, sub_self, abs_zero, zero_mul] at close
        norm_num at close ⊢
        linarith
    have whole : |(microsecond : Int) - count % 1000 * 1000| < 1 := by exact_mod_cast bound
    have same := Int.abs_lt_one_iff.mp whole
    omega

/-- A count below zero or beyond year 9999 is refused, if its seconds are a finite number. -/
theorem timeOf_of_outside {count : Int} (outside : ¬ (0 ≤ count ∧ count ≤ 253402300799999))
    (small : count.natAbs < 1000 * ((2 ^ 54 - 1) * 2 ^ 970)) :
    ∃ fault, timeOf count = Projected.refuse method "timemillis" fault := by
  have finite := (div_lt_overflowBound_iff (by decide)).mpr small
  obtain ⟨significand, exponent, rounded⟩ := exists_finite_of_lt (count < 0) (by decide) finite
  rw [timeOf_of_finite rounded, Projected.instant]
  rcases lt_or_ge count 0 with negative | nonneg
  · have nonzero : 0 < count.natAbs := by omega
    have reached : (2 : ℚ) ^ leastExponent ≤ count.natAbs / (1000 : Nat) := by
      have some : (1 : ℚ) ≤ count.natAbs := by exact_mod_cast nonzero
      calc (2 : ℚ) ^ leastExponent ≤ 2 ^ (-10 : Int) :=
            zpow_le_zpow_right₀ one_le_two (by decide)
        _ ≤ count.natAbs / (1000 : Nat) := by
          rw [le_div_iff₀ (by norm_num)]
          exact le_trans (by norm_num) some
    rw [decide_eq_true negative,
      Instant.ofTimestamp_of_negative (significand_pos nonzero (by decide) reached rounded)]
    exact ⟨_, rfl⟩
  · have reached : ((Instant.lastSecond + 1 : Nat) : ℚ) ≤ count.natAbs / (1000 : Nat) := by
      have late : 253402300800000 ≤ count.natAbs := by omega
      have bound : (253402300800000 : ℚ) ≤ count.natAbs := by exact_mod_cast late
      rw [Instant.lastSecond, le_div_iff₀ (by norm_num)]
      exact le_trans (by norm_num) bound
    rw [decide_eq_false nonneg.not_gt,
      Instant.ofTimestamp_of_late (natCast_le_value (by decide) (by decide) reached rounded)]
    exact ⟨_, rfl⟩

/-- A count whose seconds are beyond all finite numbers is not refused. -/
theorem timeOf_of_beyond {count : Int} (large : 1000 * ((2 ^ 54 - 1) * 2 ^ 970) ≤ count.natAbs) :
    timeOf count = .error .ratioOutOfRange := by
  have none : ofRatio? count 1000 = none := by
    rw [← Option.not_isSome_iff_eq_none, ofRatio?_isSome_iff count (by decide)]
    exact large.not_gt
  rw [timeOf, none]

end NetTotals

/-- The limit on uploads is projected from every record that was read by its shape. -/
theorem UploadTarget.exists_ofRaw {members : List (String × Json)} {raw other : Raw}
    (shares : Raw.Shares members Shape.uploadTargetEntry.fields raw other) :
    ∃ target, ofRaw raw = .ok target := by
  obtain ⟨_, _, timeframe, _⟩ := shares.int "timeframe" rfl
  obtain ⟨_, _, target, _⟩ := shares.int "target" rfl
  obtain ⟨_, _, reached, _⟩ := shares.bool "target_reached" rfl
  obtain ⟨_, _, historical, _⟩ := shares.bool "serve_historical_blocks" rfl
  obtain ⟨_, _, bytes, _⟩ := shares.int "bytes_left_in_cycle" rfl
  obtain ⟨_, _, time, _⟩ := shares.int "time_left_in_cycle" rfl
  rw [ofRaw, timeframe, target, reached, historical, bytes, time]
  exact ⟨_, rfl⟩

namespace NetTotals

/-- Whether traffic totals are projected is decided by their time alone. -/
theorem exists_ofRaw_eq_map {members : List (String × Json)} {raw : Raw} {count : Int}
    (read : Shape.netTotalsV17.read (.obj members) = .ok raw)
    (counted : Value.member? "timemillis" members = some (.int count)) :
    ∃ totals : Instant → NetTotals, (∀ time, (totals time).time = time) ∧
      ofRaw raw = (timeOf count).map totals := by
  obtain ⟨_, same, shares⟩ := Raw.shares_of_read read
  obtain rfl := Value.obj.inj same
  obtain ⟨row, ⟨json, _, limits⟩, record, _⟩ := shares.record "uploadtarget" rfl
  obtain ⟨_, _, inner⟩ := Raw.shares_of_read limits
  obtain ⟨target, projected⟩ := UploadTarget.exists_ofRaw inner
  obtain ⟨received, _, recv, _⟩ := shares.int "totalbytesrecv" rfl
  obtain ⟨transmitted, _, sent, _⟩ := shares.int "totalbytessent" rfl
  obtain ⟨milliseconds, stated, clock, _⟩ := shares.int "timemillis" rfl
  obtain rfl := Value.int.inj (Option.some.inj (stated.symm.trans counted))
  refine ⟨fun time => ⟨received, transmitted, time, target⟩, fun _ => rfl, ?_⟩
  rw [ofRaw, record, recv, sent, clock]
  dsimp only [bind, Except.bind]
  rw [projected]
  cases timeOf milliseconds <;> rfl

/-- Traffic totals hold the instant of their count of milliseconds: with its whole seconds wherever the
count is one of years up to 9999, and to the microsecond up to the middle of year 2242 and wherever the
count is one of eighths of a second; elsewhere it is off by 15 microseconds at most. Other counts are
refused, but for those whose seconds are beyond all finite numbers, which fail as such. -/
theorem time_of_milliseconds {members : List (String × Json)} {raw : Raw} {count : Int}
    (read : Shape.netTotalsV17.read (.obj members) = .ok raw)
    (counted : Value.member? "timemillis" members = some (.int count)) :
    (0 ≤ count ∧ count ≤ 253402300799999 →
      ∃ totals, ofRaw raw = .ok totals ∧ totals.time.IsValid ∧
        (totals.time.clock : Int) = Instant.epoch.clock + count / 1000 ∧
        |(totals.time.microsecond : Int) - count % 1000 * 1000| ≤ 15 ∧
        (count < 8589934592000 ∨ 125 ∣ count →
          (totals.time.microsecond : Int) = count % 1000 * 1000)) ∧
    (¬ (0 ≤ count ∧ count ≤ 253402300799999) →
      (count.natAbs < 1000 * ((2 ^ 54 - 1) * 2 ^ 970) →
        ∃ fault, ofRaw raw = .error (.refused ⟨"getnettotals", .invalid "timemillis" fault⟩)) ∧
      (1000 * ((2 ^ 54 - 1) * 2 ^ 970) ≤ count.natAbs → ofRaw raw = .error .ratioOutOfRange)) := by
  obtain ⟨totals, held, outcome⟩ := exists_ofRaw_eq_map read counted
  refine ⟨?_, fun outside => ⟨fun small => ?_, fun large => ?_⟩⟩
  · rintro ⟨nonneg, inside⟩
    lift count to Nat using nonneg
    have bound : count ≤ 253402300799999 := by exact_mod_cast inside
    obtain ⟨microsecond, made, proper, near, exact⟩ := timeOf_of_inside bound
    have last : count / 1000 ≤ Instant.lastSecond := by
      rw [Instant.lastSecond]
      omega
    obtain ⟨valid, _, clock⟩ := Instant.ofParts_spec last proper
    refine ⟨totals (Instant.ofParts (count / 1000) microsecond), ?_, ?_⟩
    · rw [outcome, made]
      rfl
    · rw [held]
      refine ⟨valid, by rw [clock]; push_cast; rfl, near, fun short => ?_⟩
      have same := exact (by omega)
      rw [Instant.ofParts, same]
      push_cast
      rfl
  · obtain ⟨fault, refused⟩ := timeOf_of_outside outside small
    exact ⟨fault, by rw [outcome, refused]; rfl⟩
  · rw [outcome, timeOf_of_beyond large]
    rfl

/-- The members of traffic totals with a count of milliseconds and without a limit on uploads. -/
def unlimited (count : Int) : List (String × Json) :=
  [("totalbytesrecv", .int 1000), ("totalbytessent", .int 2000), ("timemillis", .int count),
    ("uploadtarget", .obj [("timeframe", .int 86400), ("target", .int 0),
      ("target_reached", .bool false), ("serve_historical_blocks", .bool true),
      ("bytes_left_in_cycle", .int 0), ("time_left_in_cycle", .int 0)])]

/-- The millisecond before the middle of year 2242 is exact, and the one before the start of 1970 is
refused. -/
theorem time_of_milliseconds_last :
    (∃ raw totals, Shape.netTotalsV17.read (.obj (unlimited 8589934591999)) = .ok raw ∧
      ofRaw raw = .ok totals ∧ (totals.time.clock : Int) = Instant.epoch.clock + 8589934591 ∧
      (totals.time.microsecond : Int) = 999000) ∧
    ∃ raw fault, Shape.netTotalsV17.read (.obj (unlimited (-1))) = .ok raw ∧
      ofRaw raw = .error (.refused ⟨"getnettotals", .invalid "timemillis" fault⟩) := by
  obtain ⟨raw, read⟩ : ∃ raw, Shape.netTotalsV17.read (.obj (unlimited 8589934591999)) = .ok raw :=
    ⟨_, rfl⟩
  obtain ⟨raw', read'⟩ : ∃ raw, Shape.netTotalsV17.read (.obj (unlimited (-1))) = .ok raw :=
    ⟨_, rfl⟩
  obtain ⟨totals, projected, _, clock, _, exact⟩ :=
    (time_of_milliseconds read rfl).1 (by decide)
  have small : (-1 : Int).natAbs < 1000 * ((2 ^ 54 - 1) * 2 ^ 970) :=
    lt_of_lt_of_le (by decide : 1 < 1000) (Nat.le_mul_of_pos_right _ (by positivity))
  obtain ⟨fault, refused⟩ := ((time_of_milliseconds read' rfl).2 (by decide)).1 small
  have seconds : (8589934591999 : Int) / 1000 = 8589934591 := by decide
  have rest : (8589934591999 : Int) % 1000 * 1000 = 999000 := by decide
  rw [seconds] at clock
  rw [rest] at exact
  exact ⟨⟨raw, totals, read, projected, clock, exact (.inl (by decide))⟩,
    raw', fault, read', refused⟩

/-- The first count that is not exact: 12:56:32.001 on 16 March 2242 becomes an instant that is one
microsecond earlier. -/
theorem time_drifts :
    ∃ raw totals, Shape.netTotalsV17.read (.obj (unlimited 8589934592001)) = .ok raw ∧
      ofRaw raw = .ok totals ∧ totals.time = ⟨⟨2242, 3, 16⟩, 12, 56, 32, 999⟩ := by
  have converted : timeOf 8589934592001 = .ok ⟨⟨2242, 3, 16⟩, 12, 56, 32, 999⟩ := by
    decide +kernel
  obtain ⟨raw, read⟩ : ∃ raw, Shape.netTotalsV17.read (.obj (unlimited 8589934592001)) = .ok raw :=
    ⟨_, rfl⟩
  obtain ⟨totals, held, outcome⟩ := exists_ofRaw_eq_map read rfl
  exact ⟨raw, _, read, outcome.trans (by rw [converted]; rfl), held _⟩

end NetTotals

end NodeClient
