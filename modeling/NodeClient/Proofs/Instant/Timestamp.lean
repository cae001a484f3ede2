import NodeClient.Proofs.Instant.Calendar
import NodeClient.Proofs.Json.Integers
import NodeClient.Proofs.Projection.Outcome

/-! # Timestamps of whole seconds

A timestamp from 0 up to the last second of year 9999 is converted to the instant that comes exactly so
many seconds after the start of 1970, so a later timestamp is a later instant. Every other integer is
refused, with the operation and the field; the refusal tells the integer, which fails when it has too many
digits for that.
-/

namespace NodeClient

namespace Instant

/-- The start of 1970. -/
def epoch : Instant := ⟨⟨1970, 1, 1⟩, 0, 0, 0, 0⟩

/-- Whole seconds before an instant, from the first day of year 1 on. -/
def clock (instant : Instant) : Nat :=
  instant.date.number * daySeconds + instant.hour * 3600 + instant.minute * 60 + instant.second

/-- The year, the month, the day and the parts of the time of day. -/
def fields (instant : Instant) : List Nat :=
  [instant.date.year, instant.date.month, instant.date.day, instant.hour, instant.minute,
    instant.second, instant.microsecond]

/-- A day of the calendar and a time of day. -/
structure IsValid (instant : Instant) : Prop where
  date : instant.date.IsValid
  hour : instant.hour < 24
  minute : instant.minute < 60
  second : instant.second < 60
  microsecond : instant.microsecond < 1000000

/-- An instant with more seconds before it is a later one. -/
theorem IsValid.fields_lt {first second : Instant} (valid : first.IsValid) (other : second.IsValid)
    (less : first.clock < second.clock) : first.fields < second.fields := by
  obtain ⟨date, hour, minute, moment, _⟩ := valid
  obtain ⟨date', hour', minute', moment', _⟩ := other
  rw [clock, clock, daySeconds] at less
  have days : first.date.number ≤ second.date.number := by omega
  rcases days.lt_or_eq with earlier | same
  · have dates := (date.number_lt_iff date').mp earlier
    simp only [Date.fields, fields, List.cons_lt_cons_iff, List.not_lt_nil, and_false,
      or_false] at dates ⊢
    omega
  · rw [same] at less
    simp only [fields, List.cons_lt_cons_iff, and_false, or_false, date.eq_of_number_eq date' same,
      lt_self_iff_false, false_or, true_and]
    omega

/-- A count of seconds and a part of a second are converted to the instant that comes so long after the
start of 1970. -/
theorem ofParts_spec {seconds microsecond : Nat} (inside : seconds ≤ lastSecond)
    (proper : microsecond < 1000000) :
    (ofParts seconds microsecond).IsValid ∧ 1970 ≤ (ofParts seconds microsecond).date.year ∧
      (ofParts seconds microsecond).clock = epoch.clock + seconds := by
  have days : seconds / daySeconds ≤ Date.lastDay :=
    (Nat.div_le_div_right inside).trans_eq (by rfl)
  obtain ⟨valid, later, number⟩ := Date.ofDays_spec days
  refine ⟨⟨valid, ?_, ?_, ?_, proper⟩, later, ?_⟩
  all_goals dsimp only [ofParts, clock, epoch, daySeconds] at number ⊢
  all_goals omega

/-- Which integers are timestamps, and what is wrong with the others. -/
theorem ofTimestamp_int (seconds : Int) :
    ofTimestamp (.int seconds) =
      if seconds < 0 then .error .negative
      else if seconds ≤ lastSecond then .ok (ofParts seconds.toNat 0) else .error .outOfRange := by
  rw [ofTimestamp, Quantity.isNegative]
  by_cases negative : seconds < 0
  · rw [if_pos (decide_eq_true negative), if_pos negative]
  · have bound : seconds.toNat ≤ lastSecond ↔ seconds ≤ lastSecond := by omega
    rw [if_neg (by simpa using negative), if_neg negative]
    dsimp only [within]
    rw [if_congr bound rfl rfl]

end Instant

namespace Projected

variable (operation field : String) (seconds : Int)

/-- The instant of a timestamp of whole seconds, or its refusal. -/
theorem instant_int :
    (0 ≤ seconds ∧ seconds ≤ Instant.lastSecond ∧
      instant operation field (.int seconds) = .ok (Instant.ofParts seconds.toNat 0)) ∨
    (¬ (0 ≤ seconds ∧ seconds ≤ Instant.lastSecond) ∧
      ∃ fault, instant operation field (.int seconds) =
        refuseNumber operation field (.int seconds) fault) := by
  rw [instant, Instant.ofTimestamp_int]
  split_ifs with negative inside
  · exact .inr ⟨by omega, _, rfl⟩
  · exact .inl ⟨by omega, inside, rfl⟩
  · exact .inr ⟨by omega, _, rfl⟩

variable {operation field seconds}

/-- What the instant of a timestamp is. -/
theorem instant_int_eq_ok {value : Instant}
    (converted : instant operation field (.int seconds) = .ok value) :
    value.IsValid ∧ value.microsecond = 0 ∧
      (value.clock : Int) = Instant.epoch.clock + seconds := by
  rcases instant_int operation field seconds with ⟨nonneg, inside, same⟩ | ⟨_, _, refused⟩
  · obtain rfl := Except.ok.inj (converted.symm.trans same)
    have below : seconds.toNat ≤ Instant.lastSecond := by omega
    obtain ⟨valid, _, clock⟩ := Instant.ofParts_spec below (Nat.succ_pos 999999)
    exact ⟨valid, rfl, by omega⟩
  · exact absurd (refused.symm.trans converted) (refuseNumber_ne_ok _ _ _ _ _)

/-- An integer with too many digits cannot be told in its refusal. -/
theorem instant_of_long (long : 10 ^ Number.digitLimit ≤ seconds.natAbs) :
    instant operation field (.int seconds) = .error .tooLong := by
  have least : 10 ^ 12 ≤ 10 ^ Number.digitLimit := Nat.pow_le_pow_right (by decide) (by decide)
  have last : Instant.lastSecond < 10 ^ 12 := by decide
  rcases instant_int operation field seconds with ⟨nonneg, inside, _⟩ | ⟨_, fault, refused⟩
  · exact absurd (least.trans long) (by omega)
  · rw [refused, refuseNumber, Quantity.isTooLong_int, if_pos (decide_eq_true long)]

/-- An integer from 0 up to the last second of year 9999, and no other, is converted: to the day of the
calendar and the time of day that lie so many seconds after the start of 1970, in order and each to its
own. Any other integer is refused with the operation and the field, but for those of more digits than can
be told. -/
theorem instant_of_seconds (operation field : String) (seconds : Int) :
    ((∃ value, instant operation field (.int seconds) = .ok value) ↔
      0 ≤ seconds ∧ seconds ≤ 253402300799) ∧
    (∀ value, instant operation field (.int seconds) = .ok value →
      value.IsValid ∧ value.microsecond = 0 ∧
      (value.clock : Int) = Instant.epoch.clock + seconds ∧
      ∀ later other, instant operation field (.int later) = .ok other →
        (seconds < later → value.fields < other.fields) ∧ (value = other → seconds = later)) ∧
    (¬ (0 ≤ seconds ∧ seconds ≤ 253402300799) →
      (seconds.natAbs < 10 ^ Number.digitLimit →
        ∃ fault, instant operation field (.int seconds) =
          .error (.refused ⟨operation, .invalid field fault⟩)) ∧
      (10 ^ Number.digitLimit ≤ seconds.natAbs →
        instant operation field (.int seconds) = .error .tooLong)) := by
  have last : (Instant.lastSecond : Int) = 253402300799 := rfl
  refine ⟨?_, ?_, ?_⟩
  · rcases instant_int operation field seconds with ⟨nonneg, inside, same⟩ | ⟨outside, _, refused⟩
    · exact iff_of_true ⟨_, same⟩ ⟨nonneg, inside⟩
    · refine iff_of_false ?_ outside
      rintro ⟨value, converted⟩
      exact absurd (refused.symm.trans converted) (refuseNumber_ne_ok _ _ _ _ _)
  · intro value converted
    obtain ⟨valid, whole, clock⟩ := instant_int_eq_ok converted
    refine ⟨valid, whole, clock, fun later other next => ?_⟩
    obtain ⟨valid', _, clock'⟩ := instant_int_eq_ok next
    refine ⟨fun less => valid.fields_lt valid' (by omega), ?_⟩
    rintro rfl
    omega
  · intro outside
    refine ⟨fun short => ?_, instant_of_long⟩
    rcases instant_int operation field seconds with ⟨nonneg, inside, _⟩ | ⟨_, fault, refused⟩
    · exact absurd ⟨nonneg, inside⟩ outside
    · rw [refused, refuseNumber, Quantity.isTooLong_int, if_neg (by simpa using short)]
      exact ⟨fault, rfl⟩

/-- The last second of February in a leap year that ends a century. -/
theorem instant_of_seconds_leapDay :
    ∃ value, instant "getpeerinfo" "conntime" (.int 951868799) = .ok value ∧ value.IsValid ∧
      value.fields = [2000, 2, 29, 23, 59, 59, 0] := by
  obtain ⟨converts, describes, _⟩ := instant_of_seconds "getpeerinfo" "conntime" 951868799
  obtain ⟨value, converted⟩ := converts.mpr (by decide)
  obtain ⟨valid, _⟩ := describes value converted
  refine ⟨value, converted, valid, ?_⟩
  obtain rfl := Except.ok.inj converted
  decide +kernel

/-- A timestamp of 4301 digits fails as an integer that is too long to be told. -/
theorem instant_of_seconds_tooLong :
    instant "getnodeaddresses" "time" (.int (10 ^ Number.digitLimit)) = .error .tooLong := by
  have magnitude (count : Nat) : (10 ^ count : Int).natAbs = 10 ^ count := Int.natAbs_pow 10 count
  exact instant_of_long (magnitude Number.digitLimit).ge

end Projected

end NodeClient
