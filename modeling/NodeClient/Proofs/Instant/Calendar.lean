import NodeClient.Instant
import Mathlib.Algebra.BigOperators.Group.List.Basic
import Mathlib.Algebra.GroupWithZero.Nat
import Mathlib.Data.List.Lex
import Mathlib.Data.Nat.Basic
import Mathlib.Order.Monotone.Basic

/-! # The calendar

The days of the calendar are numbered from the first day of year 1. Before a year come 365 days for each
year, and one more for every fourth of them, but for the hundreds that are not multiples of 400. The
conversion of a count of days is the inverse of this numbering: it gives the day of the calendar with that
number. A day with a greater number is a later one, by year, month and day.
-/

namespace NodeClient.Date

/-- Days before a year, from the first day of year 1 on. -/
def daysBeforeYear (year : Nat) : Nat :=
  365 * (year - 1) + (year - 1) / 4 - (year - 1) / 100 + (year - 1) / 400

/-- Days before a month in its year. -/
def daysBeforeMonth (year month : Nat) : Nat := ((monthLengths year).take (month - 1)).sum

/-- Days before a day, from the first day of year 1 on. -/
def number (date : Date) : Nat :=
  daysBeforeYear date.year + daysBeforeMonth date.year date.month + (date.day - 1)

/-- The year, the month and the day. -/
def fields (date : Date) : List Nat := [date.year, date.month, date.day]

/-- Of two days that are not the same, one is earlier by year, month and day. -/
theorem trichotomy (first second : Date) :
    first.fields < second.fields ∨ first = second ∨ second.fields < first.fields := by
  rcases lt_trichotomy first.fields second.fields with earlier | same | later
  · exact .inl earlier
  · obtain ⟨_, _, _⟩ := first
    obtain ⟨_, _, _⟩ := second
    cases same
    exact .inr (.inl rfl)
  · exact .inr (.inr later)

/-- A day of the calendar, in a year of at most four digits. -/
structure IsValid (date : Date) : Prop where
  year_pos : 1 ≤ date.year
  year_le : date.year ≤ 9999
  month_pos : 1 ≤ date.month
  day_pos : 1 ≤ date.day
  day_le : ∃ length, (monthLengths date.year)[date.month - 1]? = some length ∧ date.day ≤ length

theorem yearLength_eq (year : Nat) :
    yearLength year + (if 100 ∣ year then 1 else 0) =
      365 + (if 4 ∣ year then 1 else 0) + if 400 ∣ year then 1 else 0 := by
  simp only [yearLength, isLeapYear, Bool.and_eq_true, Bool.or_eq_true, beq_iff_eq, bne_iff_ne]
  split_ifs <;> omega

theorem daysBeforeYear_succ {year : Nat} (positive : 1 ≤ year) :
    daysBeforeYear (year + 1) = daysBeforeYear year + yearLength year := by
  obtain ⟨before, rfl⟩ : ∃ before, year = before + 1 := ⟨year - 1, by omega⟩
  have length := yearLength_eq (before + 1)
  have hundreds : before / 100 ≤ before / 4 := Nat.div_le_div_left (by decide) (by decide)
  have next : (before + 1) / 100 ≤ (before + 1) / 4 := Nat.div_le_div_left (by decide) (by decide)
  simp only [daysBeforeYear, Nat.add_sub_cancel]
  rw [Nat.succ_div, Nat.succ_div] at next
  rw [Nat.succ_div, Nat.succ_div, Nat.succ_div]
  omega

theorem daysBeforeYear_mono : Monotone daysBeforeYear := by
  refine monotone_nat_of_le_succ fun year => ?_
  rcases Nat.eq_zero_or_pos year with rfl | positive
  · exact le_rfl
  · rw [daysBeforeYear_succ positive]
    exact Nat.le_add_right _ _

theorem sum_monthLengths (year : Nat) : (monthLengths year).sum = yearLength year := by
  rw [monthLengths, yearLength]
  cases isLeapYear year <;> rfl

/-- The walk over the years keeps the number of the day, and ends in the year that the day falls into. -/
theorem yearOf_spec (start days : Nat) (positive : 1 ≤ start) :
    start ≤ (yearOf start days).1 ∧ (yearOf start days).2 < yearLength (yearOf start days).1 ∧
      daysBeforeYear (yearOf start days).1 + (yearOf start days).2 = daysBeforeYear start + days := by
  induction start, days using yearOf.induct with
  | case1 start days inside =>
    rw [yearOf, if_pos inside]
    exact ⟨le_rfl, inside, rfl⟩
  | case2 start days beyond ih =>
    rw [yearOf, if_neg beyond]
    obtain ⟨later, inside, total⟩ := ih (by omega)
    have next := daysBeforeYear_succ positive
    exact ⟨by omega, inside, by omega⟩

/-- The walk over the months of a year ends in the month that the day falls into. -/
theorem monthOf_spec {lengths : List Nat} (month days : Nat) (inside : days < lengths.sum) :
    ∃ passed length, (monthOf month lengths days).1 = month + passed ∧
      lengths[passed]? = some length ∧ (monthOf month lengths days).2 < length ∧
      (lengths.take passed).sum + (monthOf month lengths days).2 = days := by
  induction lengths generalizing month days with
  | nil => exact absurd inside (Nat.not_lt_zero days)
  | cons first rest ih =>
    rw [monthOf]
    split_ifs with here
    · exact ⟨0, first, rfl, rfl, here, Nat.zero_add days⟩
    · rw [List.sum_cons] at inside
      obtain ⟨passed, length, counted, found, within, total⟩ :=
        ih (month + 1) (days - first) (by omega)
      refine ⟨passed + 1, length, by omega, found, within, ?_⟩
      rw [List.take_succ_cons, List.sum_cons]
      omega

/-- The last day of year 9999, from the first day of 1970 on. -/
def lastDay : Nat := 2932896

/-- A count of days is converted to the day of the calendar that comes so many days after the first one
of 1970. -/
theorem ofDays_spec {days : Nat} (inside : days ≤ lastDay) :
    (ofDays days).IsValid ∧ 1970 ≤ (ofDays days).year ∧
      (ofDays days).number = number ⟨1970, 1, 1⟩ + days := by
  obtain ⟨later, inYear, total⟩ := yearOf_spec 1970 days (by omega)
  rw [← sum_monthLengths] at inYear
  obtain ⟨passed, length, counted, found, inMonth, sum⟩ := monthOf_spec 1 _ inYear
  have start : number ⟨1970, 1, 1⟩ = daysBeforeYear 1970 := rfl
  have bounded : (yearOf 1970 days).1 ≤ 9999 := by
    by_contra beyond
    have least : daysBeforeYear 10000 ≤ daysBeforeYear (yearOf 1970 days).1 :=
      daysBeforeYear_mono (by omega)
    have first : daysBeforeYear 10000 = daysBeforeYear 1970 + lastDay + 1 := rfl
    omega
  have month : (ofDays days).month - 1 = passed := by
    have said : (ofDays days).month = 1 + passed := counted
    omega
  refine ⟨⟨?_, bounded, ?_, Nat.le_add_left 1 _, length, month ▸ found, inMonth⟩, later, ?_⟩
  · exact le_trans (by omega) later
  · exact le_of_le_of_eq (Nat.le_add_right 1 passed) counted.symm
  · rw [number, start, daysBeforeMonth, month]
    have day : (ofDays days).day - 1 = (monthOf 1 (monthLengths (yearOf 1970 days).1)
        (yearOf 1970 days).2).2 := Nat.add_sub_cancel _ 1
    have year : (ofDays days).year = (yearOf 1970 days).1 := rfl
    rw [day, year]
    omega

/-- Months that are passed have all their days before a later month. -/
theorem sum_take_add_le {lengths : List Nat} {first second length : Nat} (ordered : first < second)
    (found : lengths[first]? = some length) :
    (lengths.take first).sum + length ≤ (lengths.take second).sum := by
  have here : first < lengths.length := (List.getElem?_eq_some_iff.mp found).1
  have value : lengths[first] = length := (List.getElem?_eq_some_iff.mp found).2
  have whole := List.sum_take_succ lengths first here
  rw [value] at whole
  have rest : lengths.take (first + 1) <+: lengths.take second := List.take_prefix_take_left ordered
  obtain ⟨more, same⟩ := rest
  rw [← same, List.sum_append, whole]
  exact Nat.le_add_right _ _

namespace IsValid

variable {first second : Date}

/-- The days before a day of the calendar in its year are fewer than there are in the year. -/
theorem inYear_lt (valid : first.IsValid) :
    daysBeforeMonth first.year first.month + (first.day - 1) < yearLength first.year := by
  obtain ⟨length, found, within⟩ := valid.day_le
  have here : first.month - 1 < (monthLengths first.year).length :=
    (List.getElem?_eq_some_iff.mp found).1
  have passed := sum_take_add_le here found
  rw [List.take_length, sum_monthLengths] at passed
  have positive := valid.day_pos
  rw [daysBeforeMonth]
  omega

/-- An earlier day of the calendar has a lesser number. -/
theorem number_lt (valid : first.IsValid) (ordered : first.fields < second.fields) :
    first.number < second.number := by
  simp only [fields, List.cons_lt_cons_iff, List.not_lt_nil, and_false, or_false] at ordered
  rw [number, number]
  rcases ordered with earlier | ⟨sameYear, earlier | ⟨sameMonth, earlier⟩⟩
  · have inYear := valid.inYear_lt
    have next := daysBeforeYear_succ valid.year_pos
    have mono : daysBeforeYear (first.year + 1) ≤ daysBeforeYear second.year :=
      daysBeforeYear_mono earlier
    omega
  · obtain ⟨length, found, within⟩ := valid.day_le
    have positive := valid.month_pos
    have passed := sum_take_add_le (by omega : first.month - 1 < second.month - 1) found
    rw [← daysBeforeMonth, sameYear, ← daysBeforeMonth] at passed
    have day := valid.day_pos
    rw [sameYear]
    omega
  · have day := valid.day_pos
    rw [sameYear, sameMonth]
    omega

/-- Days of the calendar come one after another as their numbers do. -/
theorem number_lt_iff (valid : first.IsValid) (other : second.IsValid) :
    first.number < second.number ↔ first.fields < second.fields := by
  refine ⟨fun less => ?_, valid.number_lt⟩
  rcases first.trichotomy second with earlier | rfl | later
  · exact earlier
  · exact absurd less (lt_irrefl _)
  · exact absurd (other.number_lt later) (lt_asymm less)

/-- No two days of the calendar have one number. -/
theorem eq_of_number_eq (valid : first.IsValid) (other : second.IsValid)
    (same : first.number = second.number) : first = second := by
  rcases first.trichotomy second with earlier | same | later
  · exact absurd (valid.number_lt earlier) (Eq.not_lt same)
  · exact same
  · exact absurd (other.number_lt later) (Eq.not_lt same.symm)

end IsValid

end NodeClient.Date
