import NodeClient.Number.Quantity
import NodeClient.Text.Digit

/-! # Instants

Timestamps count seconds from the start of 1970 in UTC. Conversion walks over whole years and then
over the months of the last one, in the Gregorian calendar: a year is a leap year if it is divisible
by 4, unless it is divisible by 100 and not by 400. Years end at 9999. A floating-point timestamp is
rounded to microseconds, half to even.
-/

namespace NodeClient

/-- A day of the Gregorian calendar. -/
structure Date where
  year : Nat
  month : Nat
  day : Nat
  deriving Repr, DecidableEq

/-- A day and a time of day in UTC. -/
structure Instant where
  date : Date
  hour : Nat
  minute : Nat
  second : Nat
  microsecond : Nat
  deriving Repr, DecidableEq

namespace Date

/-- Whether a year has a 29th of February. -/
def isLeapYear (year : Nat) : Bool := year % 4 == 0 && (year % 100 != 0 || year % 400 == 0)

def yearLength (year : Nat) : Nat := if isLeapYear year then 366 else 365

theorem yearLength_pos (year : Nat) : 0 < yearLength year := by
  unfold yearLength
  split <;> omega

def monthLengths (year : Nat) : List Nat :=
  [31, if isLeapYear year then 29 else 28, 31, 30, 31, 30, 31, 31, 30, 31, 30, 31]

/-- The year that a day falls into, counted from the first day of a given year, and the days before
it in that year. -/
def yearOf (year days : Nat) : Nat × Nat :=
  if days < yearLength year then (year, days)
  else yearOf (year + 1) (days - yearLength year)
termination_by days
decreasing_by
  have := yearLength_pos year
  omega

/-- The month that a day falls into, counted from the first day of a given month, and the days
before it in that month. -/
def monthOf (month : Nat) : List Nat → Nat → Nat × Nat
  | [], days => (month, days)
  | length :: rest, days =>
    if days < length then (month, days) else monthOf (month + 1) rest (days - length)

/-- The day that comes a count of days after the first day of 1970. -/
def ofDays (days : Nat) : Date :=
  let (year, inYear) := yearOf 1970 days
  let (month, inMonth) := monthOf 1 (monthLengths year) inYear
  ⟨year, month, inMonth + 1⟩

end Date

/-- Why a timestamp is no instant. -/
inductive TimeFault where
  | negative
  | outOfRange
  deriving Repr, DecidableEq

namespace Instant

def daySeconds : Nat := 86400

/-- The last second of the year 9999. -/
def lastSecond : Nat := 253402300799

/-- The instant that comes a count of seconds and microseconds after the start of 1970. -/
def ofParts (seconds microsecond : Nat) : Instant :=
  let inDay := seconds % daySeconds
  ⟨Date.ofDays (seconds / daySeconds), inDay / 3600, inDay / 60 % 60, inDay % 60, microsecond⟩

/-- The instant of a count of seconds and microseconds, unless it is beyond the last one. -/
def within (seconds microsecond : Nat) : Except TimeFault Instant :=
  if seconds ≤ lastSecond then .ok (ofParts seconds microsecond) else .error .outOfRange

/-- The microseconds of a fraction of a second: its product with a million, as a floating-point
number, rounded to an integer. -/
def microseconds (fraction : Nat × Nat) : Nat :=
  match Binary64.ofQuotient false (1000000 * fraction.1) fraction.2 with
  | .finite _ significand exponent => Binary64.nearestNat significand exponent
  | _ => 0

def ofTimestamp (seconds : Quantity) : Except TimeFault Instant :=
  if seconds.isNegative then .error .negative
  else
    match seconds with
    | .int value => within value.toNat 0
    | .float (.finite _ significand exponent) =>
      let whole := Binary64.wholePart significand exponent
      let micro := microseconds (Binary64.fraction significand exponent)
      if 1000000 ≤ micro then within (whole + 1) (micro - 1000000) else within whole micro
    | .float _ => .error .outOfRange

/-- The text of an instant, with six places of a second only when they are not all zero. -/
def text (instant : Instant) : String :=
  let date :=
    Text.decimal 4 instant.date.year ++ '-' :: Text.decimal 2 instant.date.month ++
      '-' :: Text.decimal 2 instant.date.day
  let time :=
    Text.decimal 2 instant.hour ++ ':' :: Text.decimal 2 instant.minute ++
      ':' :: Text.decimal 2 instant.second
  let places :=
    if instant.microsecond = 0 then [] else '.' :: Text.decimal 6 instant.microsecond
  String.ofList (date ++ 'T' :: time ++ places ++ "+00:00".toList)

end Instant

end NodeClient
