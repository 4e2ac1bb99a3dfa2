/-!
# Days of the proleptic Gregorian calendar

A civil date is a year, a month and a day of the Gregorian calendar extended to every year, with
year `0` before year `1`. Days are counted from 1970-01-01.

The count shifts the year to start in March, so that the leap day is the last day of its year;
then a year of 365 days, four-year, hundred-year and 400-year cycles of 1461, 36524 and 146097
days give the day number by floor division, and the same divisions in reverse give the date back.
-/

namespace UaFlow.Time

/-- A year, a month `1..12` and a day `1..31`. -/
structure CivilDate where
  year : Int
  month : Nat
  day : Nat
  deriving DecidableEq, Inhabited

/-- Leap years are those divisible by 4, except centuries not divisible by 400. -/
def isLeapYear (y : Int) : Bool :=
  y.fmod 4 = 0 ∧ (y.fmod 100 ≠ 0 ∨ y.fmod 400 = 0)

/-- The number of days of a month of a year. -/
def daysInMonth (y : Int) (m : Nat) : Nat :=
  match m with
  | 2 => if isLeapYear y then 29 else 28
  | 4 | 6 | 9 | 11 => 30
  | _ => 31

/-- A date names a day that exists. -/
def CivilDate.isValid (d : CivilDate) : Bool :=
  1 ≤ d.month ∧ d.month ≤ 12 ∧ 1 ≤ d.day ∧ d.day ≤ daysInMonth d.year d.month

/-- Days from the first of March to the first of a month, March counted as month `0`. -/
def daysBeforeMonth (shifted : Nat) : Nat :=
  (153 * shifted + 2) / 5

/-- The day number of a date, 1970-01-01 being day `0`. -/
def CivilDate.toDays (d : CivilDate) : Int :=
  let y := if d.month ≤ 2 then d.year - 1 else d.year
  let era := y.fdiv 400
  let yearOfEra := (y - era * 400).toNat
  let shifted := (d.month + 9) % 12
  let dayOfYear := daysBeforeMonth shifted + d.day - 1
  let dayOfEra := yearOfEra * 365 + yearOfEra / 4 - yearOfEra / 100 + dayOfYear
  era * 146097 + dayOfEra - 719468

/-- The date of a day number. -/
def CivilDate.ofDays (n : Int) : CivilDate :=
  let z := n + 719468
  let era := z.fdiv 146097
  let dayOfEra := (z - era * 146097).toNat
  let yearOfEra := (dayOfEra - dayOfEra / 1460 + dayOfEra / 36524 - dayOfEra / 146096) / 365
  let dayOfYear := dayOfEra - (365 * yearOfEra + yearOfEra / 4 - yearOfEra / 100)
  let shifted := (5 * dayOfYear + 2) / 153
  let day := dayOfYear - daysBeforeMonth shifted + 1
  let month := if shifted < 10 then shifted + 3 else shifted - 9
  let year := (yearOfEra : Int) + era * 400
  ⟨if month ≤ 2 then year + 1 else year, month, day⟩

end UaFlow.Time
