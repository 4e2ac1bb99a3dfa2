import UaFlow.Time.Civil
import Mathlib.Tactic.IntervalCases
/-!
# The day count of the calendar is a bijection

`CivilDate.ofDays` gives a valid date for every day number, and `CivilDate.toDays` counts it back
to the same number.

Both go through a 400-year era of 146097 days whose years start on 1 March. A day of an era is a
century (`0..3`), a four-year cycle of the century (`0..24`), a year of the cycle (`0..3`) and a
day of the year; a year has 366 days only when it is the last of its cycle, and the last cycle of
a century has one only in the last century. The divisions of `ofDays` find exactly these parts,
which is `yearOfEra_dayOfEra`; the rest is a month table inside one shifted year.
-/

namespace UaFlow.Time

/-- A day of a 400-year era, by the parts the calendar is built from. Years start on 1 March, so
a leap day is the last day of its year. -/
structure EraDay where
  century : Nat
  cycle : Nat
  year : Nat
  day : Nat
  century_le : century ≤ 3
  cycle_le : cycle ≤ 24
  year_le : year ≤ 3
  day_le : day ≤ 364 ∨ day = 365 ∧ year = 3 ∧ (cycle < 24 ∨ century = 3)

namespace EraDay

/-- The days before it in its era. -/
def dayOfEra (p : EraDay) : Nat :=
  36524 * p.century + 1461 * p.cycle + 365 * p.year + p.day

/-- The years before its year in its era. -/
def yearOfEra (p : EraDay) : Nat :=
  100 * p.century + 4 * p.cycle + p.year

theorem dayOfEra_lt (p : EraDay) : p.dayOfEra < 146097 := by
  have := p.century_le; have := p.cycle_le; have := p.year_le; have := p.day_le
  unfold dayOfEra
  omega

/-- Every day of an era has its parts. -/
theorem exists_dayOfEra_eq {doe : Nat} (h : doe < 146097) : ∃ p : EraDay, p.dayOfEra = doe := by
  -- the last century, cycle and year of the era take what is left over
  let c := min (doe / 36524) 3
  let q := min ((doe - 36524 * c) / 1461) 24
  let b := min ((doe - 36524 * c - 1461 * q) / 365) 3
  refine ⟨⟨c, q, b, doe - 36524 * c - 1461 * q - 365 * b, by omega, by omega, by omega, ?_⟩, ?_⟩
  · omega
  · simp only [dayOfEra]
    omega

theorem day_le_365 (p : EraDay) : p.day ≤ 365 := by
  have := p.day_le
  omega

theorem yearOfEra_le (p : EraDay) : p.yearOfEra ≤ 399 := by
  have := p.century_le; have := p.cycle_le; have := p.year_le
  unfold yearOfEra
  omega

/-- The days before its year in its era, as the calendar counts them. -/
theorem yearOfEra_days (p : EraDay) :
    365 * p.yearOfEra + p.yearOfEra / 4 - p.yearOfEra / 100 + p.day = p.dayOfEra := by
  have := p.cycle_le; have := p.year_le
  unfold yearOfEra dayOfEra
  omega

/-- The divisions of `ofDays` recover the year of an era from the day of the era. -/
theorem yearOfEra_dayOfEra (p : EraDay) :
    (p.dayOfEra - p.dayOfEra / 1460 + p.dayOfEra / 36524 - p.dayOfEra / 146096) / 365 =
      p.yearOfEra := by
  have hc := p.century_le; have hq := p.cycle_le; have hb := p.year_le; have hd := p.day_le
  unfold dayOfEra yearOfEra
  by_cases hlast : p.century = 3 ∧ p.cycle = 24 ∧ p.year = 3 ∧ p.day = 365
  · -- the last day of the era, the leap day of its 400th year
    obtain ⟨h1, h2, h3, h4⟩ := hlast
    rw [h1, h2, h3, h4]
  · have hcentury : (36524 * p.century + 1461 * p.cycle + 365 * p.year + p.day) / 36524 =
        p.century := by omega
    have hera : (36524 * p.century + 1461 * p.cycle + 365 * p.year + p.day) / 146096 = 0 := by
      omega
    -- a four-year cycle is 1461 days and a century 36524: the quotient by 1460 overshoots by at
    -- most one near the end of a cycle
    have hcycle : (36524 * p.century + 1461 * p.cycle + 365 * p.year + p.day) / 1460 =
        25 * p.century + p.cycle + (24 * p.century + p.cycle + 365 * p.year + p.day) / 1460 := by
      omega
    rw [hcentury, hera, hcycle]
    omega

/-- The day of the year is a leap day only in a leap year. -/
theorem isLeapYear_of_day (p : EraDay) (era : Int) (h : p.day = 365) :
    isLeapYear ((p.yearOfEra : Int) + era * 400 + 1) = true := by
  have hd := p.day_le
  -- the year ends a four-year cycle, and a century only at the end of the era
  have h4 : (p.yearOfEra + 1) % 4 = 0 := by
    unfold yearOfEra
    omega
  have h100 : (p.yearOfEra + 1) % 100 ≠ 0 ∨ (p.yearOfEra + 1) % 400 = 0 := by
    have := p.cycle_le
    unfold yearOfEra
    omega
  unfold isLeapYear
  rw [Int.fmod_eq_emod_of_nonneg _ (by decide), Int.fmod_eq_emod_of_nonneg _ (by decide),
    Int.fmod_eq_emod_of_nonneg _ (by decide)]
  simp only [decide_eq_true_eq]
  omega

end EraDay

/-! ## Months of a shifted year -/

/-- The month of a day of a year that starts on 1 March, March being `0`. -/
def shiftedMonth (doy : Nat) : Nat :=
  (5 * doy + 2) / 153

/-- The calendar month of a shifted month. -/
def monthOfShifted (mp : Nat) : Nat :=
  if mp < 10 then mp + 3 else mp - 9

theorem shiftedMonth_le {doy : Nat} (h : doy ≤ 365) : shiftedMonth doy ≤ 11 := by
  unfold shiftedMonth
  omega

theorem daysBeforeMonth_shiftedMonth_le (doy : Nat) : daysBeforeMonth (shiftedMonth doy) ≤ doy := by
  unfold daysBeforeMonth shiftedMonth
  omega

theorem shifted_monthOfShifted {mp : Nat} (h : mp ≤ 11) : (monthOfShifted mp + 9) % 12 = mp := by
  unfold monthOfShifted
  split <;> omega

theorem monthOfShifted_bounds {mp : Nat} (h : mp ≤ 11) :
    1 ≤ monthOfShifted mp ∧ monthOfShifted mp ≤ 12 := by
  unfold monthOfShifted
  split <;> omega

/-- The day of a shifted year falls on a day its month has; the 366th only in a leap year. -/
theorem dayOfMonth_le {doy : Nat} (y : Int) (h : doy ≤ 365) (hleap : doy = 365 → isLeapYear y = true) :
    doy - daysBeforeMonth (shiftedMonth doy) + 1 ≤ daysInMonth y (monthOfShifted (shiftedMonth doy)) := by
  have hmp := shiftedMonth_le h
  have hk : (5 * doy + 2) / 153 = shiftedMonth doy := rfl
  generalize shiftedMonth doy = k at hmp hk ⊢
  interval_cases k
  all_goals simp [monthOfShifted, daysBeforeMonth, daysInMonth]
  all_goals try omega
  -- February, the last month of the shifted year
  by_cases h365 : doy = 365
  · simp [hleap h365, h365]
  · split <;> omega

/-! ## The date of a day of an era -/

/-- The date of a day of an era, as `ofDays` builds it. -/
def EraDay.toCivil (p : EraDay) (era : Int) : CivilDate :=
  let month := monthOfShifted (shiftedMonth p.day)
  ⟨if month ≤ 2 then (p.yearOfEra : Int) + era * 400 + 1 else (p.yearOfEra : Int) + era * 400,
    month, p.day - daysBeforeMonth (shiftedMonth p.day) + 1⟩

theorem ofDays_eq_toCivil {n era : Int} {p : EraDay} (h : n + 719468 = era * 146097 + p.dayOfEra) :
    CivilDate.ofDays n = p.toCivil era := by
  have hera : (n + 719468).fdiv 146097 = era := by
    rw [Int.fdiv_eq_ediv_of_nonneg _ (by decide), h]
    have := p.dayOfEra_lt
    omega
  have hdoe : (n + 719468 - era * 146097).toNat = p.dayOfEra := by omega
  have hdoy : p.dayOfEra - (365 * p.yearOfEra + p.yearOfEra / 4 - p.yearOfEra / 100) = p.day := by
    have := p.yearOfEra_days
    omega
  rw [CivilDate.ofDays]
  simp only [hera, hdoe, p.yearOfEra_dayOfEra, hdoy]
  rfl

/-- `toDays` takes one off the year of January and February, which `ofDays` added. -/
private theorem shiftedYear_back (c : Prop) [Decidable c] (y : Int) :
    (if c then (if c then y + 1 else y) - 1 else if c then y + 1 else y) = y := by
  by_cases h : c <;> simp [h]

theorem toDays_toCivil (p : EraDay) (era : Int) :
    (p.toCivil era).toDays = era * 146097 + p.dayOfEra - 719468 := by
  have hyoe := p.yearOfEra_le
  have hmp := shiftedMonth_le p.day_le_365
  have hera : ((p.yearOfEra : Int) + era * 400).fdiv 400 = era := by
    rw [Int.fdiv_eq_ediv_of_nonneg _ (by decide)]
    omega
  have hyoe' : ((p.yearOfEra : Int) + era * 400 - era * 400).toNat = p.yearOfEra := by omega
  have hdoy : daysBeforeMonth (shiftedMonth p.day) + (p.day - daysBeforeMonth (shiftedMonth p.day) + 1) - 1 =
      p.day := by
    have := daysBeforeMonth_shiftedMonth_le p.day
    omega
  have hdays := p.yearOfEra_days
  unfold EraDay.toCivil CivilDate.toDays
  simp only [shiftedYear_back, hera, hyoe', shifted_monthOfShifted hmp, hdoy]
  omega

theorem isValid_toCivil (p : EraDay) (era : Int) : (p.toCivil era).isValid = true := by
  have hmp := shiftedMonth_le p.day_le_365
  have hmonth := monthOfShifted_bounds hmp
  have hbefore := daysBeforeMonth_shiftedMonth_le p.day
  unfold EraDay.toCivil CivilDate.isValid
  dsimp only
  split
  · -- January and February belong to the next calendar year, which holds the leap day
    have hday := dayOfMonth_le ((p.yearOfEra : Int) + era * 400 + 1) p.day_le_365
      (p.isLeapYear_of_day era)
    simp only [decide_eq_true_eq]
    omega
  · rename_i hm
    have hday := dayOfMonth_le ((p.yearOfEra : Int) + era * 400) p.day_le_365 (fun h365 => by
      rw [h365] at hm
      exact absurd (by decide) hm)
    simp only [decide_eq_true_eq]
    omega

/-! ## Day numbers -/

/-- Every day number is a day of an era. -/
theorem exists_eraDay (n : Int) : ∃ (era : Int) (p : EraDay), n + 719468 = era * 146097 + p.dayOfEra := by
  obtain ⟨p, hp⟩ := EraDay.exists_dayOfEra_eq (show ((n + 719468) % 146097).toNat < 146097 by omega)
  exact ⟨(n + 719468) / 146097, p, by omega⟩

/-- **Day numbers count back.** The date of a day number counts back to that number. -/
theorem CivilDate.toDays_ofDays (n : Int) : (CivilDate.ofDays n).toDays = n := by
  obtain ⟨era, p, h⟩ := exists_eraDay n
  rw [ofDays_eq_toCivil h, toDays_toCivil]
  omega

example : CivilDate.ofDays 0 = ⟨1970, 1, 1⟩ := by decide

example : (CivilDate.mk 1970 1 1).toDays = 0 := by decide

/-- The date of every day number is a day the calendar has. -/
theorem CivilDate.isValid_ofDays (n : Int) : (CivilDate.ofDays n).isValid = true := by
  obtain ⟨era, p, h⟩ := exists_eraDay n
  rw [ofDays_eq_toCivil h]
  exact isValid_toCivil p era

end UaFlow.Time
