/-
# Dates of the Gregorian calendar

A date is a year, a month and a day of the calendar carried on in both
directions, with a year zero. It is tied to the number of days since
1970-01-01. Years are counted from March for the arithmetic, so that the leap
day comes last.

Key definitions: `Date`, `Date.dayNumber`, `Date.ofDayNumber`, `Date.addMonths`, `IsoWeek.ofDay`.
Key theorems: `Date.dayNumber_ofDayNumber`.
-/

namespace PathTemplate.Calendar

/-- Whether a year has a 29th of February. -/
def isLeapYear (y : Int) : Bool := y % 4 = 0 && (y % 100 ≠ 0 || y % 400 = 0)

/-- The number of days in a month, counted from one. -/
def daysInMonth (y : Int) (m : Nat) : Nat :=
  if m = 2 then (if isLeapYear y then 29 else 28)
  else if m = 4 ∨ m = 6 ∨ m = 9 ∨ m = 11 then 30
  else 31

/-- A year, a month from 1 to 12 and a day from 1. -/
structure Date where
  year : Int
  month : Nat
  day : Nat
deriving DecidableEq, Repr

namespace Date

/-- Whether a date is in the calendar. -/
def IsValid (d : Date) : Prop :=
  1 ≤ d.month ∧ d.month ≤ 12 ∧ 1 ≤ d.day ∧ d.day ≤ daysInMonth d.year d.month

instance (d : Date) : Decidable d.IsValid := by
  unfold IsValid
  infer_instance

/-- The number of days before the first of March of a year, from the first of March of year 0. -/
def daysBeforeMarch (y : Int) : Int := 365 * y + y / 4 - y / 100 + y / 400

/-- The number of days before a month, from the first of March; March is month 0. -/
def daysBeforeMonth (m : Int) : Int := (153 * m + 2) / 5

/-- The number of days from 1970-01-01 to a date. -/
def dayNumber (d : Date) : Int :=
  let y := if d.month ≤ 2 then d.year - 1 else d.year
  let m : Int := if d.month ≤ 2 then d.month + 9 else d.month - 3
  daysBeforeMarch y + daysBeforeMonth m + d.day - 1 - 719468

/-- A year counted from March, and the days passed in it, of a number of days from 0000-03-01. -/
def splitYear (n : Int) : Int × Int :=
  let era := n / 146097
  let inEra := n % 146097
  let century := min 3 (inEra / 36524)
  let inCentury := inEra - 36524 * century
  let quad := inCentury / 1461
  let inQuad := inCentury - 1461 * quad
  let year := min 3 (inQuad / 365)
  (400 * era + 100 * century + 4 * quad + year, inQuad - 365 * year)

/-- The days before a year and the days passed in it make up the days that were split. -/
theorem splitYear_sum (n : Int) : daysBeforeMarch (splitYear n).1 + (splitYear n).2 = n := by
  simp only [splitYear, daysBeforeMarch]
  have hn : n = 146097 * (n / 146097) + n % 146097 := (Int.mul_ediv_add_emod n 146097).symm
  have h0 : 0 ≤ n % 146097 := Int.emod_nonneg _ (by decide)
  have h1 : n % 146097 < 146097 := Int.emod_lt_of_pos _ (by decide)
  generalize n / 146097 = era at *
  generalize n % 146097 = inEra at *
  generalize hc : min 3 (inEra / 36524) = century
  have hc' : 0 ≤ century ∧ century ≤ 3 := by omega
  generalize hi : inEra - 36524 * century = inCentury
  have hi' : 0 ≤ inCentury ∧ inCentury ≤ 36524 := by omega
  generalize hq : inCentury / 1461 = quad
  have hq' : 0 ≤ quad ∧ quad ≤ 24 := by omega
  generalize hj : inCentury - 1461 * quad = inQuad
  generalize hy : min 3 (inQuad / 365) = year
  have hy' : 0 ≤ year ∧ year ≤ 3 := by omega
  have e4 : (400 * era + 100 * century + 4 * quad + year) / 4 = 100 * era + 25 * century + quad := by
    omega
  have e100 : (400 * era + 100 * century + 4 * quad + year) / 100 = 4 * era + century := by omega
  have e400 : (400 * era + 100 * century + 4 * quad + year) / 400 = era := by omega
  rw [e4, e100, e400]
  omega

theorem splitYear_bounds (n : Int) : 0 ≤ (splitYear n).2 ∧ (splitYear n).2 ≤ 365 := by
  simp only [splitYear]
  omega

/-- The date that many days from 1970-01-01. -/
def ofDayNumber (n : Int) : Date :=
  let (y, passed) := splitYear (n + 719468)
  let m := (5 * passed + 2) / 153
  let day := (passed - daysBeforeMonth m + 1).toNat
  if m < 10 then ⟨y, (m + 3).toNat, day⟩ else ⟨y + 1, (m - 9).toNat, day⟩

/-- The date of a day number has that day number. -/
theorem dayNumber_ofDayNumber (n : Int) : (ofDayNumber n).dayNumber = n := by
  have hs := splitYear_sum (n + 719468)
  have hb := splitYear_bounds (n + 719468)
  unfold ofDayNumber
  generalize splitYear (n + 719468) = p at *
  obtain ⟨y, passed⟩ := p
  simp only [] at hs hb
  have hm : (5 * passed + 2) / 153 < 12 := by omega
  have hd : daysBeforeMonth ((5 * passed + 2) / 153) ≤ passed := by
    unfold daysBeforeMonth
    omega
  simp only []
  generalize hk : (5 * passed + 2) / 153 = m at *
  have h0 : 0 ≤ m := by omega
  split
  · have h1 : ¬ (m + 3).toNat ≤ 2 := by omega
    have h2 : (((m + 3).toNat : Nat) : Int) - 3 = m := by omega
    simp only [dayNumber, h1, if_false, h2]
    omega
  · have h1 : (m - 9).toNat ≤ 2 := by omega
    have h2 : (((m - 9).toNat : Nat) : Int) + 9 = m := by omega
    simp only [dayNumber, h1, if_true, h2, Int.add_sub_cancel]
    omega

/-- The day of the year, from 1. -/
def ordinal (d : Date) : Int := d.dayNumber - (Date.mk d.year 1 1).dayNumber + 1

/-- The date some months later, the day lowered to the last of the month if need be. -/
def addMonths (d : Date) (n : Int) : Date :=
  let index := d.year * 12 + d.month - 1 + n
  let y := index / 12
  let m := (index % 12).toNat + 1
  ⟨y, m, min d.day (daysInMonth y m)⟩

end Date

/-- The day of the week of a day number: 0 is Monday. -/
def weekday (n : Int) : Int := (n + 3) % 7

/-- A week of the calendar of weeks: its year and its number from 1. -/
structure IsoWeek where
  year : Int
  week : Int
deriving DecidableEq, Repr

/-- The week of a day: the year that its Thursday is in, and the Thursdays of that year so far. -/
def IsoWeek.ofDay (n : Int) : IsoWeek :=
  let thursday := Date.ofDayNumber (n - weekday n + 3)
  ⟨thursday.year, (thursday.ordinal - 1) / 7 + 1⟩

/-- The number of weeks begun in a year up to a date, where `start` (0 is Monday) begins a week. -/
def weeksBegun (d : Date) (start : Int) : Int :=
  (d.ordinal + 6 - (weekday d.dayNumber - start) % 7) / 7

/-- English names of the months. -/
def monthNames : List String :=
  ["January", "February", "March", "April", "May", "June", "July", "August", "September",
    "October", "November", "December"]

/-- English names of the days of the week, from Monday. -/
def weekdayNames : List String :=
  ["Monday", "Tuesday", "Wednesday", "Thursday", "Friday", "Saturday", "Sunday"]

end PathTemplate.Calendar
