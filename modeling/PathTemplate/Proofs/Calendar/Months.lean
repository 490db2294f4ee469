/-
# Months and day numbers

Months are counted through from January of year 0. The first of each month
comes as many days after the first of the month before as that month has days
(`monthStart_succ`), and 1970-01-01 is day 0, so the day numbers are those of
the Gregorian calendar. Dates of the calendar are in the order of their day
numbers: a day number belongs to exactly one date (`dayNumber_inj`), which is
the one `Date.ofDayNumber` gives (`ofDayNumber_isValid`).

Key definitions: `Date.monthIndex`, `Date.monthStart`.
Key theorems: `monthStart_succ`, `monthStart_lt_iff`, `dayNumber_inj`,
`ofDayNumber_isValid`, `ofDayNumber_dayNumber`.
-/
import Mathlib.Order.Monotone.Basic
import Mathlib.Tactic.IntervalCases
import PathTemplate.Calendar.Date

namespace PathTemplate.Calendar

theorem daysInMonth_bounds (y : Int) (m : Nat) : 28 ≤ daysInMonth y m ∧ daysInMonth y m ≤ 31 := by
  unfold daysInMonth
  split_ifs <;> omega

namespace Date

/-- The months from January of year 0 to the month of a date. -/
def monthIndex (d : Date) : Int := d.year * 12 + d.month - 1

/-- The day number of the first of a month. -/
def monthStart (k : Int) : Int := (Date.mk (k / 12) ((k % 12).toNat + 1) 1).dayNumber

theorem dayNumber_eq {d : Date} (h : d.IsValid) :
    d.dayNumber = monthStart d.monthIndex + d.day - 1 := by
  obtain ⟨h1, h2, -, -⟩ := h
  have hy : d.monthIndex / 12 = d.year := by unfold monthIndex; omega
  have hm : (d.monthIndex % 12).toNat + 1 = d.month := by unfold monthIndex; omega
  rw [monthStart, hy, hm]
  simp only [dayNumber]
  omega

/-- From one first of March to the next there is a leap day if the later year has one. -/
theorem daysBeforeMarch_succ (y : Int) :
    daysBeforeMarch (y + 1) = daysBeforeMarch y + (if isLeapYear (y + 1) then 366 else 365) := by
  unfold daysBeforeMarch isLeapYear
  split
  · next h => simp at h; omega
  · next h => simp at h; omega

/-- January and February belong to the year counted from the March before. -/
theorem monthStart_eq (k : Int) :
    monthStart k =
      if k % 12 < 2 then daysBeforeMarch (k / 12 - 1) + daysBeforeMonth (k % 12 + 10) - 719468
      else daysBeforeMarch (k / 12) + daysBeforeMonth (k % 12 - 2) - 719468 := by
  have h0 : 0 ≤ k % 12 := Int.emod_nonneg _ (by decide)
  simp only [monthStart, dayNumber, daysBeforeMonth]
  split_ifs <;> omega

/-- **Each month has its days.** -/
theorem monthStart_succ (k : Int) :
    monthStart (k + 1) = monthStart k + daysInMonth (k / 12) ((k % 12).toNat + 1) := by
  have h0 : 0 ≤ k % 12 := Int.emod_nonneg _ (by decide)
  have h1 : k % 12 < 12 := Int.emod_lt_of_pos _ (by decide)
  have hmarch := daysBeforeMarch_succ (k / 12 - 1)
  rw [Int.sub_add_cancel] at hmarch
  rw [monthStart_eq, monthStart_eq]
  by_cases hdec : k % 12 = 11
  · have e1 : (k + 1) / 12 = k / 12 + 1 := by omega
    have e2 : (k + 1) % 12 = 0 := by omega
    rw [e1, e2, hdec]
    simp [daysBeforeMonth, daysInMonth]
    omega
  · have e1 : (k + 1) / 12 = k / 12 := by omega
    have e2 : (k + 1) % 12 = k % 12 + 1 := by omega
    rw [e1, e2]
    generalize k / 12 = y at *
    generalize k % 12 = m at *
    have hm : m ≤ 10 := by omega
    clear hdec h1 e1 e2
    interval_cases m <;> simp [daysBeforeMonth, daysInMonth] <;> split_ifs at * <;> omega

theorem monthStart_lt_iff {j k : Int} : monthStart j < monthStart k ↔ j < k := by
  have hmono : StrictMono monthStart := strictMono_int_of_lt_succ fun k => by
    have := daysInMonth_bounds (k / 12) ((k % 12).toNat + 1)
    rw [monthStart_succ]
    omega
  exact hmono.lt_iff_lt

theorem IsValid.daysInMonth_eq {d : Date} (h : d.IsValid) :
    daysInMonth (d.monthIndex / 12) ((d.monthIndex % 12).toNat + 1) =
      daysInMonth d.year d.month := by
  obtain ⟨h1, h2, -, -⟩ := h
  congr 1 <;> unfold monthIndex <;> omega

/-- A date lies in its month. -/
theorem IsValid.dayNumber_mem {d : Date} (h : d.IsValid) :
    monthStart d.monthIndex ≤ d.dayNumber ∧ d.dayNumber < monthStart (d.monthIndex + 1) := by
  have hd := h.daysInMonth_eq
  obtain ⟨-, -, h3, h4⟩ := id h
  rw [monthStart_succ, dayNumber_eq h, hd]
  omega

/-- A date comes before a month exactly when its own month does. -/
theorem IsValid.dayNumber_lt_monthStart {d : Date} (h : d.IsValid) {k : Int} :
    d.dayNumber < monthStart k ↔ d.monthIndex < k := by
  obtain ⟨h1, h2⟩ := h.dayNumber_mem
  have hbefore := monthStart_lt_iff (j := d.monthIndex) (k := k)
  have hafter := monthStart_lt_iff (j := k) (k := d.monthIndex + 1)
  omega

/-- **A day number belongs to one date.** -/
theorem dayNumber_inj {d e : Date} (hd : d.IsValid) (he : e.IsValid)
    (h : d.dayNumber = e.dayNumber) : d = e := by
  have hk : d.monthIndex = e.monthIndex := by
    have h1 := hd.dayNumber_lt_monthStart (k := e.monthIndex + 1)
    have h2 := he.dayNumber_lt_monthStart (k := d.monthIndex + 1)
    have h3 := hd.dayNumber_mem
    have h4 := he.dayNumber_mem
    omega
  have hday := dayNumber_eq hd
  rw [h, dayNumber_eq he, hk] at hday
  obtain ⟨h1, h2, -, -⟩ := hd
  obtain ⟨h3, h4, -, -⟩ := he
  unfold monthIndex at hk
  obtain ⟨y, m, n⟩ := d
  obtain ⟨y', m', n'⟩ := e
  simp only [Date.mk.injEq] at *
  omega

/-- The days passed since a first of March are fewer than there are to the next. -/
theorem splitYear_lt (n : Int) :
    (splitYear n).2 <
      daysBeforeMarch ((splitYear n).1 + 1) - daysBeforeMarch (splitYear n).1 := by
  simp only [splitYear, daysBeforeMarch]
  have h0 : 0 ≤ n % 146097 := Int.emod_nonneg _ (by decide)
  have h1 : n % 146097 < 146097 := Int.emod_lt_of_pos _ (by decide)
  generalize n / 146097 = era
  generalize n % 146097 = inEra at *
  generalize hc : min 3 (inEra / 36524) = century
  have hc' : 0 ≤ century ∧ century ≤ 3 := by omega
  generalize hi : inEra - 36524 * century = inCentury
  have hi' : 0 ≤ inCentury ∧ inCentury ≤ 36524 ∧ (century < 3 → inCentury < 36524) := by omega
  clear hc hi
  generalize hq : inCentury / 1461 = quad
  have hq' : 0 ≤ quad ∧ quad ≤ 24 := by omega
  generalize hj : inCentury - 1461 * quad = inQuad
  have hj' : 0 ≤ inQuad ∧ inQuad ≤ 1460 ∧ (century < 3 → quad = 24 → inQuad < 1460) := by omega
  clear hq hj
  generalize hy : min 3 (inQuad / 365) = year
  have hy' : 0 ≤ year ∧ year ≤ 3 := by omega
  -- only the fourth year of a group can have a leap day before its end
  rcases (by omega : year < 3 ∨ year = 3) with h | rfl
  · omega
  · omega

/-- **Every day number belongs to a date of the calendar.** -/
theorem ofDayNumber_isValid (n : Int) : (ofDayNumber n).IsValid := by
  have hb := splitYear_bounds (n + 719468)
  have hlt := splitYear_lt (n + 719468)
  rw [daysBeforeMarch_succ] at hlt
  unfold ofDayNumber
  generalize splitYear (n + 719468) = p at *
  obtain ⟨y, passed⟩ := p
  simp only at hb hlt ⊢
  obtain ⟨m, hm⟩ : ∃ m, (5 * passed + 2) / 153 = m := ⟨_, rfl⟩
  have h0 : 0 ≤ m := by omega
  have h11 : m ≤ 11 := by omega
  rw [hm]
  -- month 11 is the February of the next year, whose leap day bounds the days passed
  interval_cases m <;> simp [IsValid, daysBeforeMonth, daysInMonth] <;>
    split_ifs at * <;> omega

theorem ofDayNumber_dayNumber {d : Date} (h : d.IsValid) : ofDayNumber d.dayNumber = d :=
  dayNumber_inj (ofDayNumber_isValid _) h (dayNumber_ofDayNumber _)

theorem addMonths_isValid {d : Date} (h : d.IsValid) (n : Int) : (d.addMonths n).IsValid := by
  have hd := daysInMonth_bounds ((d.year * 12 + d.month - 1 + n) / 12)
    (((d.year * 12 + d.month - 1 + n) % 12).toNat + 1)
  obtain ⟨-, -, h3, -⟩ := h
  simp only [IsValid, addMonths]
  omega

theorem monthIndex_addMonths (d : Date) (n : Int) :
    (d.addMonths n).monthIndex = d.monthIndex + n := by
  simp only [monthIndex, addMonths]
  omega

end Date

end PathTemplate.Calendar
