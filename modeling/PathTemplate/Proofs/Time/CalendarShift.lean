/-
# Shifts by years, months and days

A calendar shift leads from a date to exactly one other, found by counting days
or months without bounds. The time of day goes with it to that date and is read
in the zone. The shift fails only if the date or the instant cannot be written:
a number of months too large for 32 bits leads past the calendar anyway.

Key definitions: `IsMonthsAfter`, `Leads`.
Key theorems: `existsUnique_leads`, `shift_eq_of_leads`, `shift_calendar_exact`.
-/
import PathTemplate.Proofs.Calendar.Months
import PathTemplate.Proofs.Time.Resolution
import PathTemplate.Time.Zoned

namespace PathTemplate.Time

open Calendar Decimal

/-- Whether a date is some months after another, its day lowered to the last of the month if need
be. -/
def IsMonthsAfter (d : Date) (n : Int) (e : Date) : Prop :=
  e.monthIndex = d.monthIndex + n ∧ e.day = min d.day (daysInMonth e.year e.month)

/-- Whether a calendar shift leads from a date to a date of the calendar. -/
def Leads (s : Shift) (d e : Date) : Prop :=
  e.IsValid ∧
    match s.unit with
    | .day => e.dayNumber = d.dayNumber + s.sign.apply s.magnitude
    | .month => IsMonthsAfter d (s.sign.apply s.magnitude) e
    | .year => IsMonthsAfter d (s.sign.apply (12 * s.magnitude)) e
    | _ => False

/-! ### The date that a shift leads to -/

theorem isValid_and_isMonthsAfter_iff {d e : Date} (hd : d.IsValid) {n : Int} :
    e.IsValid ∧ IsMonthsAfter d n e ↔ e = d.addMonths n := by
  constructor
  · rintro ⟨⟨h1, h2, -⟩, hk, hday⟩
    obtain ⟨y, m, day⟩ := e
    simp only [Date.monthIndex] at h1 h2 hk
    have hy : y = (d.year * 12 + d.month - 1 + n) / 12 := by omega
    have hm : m = ((d.year * 12 + d.month - 1 + n) % 12).toNat + 1 := by omega
    subst hy hm
    exact Date.mk.injEq .. ▸ ⟨rfl, rfl, hday⟩
  · rintro rfl
    exact ⟨Date.addMonths_isValid hd n, Date.monthIndex_addMonths d n, rfl⟩

theorem isValid_and_dayNumber_eq_iff {e : Date} {n : Int} :
    e.IsValid ∧ e.dayNumber = n ↔ e = Date.ofDayNumber n := by
  constructor
  · rintro ⟨h, rfl⟩
    exact (Date.ofDayNumber_dayNumber h).symm
  · rintro rfl
    exact ⟨Date.ofDayNumber_isValid n, Date.dayNumber_ofDayNumber n⟩

/-- A calendar shift leads to the date of the day that is computed. -/
theorem leads_iff {s : Shift} (hs : unitSeconds s.unit = none) {n : Int} {e : Date} :
    Leads s (Date.ofDayNumber n) e ↔ e = Date.ofDayNumber (targetDay n s) := by
  have hd := Date.ofDayNumber_isValid n
  have hmonths (k : Int) : Date.ofDayNumber ((Date.ofDayNumber n).addMonths k).dayNumber =
      (Date.ofDayNumber n).addMonths k := Date.ofDayNumber_dayNumber (Date.addMonths_isValid hd k)
  obtain ⟨sign, m, u⟩ := s
  cases u with
  | year => rw [Leads, isValid_and_isMonthsAfter_iff hd, targetDay, hmonths]; rfl
  | month => rw [Leads, isValid_and_isMonthsAfter_iff hd, targetDay, hmonths]; rfl
  | day => rw [Leads, isValid_and_dayNumber_eq_iff, targetDay, Date.dayNumber_ofDayNumber]
  | hour => simp [unitSeconds] at hs
  | minute => simp [unitSeconds] at hs
  | second => simp [unitSeconds] at hs

/-- **A calendar shift leads to one date.** -/
theorem existsUnique_leads {s : Shift} (hs : unitSeconds s.unit = none) {d : Date}
    (hd : d.IsValid) : ∃! e, Leads s d e := by
  rw [← Date.ofDayNumber_dayNumber hd]
  simp only [leads_iff hs, existsUnique_eq]

/-! ### The ends of the calendar -/

/-- A date can be written if its year can. -/
theorem dayNumber_mem_iff {d : Date} (hd : d.IsValid) :
    firstDay ≤ d.dayNumber ∧ d.dayNumber ≤ lastDay ↔ -262143 ≤ d.year ∧ d.year ≤ 262142 := by
  have hfirst : firstDay = Date.monthStart (-262143 * 12) := by decide
  have hlast : lastDay + 1 = Date.monthStart (262143 * 12) := by decide
  have h1 := hd.dayNumber_lt_monthStart (k := -262143 * 12)
  have h2 := hd.dayNumber_lt_monthStart (k := 262143 * 12)
  rw [← hfirst] at h1
  rw [← hlast] at h2
  obtain ⟨hm1, hm2, -⟩ := hd
  unfold Date.monthIndex at h1 h2
  omega

theorem inRange_onDay_iff {l : LocalTime} {d : Date} (hd : d.IsValid) :
    InRange (l.onDay d.dayNumber).seconds ↔ -262143 ≤ d.year ∧ d.year ≤ 262142 := by
  have he : (l.onDay d.dayNumber).seconds / secondsPerDay = d.dayNumber := by
    simp only [LocalTime.onDay, secondsPerDay]
    omega
  rw [InRange, he, dayNumber_mem_iff hd]

theorem unitSeconds_of_leads {s : Shift} {d e : Date} (he : Leads s d e) :
    unitSeconds s.unit = none := by
  obtain ⟨sign, m, u⟩ := s
  cases u with
  | year => rfl
  | month => rfl
  | day => rfl
  | hour => exact he.2.elim
  | minute => exact he.2.elim
  | second => exact he.2.elim

theorem monthIndex_of_leads {s : Shift} (h : shiftMonths s ≠ 0) {d e : Date} (he : Leads s d e) :
    e.monthIndex = d.monthIndex + s.sign.apply (shiftMonths s) := by
  obtain ⟨sign, m, u⟩ := s
  cases u with
  | year => exact he.2.1
  | month => exact he.2.1
  | day => exact absurd rfl h
  | hour => exact absurd rfl h
  | minute => exact absurd rfl h
  | second => exact absurd rfl h

/-- More months than 32 bits hold lead past the calendar. -/
theorem year_of_leads {s : Shift} (h : twoTo 32 ≤ shiftMonths s) {d e : Date} (hd : d.IsValid)
    (hy : -262143 ≤ d.year ∧ d.year ≤ 262142) (he : Leads s d e) :
    ¬ (-262143 ≤ e.year ∧ e.year ≤ 262142) := by
  have h32 : twoTo 32 = 4294967296 := rfl
  have hk := monthIndex_of_leads (by omega) he
  have hsign : s.sign.apply (shiftMonths s) = shiftMonths s ∨
      s.sign.apply (shiftMonths s) = -(shiftMonths s : Int) := by
    cases s.sign with
    | plus => exact .inl rfl
    | minus => exact .inr rfl
  obtain ⟨hd1, hd2, -⟩ := hd
  obtain ⟨he1, he2, -⟩ := he.1
  unfold Date.monthIndex at hk
  omega

namespace ZonedTime

variable {t : ZonedTime} {s : Shift} {e : Date}

/-- What a calendar shift does, without the bound on the months. -/
theorem shift_eq_of_leads (hw : InRange t.wallClock.seconds)
    (he : Leads s t.wallClock.date e) : t.shift s =
      if -262143 ≤ e.year ∧ e.year ≤ 262142 then
        match t.zone.resolve (t.wallClock.onDay e.dayNumber) with
        | some i => .ok { t with instant := i }
        | none => .error .outOfRange
      else .error .outOfRange := by
  have hs := unitSeconds_of_leads he
  have hday : targetDay t.wallClock.day s = e.dayNumber := by
    rw [LocalTime.date, leads_iff hs] at he
    rw [he, Date.dayNumber_ofDayNumber]
  have hd : t.wallClock.date.IsValid := Date.ofDayNumber_isValid _
  have hy : -262143 ≤ t.wallClock.date.year ∧ t.wallClock.date.year ≤ 262142 := by
    rw [← dayNumber_mem_iff hd, LocalTime.date, Date.dayNumber_ofDayNumber]
    exact hw
  rw [shift, hs]
  simp only [shiftCalendar, hday]
  by_cases h32 : twoTo 32 ≤ shiftMonths s
  · rw [if_pos h32, if_neg (year_of_leads h32 hd hy he)]
  · rw [if_neg h32, if_neg (not_not_intro hw)]
    exact if_congr (inRange_onDay_iff he.1) rfl rfl

/-- **A calendar shift is exact, and it fails exactly at the ends of the calendar.** It leads to one
date. It fails if that date cannot be written, or if the instant cannot at which the zone has the
time of day on it; otherwise it gives the instant that this local time is read as. -/
theorem shift_calendar_exact (hz : t.zone.WellFormed) (hw : InRange t.wallClock.seconds)
    (hs : unitSeconds s.unit = none) :
    (∃! e, Leads s t.wallClock.date e) ∧
      ∀ e l, Leads s t.wallClock.date e → l = t.wallClock.onDay e.dayNumber →
        (t.shift s = .error .outOfRange ↔ ¬ (-262143 ≤ e.year ∧ e.year ≤ 262142) ∨
          ∃ a, t.zone.Applies l.seconds a ∧ ¬ InRange (l.seconds - a)) ∧
        (t.shift s ≠ .error .outOfRange →
          ∃ i, t.zone.resolve l = some i ∧ t.shift s = .ok ⟨i, t.zone⟩) := by
  refine ⟨existsUnique_leads hs (Date.ofDayNumber_isValid _), ?_⟩
  rintro e l he rfl
  rw [shift_eq_of_leads hw he]
  by_cases hy : -262143 ≤ e.year ∧ e.year ≤ 262142
  · rw [← hz.resolve_eq_none_iff ((inRange_onDay_iff he.1).mpr hy), if_pos hy]
    cases hr : t.zone.resolve (t.wallClock.onDay e.dayNumber) with
    | none => simp [hy]
    | some i => simp [hy]
  · simp [hy]

/-- A month after the leap second 07:59:60.5 of 2016-01-31 in New York. -/
theorem shift_month_newYork2016 :
    Zone.newYork2016.WellFormed ∧
      InRange (wallClock ⟨⟨1454245199, 1500000000⟩, Zone.newYork2016⟩).seconds ∧
      Leads ⟨.plus, 1, .month⟩ ⟨2016, 1, 31⟩ ⟨2016, 2, 29⟩ ∧
      ZonedTime.shift ⟨⟨1454245199, 1500000000⟩, Zone.newYork2016⟩ ⟨.plus, 1, .month⟩ =
        .ok ⟨⟨1456750799, 1500000000⟩, Zone.newYork2016⟩ := by
  have hl : Leads ⟨.plus, 1, .month⟩ ⟨2016, 1, 31⟩ ⟨2016, 2, 29⟩ :=
    ⟨by decide, by decide, by decide⟩
  have hw : InRange (wallClock ⟨⟨1454245199, 1500000000⟩, Zone.newYork2016⟩).seconds := by decide
  obtain ⟨-, h⟩ := shift_calendar_exact (t := ⟨⟨1454245199, 1500000000⟩, Zone.newYork2016⟩)
    (s := ⟨.plus, 1, .month⟩) Zone.wellFormed_newYork2016 hw rfl
  obtain ⟨i, hi, hshift⟩ := (h ⟨2016, 2, 29⟩ _ hl rfl).2 nofun
  have he : i = ⟨1456750799, 1500000000⟩ := Option.some.inj (hi.symm.trans rfl)
  exact ⟨Zone.wellFormed_newYork2016, hw, hl, he ▸ hshift⟩

end ZonedTime

end PathTemplate.Time
