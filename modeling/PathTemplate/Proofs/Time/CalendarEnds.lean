/-
# Shifts at the ends of the calendar

A shift by years, months or days starts from the date on the wall clock, and
such a shift leads to a date that can be written or is refused
(`onCalendar_of_shift`). A shift by hours, minutes or seconds is refused only
if the instant cannot be written. In a zone ahead of UTC the last hours of the
calendar, and in one behind it the first, are instants without a date: a clock
shift leads there, and a calendar shift right behind it finds no date to start
from and is neither done nor refused as out of range. Nothing else breaks a list
of shifts off (`shiftSteps_eq_brokenOff_iff`).

Key definitions: `ZonedTime.OnCalendar`, `Shift.AsksDate`, `LeavesCalendar`.
Key theorems: `onCalendar_of_shift`, `shiftSteps_eq_brokenOff_iff`, `shiftAll_time_exact`.
-/
import PathTemplate.Proofs.Time.Resolution
import PathTemplate.Value

namespace PathTemplate

open Decimal Time

/-- Whether the date that a clock shows can be written. -/
def Time.ZonedTime.OnCalendar (t : ZonedTime) : Prop := InRange t.wallClock.seconds

/-- Whether a shift starts from the date on the wall clock. One by more months than 32 bits hold is
refused before it does. -/
def Shift.AsksDate (s : Shift) : Prop := unitSeconds s.unit = none ∧ shiftMonths s < twoTo 32

/-- Whether a clock shift among some shifts leads to an instant without a date, and the shift right
behind it asks for the date. -/
def LeavesCalendar (t : ZonedTime) (ss : List Shift) : Prop :=
  ∃ before clock asking after u, ss = before ++ clock :: asking :: after ∧
    unitSeconds clock.unit ≠ none ∧ asking.AsksDate ∧
    (shiftSteps t (before ++ [clock])).2 = .ok u ∧ InRange u.instant.seconds ∧ ¬ u.OnCalendar

/-! ### One shift -/

/-- A local time is read as an instant at which clocks show a date that can be written. -/
theorem Time.Zone.WellFormed.inRange_of_resolve {z : Zone} (hz : z.WellFormed) {l : LocalTime}
    (hl : InRange l.seconds) {i : Instant} (h : z.resolve l = some i) :
    InRange (i.seconds + (z.periodAt i.seconds).offset) := by
  cases hps : z.periodsShowing l.seconds with
  | nil =>
    -- `l` is skipped, and the clocks go on at most an hour or so behind the gap
    obtain ⟨c, hc, hs⟩ := Zone.exists_skips hps
    obtain rfl := Option.some.inj ((hz.resolve_of_skips hc hs).symm.trans h)
    have hsec := elapsed_seconds l.seconds l.nanos (-c.before.offset)
    obtain ⟨hb, ha, hin⟩ := hz.change_bounds hc
    have hgap := Change.skips_iff.mp hs
    simp only [Instant.elapse]
    rw [hz.periodAt_after hc (by omega) (by omega), inRange_iff]
    unfold secondsPerDay at *
    omega
  | cons p ps =>
    by_cases hr : InRange (l.seconds - p.offset)
    · obtain rfl := Option.some.inj ((hz.resolve_of_inRange hps hr).symm.trans h)
      have hp := hz.mem_periodsShowing.mp (hps ▸ List.mem_cons_self : p ∈ z.periodsShowing l.seconds)
      simp only [LocalTime.toInstant, hp, Int.sub_add_cancel]
      exact hl
    · rw [hz.resolve_of_not_inRange hl hps hr] at h
      cases h

namespace Time.ZonedTime

variable {t u : ZonedTime} {s : Shift}

/-- What a calendar shift that is done does. -/
theorem shiftCalendar_eq_ok (h : t.shiftCalendar s = .ok u) :
    ∃ l i, InRange l.seconds ∧ t.zone.resolve l = some i ∧ u = { t with instant := i } := by
  simp only [shiftCalendar] at h
  split_ifs at h with _ _ hl
  split at h
  · next i hi => exact ⟨_, i, hl, hi, (Except.ok.inj h).symm⟩
  · cases h

/-- What a clock shift that is done does. -/
theorem shiftClock_eq_ok {n : Int} (h : t.shiftClock n = .ok u) :
    InRange u.instant.seconds ∧ u.zone = t.zone := by
  simp only [shiftClock] at h
  split_ifs at h with _ hi
  cases h
  exact ⟨hi, rfl⟩

theorem shift_of_clock {k : Nat} (hs : unitSeconds s.unit = some k) :
    t.shift s = t.shiftClock (s.sign.apply (s.magnitude * k)) := by
  rw [shift, hs]

theorem shift_of_calendar (hs : unitSeconds s.unit = none) : t.shift s = t.shiftCalendar s := by
  rw [shift, hs]

theorem zone_of_shift (h : t.shift s = .ok u) : u.zone = t.zone := by
  cases hs : unitSeconds s.unit with
  | none =>
    obtain ⟨_, _, -, -, rfl⟩ := shiftCalendar_eq_ok (shift_of_calendar hs ▸ h)
    rfl
  | some k => exact (shiftClock_eq_ok (shift_of_clock hs ▸ h)).2

/-- **A calendar shift leads to a date that can be written.** -/
theorem onCalendar_of_shift (hz : t.zone.WellFormed) (hs : unitSeconds s.unit = none)
    (h : t.shift s = .ok u) : u.OnCalendar := by
  obtain ⟨l, i, hl, hi, rfl⟩ := shiftCalendar_eq_ok (shift_of_calendar hs ▸ h)
  exact hz.inRange_of_resolve hl hi

/-- A shift finds no date to start from exactly if it asks for one that cannot be written. -/
theorem shift_eq_noWallClock_iff :
    t.shift s = .error .noWallClock ↔ s.AsksDate ∧ ¬ t.OnCalendar := by
  unfold Shift.AsksDate OnCalendar
  cases hs : unitSeconds s.unit with
  | none =>
    rw [shift_of_calendar hs, shiftCalendar]
    by_cases h32 : twoTo 32 ≤ shiftMonths s
    · simp [if_pos h32, Nat.not_lt.mpr h32]
    · rw [if_neg h32]
      by_cases hw : InRange t.wallClock.seconds
      · rw [if_neg (not_not_intro hw)]
        simp only
        split_ifs
        · split <;> simp [hw]
        · simp [hw]
      · simp [hw, Nat.lt_of_not_le h32]
  | some k =>
    rw [shift_of_clock hs]
    simp only [shiftClock]
    split_ifs <;> simp

end Time.ZonedTime

/-! ### A list of shifts -/

variable {t u : ZonedTime} {s : Shift} {ss : List Shift}

theorem shiftSteps_cons_of_ok (h : t.shift s = .ok u) :
    (shiftSteps t (s :: ss)).2 = (shiftSteps u ss).2 := by
  simp only [shiftSteps, h]

theorem shiftSteps_cons_of_error {fault : ShiftFault} (h : t.shift s = .error fault) :
    (shiftSteps t (s :: ss)).2 = .error (fault.halt s) := by
  simp only [shiftSteps, h]

/-- Behind some shifts that are done the others go on from where these lead. -/
theorem shiftSteps_append (h : (shiftSteps t ss).2 = .ok u) (us : List Shift) :
    (shiftSteps t (ss ++ us)).2 = (shiftSteps u us).2 := by
  induction ss generalizing t with
  | nil =>
    cases h
    rfl
  | cons s ss ih =>
    cases hs : t.shift s with
    | error fault =>
      rw [shiftSteps_cons_of_error hs] at h
      cases h
    | ok v =>
      rw [shiftSteps_cons_of_ok hs] at h
      rw [List.cons_append, shiftSteps_cons_of_ok hs, ih h]

/-- Shifts that are not done break off, or one of them is refused. -/
theorem exists_of_shiftSteps_eq_error {halt : Halt ValueError}
    (h : (shiftSteps t ss).2 = .error halt) :
    halt = .brokenOff ∨ ∃ s ∈ ss, halt = .failed (.timeOutOfRange s.shown) := by
  induction ss generalizing t with
  | nil => cases h
  | cons s ss ih =>
    cases hs : t.shift s with
    | error fault =>
      rw [shiftSteps_cons_of_error hs] at h
      cases h
      cases fault with
      | outOfRange => exact .inr ⟨s, List.mem_cons_self, rfl⟩
      | noWallClock => exact .inl rfl
    | ok v =>
      rw [shiftSteps_cons_of_ok hs] at h
      exact (ih h).imp_right fun ⟨s', hs', he⟩ => ⟨s', List.mem_cons_of_mem s hs', he⟩

/-- Whether the first of some shifts has its date, if it asks for one. -/
def StartsOnCalendar (t : ZonedTime) (ss : List Shift) : Prop :=
  t.OnCalendar ∨ ∀ s ∈ ss.head?, ¬ s.AsksDate

theorem not_startsOnCalendar_iff : ¬ StartsOnCalendar t ss ↔
    ¬ t.OnCalendar ∧ ∃ asking after, ss = asking :: after ∧ asking.AsksDate := by
  unfold StartsOnCalendar
  cases ss <;> simp

/-- Behind a shift that is done the calendar is left there, or later on. -/
theorem leavesCalendar_cons (hs : t.shift s = .ok u) : LeavesCalendar t (s :: ss) ↔
    (unitSeconds s.unit ≠ none ∧ InRange u.instant.seconds ∧ ¬ StartsOnCalendar u ss) ∨
      LeavesCalendar u ss := by
  constructor
  · rintro ⟨before, clock, asking, after, v, hcut, hclock, hasking, hv, hin, hoff⟩
    cases before with
    | nil =>
      obtain ⟨rfl, rfl⟩ := List.cons.inj hcut
      rw [List.nil_append, shiftSteps_cons_of_ok hs] at hv
      obtain rfl := Except.ok.inj hv
      refine .inl ⟨hclock, hin, ?_⟩
      rintro (h | h)
      · exact hoff h
      · exact h asking rfl hasking
    | cons b before =>
      obtain ⟨rfl, rfl⟩ := List.cons.inj hcut
      rw [List.cons_append, shiftSteps_cons_of_ok hs] at hv
      exact .inr ⟨before, clock, asking, after, v, rfl, hclock, hasking, hv, hin, hoff⟩
  · rintro (⟨hclock, hin, hstart⟩ | ⟨before, clock, asking, after, v, rfl, h⟩)
    · obtain ⟨hoff, asking, after, rfl, hasking⟩ := not_startsOnCalendar_iff.mp hstart
      refine ⟨[], s, asking, after, u, rfl, hclock, hasking, ?_, hin, hoff⟩
      rw [List.nil_append, shiftSteps_cons_of_ok hs]
      rfl
    · obtain ⟨hclock, hasking, hv, hin, hoff⟩ := h
      refine ⟨s :: before, clock, asking, after, v, rfl, hclock, hasking, ?_, hin, hoff⟩
      rw [List.cons_append, shiftSteps_cons_of_ok hs, hv]

theorem not_leavesCalendar_of_error {fault : ShiftFault} (hs : t.shift s = .error fault) :
    ¬ LeavesCalendar t (s :: ss) := by
  rintro ⟨before, clock, asking, after, v, hcut, -, -, hv, -⟩
  cases before with
  | nil =>
    obtain ⟨rfl, -⟩ := List.cons.inj hcut
    rw [List.nil_append, shiftSteps_cons_of_error hs] at hv
    cases hv
  | cons b before =>
    obtain ⟨rfl, -⟩ := List.cons.inj hcut
    rw [List.cons_append, shiftSteps_cons_of_error hs] at hv
    cases hv

/-- **A list of shifts breaks off exactly if it leaves the calendar.** -/
theorem shiftSteps_eq_brokenOff_iff (hz : t.zone.WellFormed) (ht : StartsOnCalendar t ss) :
    (shiftSteps t ss).2 = .error .brokenOff ↔ LeavesCalendar t ss := by
  induction ss generalizing t with
  | nil =>
    constructor
    · intro h
      cases h
    · rintro ⟨before, clock, asking, after, v, hcut, -⟩
      simp at hcut
  | cons s ss ih =>
    cases hs : t.shift s with
    | error fault =>
      have hfault : fault = .outOfRange := by
        cases fault with
        | outOfRange => rfl
        | noWallClock =>
          obtain ⟨hasks, hoff⟩ := ZonedTime.shift_eq_noWallClock_iff.mp hs
          exact (ht.elim hoff fun h => h s rfl hasks).elim
      subst hfault
      rw [shiftSteps_cons_of_error hs]
      refine iff_of_false ?_ (not_leavesCalendar_of_error hs)
      intro h
      cases h
    | ok u =>
      have hzu : u.zone.WellFormed := ZonedTime.zone_of_shift hs ▸ hz
      rw [shiftSteps_cons_of_ok hs, leavesCalendar_cons hs]
      by_cases hstart : StartsOnCalendar u ss
      · rw [ih hzu hstart]
        simp [hstart]
      · -- only a clock shift leads off the calendar, and the next shift asks for the date
        refine iff_of_true ?_ (.inl ⟨?_, ?_, hstart⟩)
        · obtain ⟨hoff, asking, after, rfl, hasks⟩ := not_startsOnCalendar_iff.mp hstart
          have ha := ZonedTime.shift_eq_noWallClock_iff.mpr ⟨hasks, hoff⟩
          exact shiftSteps_cons_of_error ha
        · intro hcal
          exact hstart (.inl (ZonedTime.onCalendar_of_shift hz hcal hs))
        · cases hunit : unitSeconds s.unit with
          | none => exact absurd (.inl (ZonedTime.onCalendar_of_shift hz hunit hs)) hstart
          | some k =>
            exact (ZonedTime.shiftClock_eq_ok (ZonedTime.shift_of_clock hunit ▸ hs)).1

/-- **What becomes of a time that is shifted.** If the shifts do not leave the calendar, every date
that one of them asks for can be written, and the answer is a time or that a shift is out of range.
If they leave it, a shift breaks off. -/
theorem Value.shiftAll_time_exact (hz : t.zone.WellFormed) (ht : t.OnCalendar) (ss : List Shift) :
    (¬ LeavesCalendar t ss →
      ((∃ u, (Value.time t).shiftAll ss = .ok (.time u)) ∨
        ∃ s ∈ ss, (Value.time t).shiftAll ss = .error (.failed (.timeOutOfRange s.shown))) ∧
      ∀ before s after u, ss = before ++ s :: after → (shiftSteps t before).2 = .ok u →
        s.AsksDate → u.OnCalendar) ∧
      (LeavesCalendar t ss → (Value.time t).shiftAll ss = .error .brokenOff) := by
  have hbreak : (shiftSteps t ss).2 = .error .brokenOff ↔ LeavesCalendar t ss :=
    shiftSteps_eq_brokenOff_iff hz (.inl ht)
  have hall : (Value.time t).shiftAll ss = Value.time <$> (shiftSteps t ss).2 := rfl
  rw [hall]
  constructor
  · intro hstay
    have hno : (shiftSteps t ss).2 ≠ .error .brokenOff := fun h => hstay (hbreak.mp h)
    constructor
    · cases h : (shiftSteps t ss).2 with
      | ok u => exact .inl ⟨u, rfl⟩
      | error halt =>
        rcases exists_of_shiftSteps_eq_error h with rfl | ⟨s, hs, rfl⟩
        · exact absurd h hno
        · exact .inr ⟨s, hs, rfl⟩
    · intro before s after u hcut hu hasks
      by_contra hoff
      have hfault := ZonedTime.shift_eq_noWallClock_iff.mpr ⟨hasks, hoff⟩
      refine hno ?_
      rw [hcut, shiftSteps_append hu, shiftSteps_cons_of_error hfault]
      rfl
  · intro hleave
    rw [hbreak.mpr hleave]
    rfl

/-! ### An hour ahead of UTC -/

/-- The zone an hour ahead of UTC. -/
def Time.Zone.hourAhead : Zone := ⟨"Etc/GMT-1", ⟨3600, "+01"⟩, []⟩

theorem Time.Zone.wellFormed_hourAhead : hourAhead.WellFormed where
  offsets := by decide
  spaced := by decide
  inside := by decide

/-- The start of the last day of the calendar, an hour ahead of UTC. -/
def Time.ZonedTime.lastMidnight : ZonedTime :=
  ⟨⟨lastDay * secondsPerDay - 3600, 0⟩, Zone.hourAhead⟩

theorem Time.ZonedTime.onCalendar_lastMidnight : lastMidnight.OnCalendar := by
  unfold OnCalendar
  decide

/-- At the start of the last day 25 hours are out of range, and a day behind 24 hours breaks off. -/
theorem Value.shiftAll_lastMidnight :
    Zone.hourAhead.WellFormed ∧ ZonedTime.lastMidnight.OnCalendar ∧
      ¬ LeavesCalendar ZonedTime.lastMidnight [⟨.plus, 25, .hour⟩] ∧
      (Value.time ZonedTime.lastMidnight).shiftAll [⟨.plus, 25, .hour⟩] =
        .error (.failed (.timeOutOfRange "+25 hours")) ∧
      LeavesCalendar ZonedTime.lastMidnight [⟨.plus, 24, .hour⟩, ⟨.plus, 1, .day⟩] ∧
      (Value.time ZonedTime.lastMidnight).shiftAll [⟨.plus, 24, .hour⟩, ⟨.plus, 1, .day⟩] =
        .error .brokenOff := by
  have hstay : ¬ LeavesCalendar ZonedTime.lastMidnight [⟨.plus, 25, .hour⟩] :=
    not_leavesCalendar_of_error rfl
  have hleave : LeavesCalendar ZonedTime.lastMidnight [⟨.plus, 24, .hour⟩, ⟨.plus, 1, .day⟩] :=
    ⟨[], ⟨.plus, 24, .hour⟩, ⟨.plus, 1, .day⟩, [],
      ⟨⟨(lastDay + 1) * secondsPerDay - 3600, 0⟩, Zone.hourAhead⟩, rfl, by decide,
      ⟨rfl, by decide⟩, rfl, by decide, by unfold ZonedTime.OnCalendar; decide⟩
  have hexact := shiftAll_time_exact Zone.wellFormed_hourAhead ZonedTime.onCalendar_lastMidnight
  obtain ⟨⟨u, hu⟩ | ⟨s, hs, herr⟩, -⟩ := (hexact [⟨.plus, 25, .hour⟩]).1 hstay
  · cases hu
  · obtain rfl := List.mem_singleton.mp hs
    exact ⟨Zone.wellFormed_hourAhead, ZonedTime.onCalendar_lastMidnight, hstay, herr, hleave,
      (hexact _).2 hleave⟩

/-- The last day of the calendar, 24 hours later, is an instant without a date: a day from there is
neither done nor out of range. -/
theorem Value.shiftAll_lastMidnight_breaksOff :
    Zone.hourAhead.WellFormed ∧ InRange ZonedTime.lastMidnight.instant.seconds ∧
      ZonedTime.lastMidnight.OnCalendar ∧
      (Value.time ZonedTime.lastMidnight).shiftAll [⟨.plus, 24, .hour⟩, ⟨.plus, 1, .day⟩] =
        .error .brokenOff :=
  ⟨Zone.wellFormed_hourAhead, by decide, ZonedTime.onCalendar_lastMidnight, rfl⟩

end PathTemplate
