/-
# Shifts by days there and back

A shift by days moves the local time and reads it in the zone. If the clocks
show the time that it moves to, the shift back reads the local time it set out
from: it gives the start, or the earlier occurrence when the clocks show that
local time twice, which is the most they do (`shows_twice`). If they skip it,
the way back sets out from behind the gap and arrives as much later as the gap
is wide. A leap second that is skipped is lost in the gap, unless the offset
before it is zero, and the way back arrives without it.

Key definitions: `LocalTime.daysLater`, `Zone.timeOf`, `Zone.IsEarliest`, `Change.width`.
Key theorems: `isEarliest_of_resolve`, `shows_twice`, `shift_day`, `shift_back_of_isShown`,
`shift_back_of_skips`, `shift_day_and_back`.
-/
import Mathlib.Data.List.Pairwise
import PathTemplate.Proofs.Time.ElapsedShift

namespace PathTemplate

open Decimal Time

/-- The days that a shift by days moves on. -/
def Shift.days (s : Shift) : Int := s.sign.apply s.magnitude

theorem Shift.days_back (s : Shift) : s.back.days = -s.days := Sign.apply_flip _ _

namespace Time

/-- The same time of day some days later. -/
def LocalTime.daysLater (l : LocalTime) (n : Int) : LocalTime := l.onDay (l.day + n)

/-- What a clock shows when it is put forward by some seconds. -/
def LocalTime.putForward (l : LocalTime) (n : Int) : LocalTime := ⟨l.seconds + n, l.nanos⟩

/-- The seconds that the clocks are put forward by at a change. -/
def Change.width (c : Change) : Int := c.after.offset - c.before.offset

/-- What clocks show at the instant that a local time is read as if a change skips it. -/
def Change.behindGap (c : Change) (l : LocalTime) : LocalTime :=
  ((⟨l.seconds, l.nanos⟩ : Instant).elapse (-c.before.offset)).toLocal c.after.offset

/-- What a local time stands for in a zone. -/
def Zone.timeOf (z : Zone) (l : LocalTime) : Except ShiftFault ZonedTime :=
  if InRange l.seconds then
    match z.resolve l with
    | some i => .ok ⟨i, z⟩
    | none => .error .outOfRange
  else .error .outOfRange

/-- Whether an instant is the first at which clocks show a local time. -/
def Zone.IsEarliest (z : Zone) (l : LocalTime) (i : Instant) : Prop :=
  z.Shows i l ∧ ∀ j, z.Shows j l → i.seconds ≤ j.seconds

theorem LocalTime.daysLater_eq (l : LocalTime) (n : Int) :
    l.daysLater n = l.putForward (n * secondsPerDay) := by
  simp only [daysLater, onDay, day, putForward, LocalTime.mk.injEq, and_true, secondsPerDay]
  omega

theorem LocalTime.daysLater_neg (l : LocalTime) (n : Int) : (l.daysLater n).daysLater (-n) = l := by
  simp only [daysLater_eq, putForward, Int.neg_mul, Int.add_neg_cancel_right]

theorem elapsed_add (s m : Int) (nanos : Nat) (n : Int) :
    elapsed (s + m) nanos n = ((elapsed s nanos n).1 + m, (elapsed s nanos n).2) := by
  unfold elapsed
  split_ifs <;> simp only [Prod.mk.injEq, and_true] <;> omega

theorem Change.behindGap_daysLater (c : Change) (l : LocalTime) (n : Int) :
    c.behindGap (l.daysLater n) = (c.behindGap l).daysLater n := by
  simp only [LocalTime.daysLater_eq, behindGap, LocalTime.putForward, Instant.elapse, elapsed_add,
    Instant.toLocal, LocalTime.mk.injEq, and_true]
  omega

/-- A skipped time is put forward by the width of the gap. -/
theorem Change.behindGap_of_readsExactly {c : Change} {l : LocalTime} (h : c.ReadsExactly l) :
    c.behindGap l = l.putForward c.width := by
  rw [behindGap, elapse_eq h]
  simp only [LocalTime.toInstant, Instant.toLocal, LocalTime.putForward, width,
    LocalTime.mk.injEq, and_true]
  omega

/-- A leap second that is skipped goes on as its second does, or as the next one. -/
theorem Change.behindGap_of_not_readsExactly {c : Change} {l : LocalTime}
    (h : ¬ c.ReadsExactly l) : c.behindGap l =
      ⟨l.seconds + c.width + (if 0 < c.before.offset then 1 else 0),
        l.nanos - nanosPerSecond⟩ := by
  rw [behindGap, elapse_leap h]
  simp only [Instant.toLocal, width, LocalTime.mk.injEq, and_true]
  omega

/-! ### How often clocks show a local time -/

namespace Zone

variable {z : Zone} {l : LocalTime} {i j k : Instant}

theorem eq_of_shows (hi : z.Shows i l) (hj : z.Shows j l) (h : i.seconds = j.seconds) : i = j := by
  have hnanos := (shows_iff.mp hi).2.trans (shows_iff.mp hj).2.symm
  obtain ⟨s, n⟩ := i
  obtain ⟨s', n'⟩ := j
  obtain rfl : s = s' := h
  obtain rfl : n = n' := hnanos
  rfl

/-- Between two instants at which clocks show the same there is a transition. -/
theorem exists_begins_of_shows (hi : z.Shows i l) (hj : z.Shows j l) (h : i.seconds < j.seconds) :
    ∃ t ∈ z.transitions, i.seconds < t.begins ∧ t.begins ≤ j.seconds := by
  have hsi := (shows_iff.mp hi).1
  have hsj := (shows_iff.mp hj).1
  have hne : z.periodAt i.seconds ≠ z.periodAt j.seconds := by
    intro he
    rw [he] at hsi
    omega
  obtain ⟨t, ht, hlow, hhigh⟩ := exists_begins_of_ne hne
  exact ⟨t, ht, by omega, by omega⟩

/-- **Clocks show a local time twice at most.** All its occurrences lie within two days, and the
changes between them are as far apart. -/
theorem Regular.shows_twice (hz : z.Regular) (hi : z.Shows i l) (hj : z.Shows j l)
    (hk : z.Shows k l) (hij : i.seconds < j.seconds) : k.seconds ≤ j.seconds := by
  by_contra hjk
  obtain ⟨t, ht, hit, htj⟩ := exists_begins_of_shows hi hj hij
  obtain ⟨u, hu, hju, huk⟩ := exists_begins_of_shows hj hk (by omega)
  have hspaced : Spaced t u ∨ Spaced u t := by
    have hpair := hz.pairwise.imp (S := fun a b => Spaced a b ∨ Spaced b a) Or.inl
    have : Std.Symm fun a b => Spaced a b ∨ Spaced b a := ⟨fun _ _ => Or.symm⟩
    refine hpair.forall ht hu ?_
    rintro rfl
    omega
  have hoi := hz.offset_periodAt i.seconds
  have hok := hz.offset_periodAt k.seconds
  have hsi := (shows_iff.mp hi).1
  have hsk := (shows_iff.mp hk).1
  unfold Spaced at hspaced
  omega

theorem IsEarliest.eq (hi : z.IsEarliest l i) (hj : z.IsEarliest l j) : i = j :=
  eq_of_shows hi.1 hj.1 (le_antisymm (hi.2 j hj.1) (hj.2 i hi.1))

/-- An occurrence with another one behind it is the earliest. -/
theorem Regular.isEarliest_of_lt (hz : z.Regular) (hj : z.Shows j l) (hk : z.Shows k l)
    (hjk : j.seconds < k.seconds) : z.IsEarliest l j := by
  refine ⟨hj, fun i hi => ?_⟩
  by_contra hij
  have := hz.shows_twice hi hj hk (by omega)
  omega

/-! ### What a local time is read as -/

theorem timeOf_of_resolve (hl : InRange l.seconds) (h : z.resolve l = some i) :
    z.timeOf l = .ok ⟨i, z⟩ := by
  rw [timeOf, if_pos hl, h]

theorem timeOf_eq_ok {u : ZonedTime} (h : z.timeOf l = .ok u) :
    InRange l.seconds ∧ z.resolve l = some u.instant ∧ u.zone = z := by
  unfold timeOf at h
  split_ifs at h with hl
  split at h
  · next i hi =>
    cases h
    exact ⟨hl, hi, rfl⟩
  · cases h

/-- A local time that is read and not skipped is read as its earliest occurrence. -/
theorem WellFormed.isEarliest_of_resolve (hz : z.WellFormed) (hl : InRange l.seconds)
    (hgap : ∀ c ∈ z.changes, ¬ c.Skips l.seconds) (h : z.resolve l = some i) :
    z.IsEarliest l i := by
  cases hps : z.periodsShowing l.seconds with
  | nil =>
    obtain ⟨c, hc, hs⟩ := exists_skips hps
    exact absurd hs (hgap c hc)
  | cons p ps =>
    by_cases hr : InRange (l.seconds - p.offset)
    · obtain rfl := Option.some.inj ((hz.resolve_of_inRange hps hr).symm.trans h)
      have hleast := hz.isLeast_of_periodsShowing hps
      exact ⟨shows_iff.mpr ⟨hleast.1, rfl⟩, fun j hj => hleast.2 (shows_iff.mp hj).1⟩
    · rw [hz.resolve_of_not_inRange hl hps hr] at h
      cases h

/-- A local time that clocks show at an instant that can be written is read. -/
theorem WellFormed.exists_timeOf_of_shows (hz : z.WellFormed) (hl : InRange l.seconds)
    (hj : z.Shows j l) (hr : InRange j.seconds) :
    ∃ i, z.timeOf l = .ok ⟨i, z⟩ ∧ z.IsEarliest l i := by
  obtain ⟨i, hi, hshows, -, hleast⟩ := hz.resolve_of_shows hj hr
  exact ⟨i, timeOf_of_resolve hl hi, hshows, hleast⟩

/-- No reading adds to the nanoseconds. -/
theorem WellFormed.nanos_le_of_resolve (hz : z.WellFormed) (hl : InRange l.seconds)
    (h : z.resolve l = some i) : i.nanos ≤ l.nanos := by
  by_cases hgap : ∀ c ∈ z.changes, ¬ c.Skips l.seconds
  · exact (shows_iff.mp (hz.isEarliest_of_resolve hl hgap h).1).2.le
  · push Not at hgap
    obtain ⟨c, hc, hs⟩ := hgap
    obtain rfl := Option.some.inj ((hz.resolve_of_skips hc hs).symm.trans h)
    simp only [Instant.elapse, elapsed]
    split_ifs <;> simp

/-- What clocks show at the instant that a skipped time is read as. -/
theorem WellFormed.shows_elapse_of_skips (hz : z.WellFormed) {c : Change} (hc : c ∈ z.changes)
    (hs : c.Skips l.seconds) :
    z.Shows ((⟨l.seconds, l.nanos⟩ : Instant).elapse (-c.before.offset)) (c.behindGap l) := by
  obtain ⟨hb, ha, -⟩ := hz.change_bounds hc
  have hgap := Change.skips_iff.mp hs
  have hsec := elapsed_seconds l.seconds l.nanos (-c.before.offset)
  have hafter : z.periodAt (elapsed l.seconds l.nanos (-c.before.offset)).1 = c.after :=
    hz.periodAt_after hc (by omega) (by unfold secondsPerDay at *; omega)
  rw [Change.behindGap, Shows]
  exact congrArg (fun p : Period => Instant.toLocal _ p.offset) hafter

end Zone

/-! ### There and back -/

namespace ZonedTime

variable {t u : ZonedTime} {s : Shift}

/-- Whether an instant is the first at which clocks show what they do at a time. It is that of the
time itself, or of the earlier occurrence if the time is the later one. -/
structure IsFirst (t : ZonedTime) (i : Instant) : Prop where
  earliest : t.zone.IsEarliest t.wallClock i
  eq_start : t.zone.IsEarliest t.wallClock t.instant → i = t.instant
  eq_earlier : ∀ j, t.zone.Shows j t.wallClock → j.seconds < t.instant.seconds → i = j

theorem isFirst_of_isEarliest (hz : t.zone.Regular) {i : Instant}
    (h : t.zone.IsEarliest t.wallClock i) : t.IsFirst i where
  earliest := h
  eq_start := h.eq
  eq_earlier := fun _ hj hlt => h.eq (hz.isEarliest_of_lt hj rfl hlt)

/-- A shift by days reads the time of day on another day. -/
theorem shift_day (hw : t.OnCalendar) (hs : s.unit = .day) :
    t.shift s = t.zone.timeOf (t.wallClock.daysLater s.days) := by
  obtain ⟨sign, n, u⟩ := s
  subst hs
  have hmonths : ¬ twoTo 32 ≤ shiftMonths ⟨sign, n, .day⟩ := Nat.not_le.mpr (twoTo_pos 32)
  have hclock : ¬ ¬ InRange t.wallClock.seconds := not_not_intro hw
  rw [shift_of_calendar rfl, shiftCalendar, if_neg hmonths, if_neg hclock]
  rfl

theorem unit_back (hs : s.unit = .day) : s.back.unit = .day := hs

/-- From a time that clocks show the way back leads to the earliest occurrence of the start. -/
theorem shift_back_of_isShown (hz : t.zone.WellFormed) (hr : InRange t.instant.seconds)
    (hw : t.OnCalendar) (hs : s.unit = .day) (h : t.shift s = .ok u)
    (hgap : ∀ c ∈ t.zone.changes, ¬ c.Skips (t.wallClock.daysLater s.days).seconds) :
    ∃ i, u.shift s.back = .ok ⟨i, t.zone⟩ ∧ t.zone.IsEarliest t.wallClock i := by
  rw [shift_day hw hs] at h
  obtain ⟨hin, hread, hzone⟩ := Zone.timeOf_eq_ok h
  obtain ⟨i, z⟩ := u
  subst hzone
  have hclock : (⟨i, t.zone⟩ : ZonedTime).wallClock = t.wallClock.daysLater s.days :=
    (hz.isEarliest_of_resolve hin hgap hread).1
  have hcal : (⟨i, t.zone⟩ : ZonedTime).OnCalendar := by
    rw [OnCalendar, hclock]
    exact hin
  rw [shift_day hcal (unit_back hs), hclock, Shift.days_back, LocalTime.daysLater_neg]
  exact hz.exists_timeOf_of_shows hw rfl hr

/-- From a time that clocks skip the way back leads behind the start, as far as the gap does. -/
theorem shift_back_of_skips (hz : t.zone.WellFormed) (hw : t.OnCalendar) (hs : s.unit = .day)
    (h : t.shift s = .ok u) {c : Change} (hc : c ∈ t.zone.changes)
    (hskips : c.Skips (t.wallClock.daysLater s.days).seconds) :
    u.shift s.back = t.zone.timeOf (c.behindGap t.wallClock) := by
  have hcal : u.OnCalendar := onCalendar_of_shift hz (by rw [hs]; rfl) h
  rw [shift_day hw hs] at h
  obtain ⟨-, hread, hzone⟩ := Zone.timeOf_eq_ok h
  have hi : (Instant.mk _ _).elapse (-c.before.offset) = u.instant :=
    Option.some.inj ((hz.resolve_of_skips hc hskips).symm.trans hread)
  have hclock : u.wallClock = (c.behindGap t.wallClock).daysLater s.days := by
    have hshows := hz.shows_elapse_of_skips hc hskips
    rw [hi, ← hzone, Change.behindGap_daysLater] at hshows
    exact hshows
  rw [shift_day hcal (unit_back hs), hclock, Shift.days_back, LocalTime.daysLater_neg, hzone]

/-- A shift by no days is done and leads to the earliest occurrence. -/
theorem shift_of_magnitude_eq_zero (hz : t.zone.WellFormed) (hr : InRange t.instant.seconds)
    (hw : t.OnCalendar) (hs : s.unit = .day) (hzero : s.magnitude = 0) :
    ∃ i, t.shift s = .ok ⟨i, t.zone⟩ ∧ t.zone.IsEarliest t.wallClock i := by
  have hdays : t.wallClock.daysLater s.days = t.wallClock := by
    rw [LocalTime.daysLater_eq, Shift.days, hzero]
    cases s.sign <;> simp [Sign.apply, LocalTime.putForward]
  rw [shift_day hw hs, hdays]
  exact hz.exists_timeOf_of_shows hw rfl hr

/-- The way back does not lead where the start put forward by the gap does, if it has lost a leap
second on the way and the clocks show that time. -/
theorem shift_back_ne_of_not_readsExactly (hz : t.zone.WellFormed) (hw : t.OnCalendar)
    (hs : s.unit = .day) (h : t.shift s = .ok u) {c : Change} (hc : c ∈ t.zone.changes)
    (hskips : c.Skips (t.wallClock.daysLater s.days).seconds)
    (hleap : ¬ c.ReadsExactly t.wallClock) {v : ZonedTime}
    (hv : t.zone.timeOf (t.wallClock.putForward c.width) = .ok v)
    (hgap : ∀ d ∈ t.zone.changes, ¬ d.Skips (t.wallClock.putForward c.width).seconds) :
    u.shift s.back ≠ .ok v := by
  intro hback
  rw [shift_back_of_skips hz hw hs h hc hskips, Change.behindGap_of_not_readsExactly hleap] at hback
  obtain ⟨hin, hread, -⟩ := Zone.timeOf_eq_ok hback
  obtain ⟨hin', hread', -⟩ := Zone.timeOf_eq_ok hv
  have hless := hz.nanos_le_of_resolve hin hread
  have hsame := (Zone.shows_iff.mp (hz.isEarliest_of_resolve hin' hgap hread').1).2
  unfold Change.ReadsExactly nanosPerSecond at hleap
  simp only [LocalTime.putForward, nanosPerSecond] at hless hsame
  omega

/-- **What a shift by days there and back leads to.** From a time that the clocks show, it leads to
the first occurrence of the start. From a time that they skip, it leads to what the start stands
for when it is put forward by the width of the gap; a leap second is lost on the way, unless the
offset before the gap is zero. A shift by no days leads to the first occurrence, and another one
leads no further. -/
theorem shift_day_and_back (hz : t.zone.WellFormed) (hr : InRange t.instant.seconds)
    (hw : t.OnCalendar) (hs : s.unit = .day) :
    (∀ u, t.shift s = .ok u →
      ((∀ c ∈ t.zone.changes, ¬ c.Skips (t.wallClock.daysLater s.days).seconds) →
        ∃ i, u.shift s.back = .ok ⟨i, t.zone⟩ ∧ t.IsFirst i) ∧
      ∀ c ∈ t.zone.changes, c.Skips (t.wallClock.daysLater s.days).seconds →
        (c.ReadsExactly t.wallClock →
          u.shift s.back = t.zone.timeOf (t.wallClock.putForward c.width)) ∧
        (¬ c.ReadsExactly t.wallClock →
          u.shift s.back = t.zone.timeOf
            ⟨t.wallClock.seconds + c.width + (if 0 < c.before.offset then 1 else 0),
              t.wallClock.nanos - nanosPerSecond⟩ ∧
          ∀ v, t.zone.timeOf (t.wallClock.putForward c.width) = .ok v →
            (∀ d ∈ t.zone.changes, ¬ d.Skips (t.wallClock.putForward c.width).seconds) →
            u.shift s.back ≠ .ok v)) ∧
    (s.magnitude = 0 → ∃ u, t.shift s = .ok u ∧ u.zone = t.zone ∧ t.IsFirst u.instant ∧
      u.shift s = .ok u) := by
  refine ⟨fun u h => ⟨fun hgap => ?_, fun c hc hskips => ⟨fun he => ?_, fun he => ⟨?_, ?_⟩⟩⟩,
    fun hzero => ?_⟩
  · obtain ⟨i, hi, hearliest⟩ := shift_back_of_isShown hz hr hw hs h hgap
    exact ⟨i, hi, isFirst_of_isEarliest hz.regular hearliest⟩
  · rw [shift_back_of_skips hz hw hs h hc hskips, Change.behindGap_of_readsExactly he]
  · rw [shift_back_of_skips hz hw hs h hc hskips, Change.behindGap_of_not_readsExactly he]
  · exact fun v hv hgap => shift_back_ne_of_not_readsExactly hz hw hs h hc hskips he hv hgap
  · obtain ⟨i, hi, hearliest⟩ := shift_of_magnitude_eq_zero hz hr hw hs hzero
    have hclock : (⟨i, t.zone⟩ : ZonedTime).wallClock = t.wallClock := hearliest.1
    have hcal : (⟨i, t.zone⟩ : ZonedTime).OnCalendar := by
      rw [OnCalendar, hclock]
      exact hw
    refine ⟨⟨i, t.zone⟩, hi, rfl, isFirst_of_isEarliest hz.regular hearliest, ?_⟩
    rw [← hi, shift_day hcal hs, shift_day hw hs, hclock]

/-- The second 01:30 of 2016-11-06 in New York, a day on and back, is the first one; 02:30 of
2016-03-12, with a gap a day on, comes back as 03:30. -/
theorem shift_day_and_back_newYork2016 :
    Zone.newYork2016.WellFormed ∧
      OnCalendar ⟨⟨1478413800, 0⟩, Zone.newYork2016⟩ ∧
      OnCalendar ⟨⟨1457767800, 0⟩, Zone.newYork2016⟩ ∧
      ZonedTime.shift ⟨⟨1478500200, 0⟩, Zone.newYork2016⟩ ⟨.minus, 1, .day⟩ =
        .ok ⟨⟨1478410200, 0⟩, Zone.newYork2016⟩ ∧
      ZonedTime.shift ⟨⟨1457854200, 0⟩, Zone.newYork2016⟩ ⟨.minus, 1, .day⟩ =
        .ok ⟨⟨1457771400, 0⟩, Zone.newYork2016⟩ := by
  have hz := Zone.wellFormed_newYork2016
  have hw₁ : OnCalendar ⟨⟨1478413800, 0⟩, Zone.newYork2016⟩ := by unfold OnCalendar; decide
  have hw₂ : OnCalendar ⟨⟨1457767800, 0⟩, Zone.newYork2016⟩ := by unfold OnCalendar; decide
  obtain ⟨hback, -⟩ := (shift_day_and_back (t := ⟨⟨1478413800, 0⟩, Zone.newYork2016⟩)
    (s := ⟨.plus, 1, .day⟩) hz (by decide) hw₁ rfl).1 ⟨⟨1478500200, 0⟩, Zone.newYork2016⟩ rfl
  obtain ⟨i, hi, hfirst⟩ := hback (by decide)
  obtain rfl := hfirst.eq_earlier ⟨1478410200, 0⟩ rfl (by decide)
  obtain ⟨-, hskip⟩ := (shift_day_and_back (t := ⟨⟨1457767800, 0⟩, Zone.newYork2016⟩)
    (s := ⟨.plus, 1, .day⟩) hz (by decide) hw₂ rfl).1 ⟨⟨1457854200, 0⟩, Zone.newYork2016⟩ rfl
  have hgap := (hskip ⟨⟨-18000, "EST"⟩, 1457852400, ⟨-14400, "EDT"⟩⟩ (by decide) (by decide)).1
    (.inl (by decide))
  exact ⟨hz, hw₁, hw₂, hi, hgap⟩

end ZonedTime

/-! ### A leap second in a gap -/

/-- Berlin in 2016. -/
def Zone.berlin2016 : Zone :=
  ⟨"Europe/Berlin", ⟨3600, "CET"⟩,
    [⟨1459040400, ⟨7200, "CEST"⟩⟩, ⟨1477789200, ⟨3600, "CET"⟩⟩]⟩

theorem Zone.wellFormed_berlin2016 : berlin2016.WellFormed where
  offsets := by decide
  spaced := by decide
  inside := by decide

/-- The leap second 02:59:60.5 of 2016-03-26, a day on and back, is 04:00:00.5 of that day and not
03:59:60.5. -/
theorem ZonedTime.shift_leap_berlin2016 :
    Zone.berlin2016.WellFormed ∧ InRange 1458957599 ∧
      OnCalendar ⟨⟨1458957599, 1500000000⟩, Zone.berlin2016⟩ ∧
      ∃ u, ZonedTime.shift ⟨⟨1458957599, 1500000000⟩, Zone.berlin2016⟩ ⟨.plus, 1, .day⟩ = .ok u ∧
        ∃ l, wallClock ⟨⟨1458957599, 1500000000⟩, Zone.berlin2016⟩ = l ∧
          ∃ c ∈ Zone.berlin2016.changes, c.Skips (l.daysLater 1).seconds ∧
            u.shift ⟨.minus, 1, .day⟩ ≠ Zone.berlin2016.timeOf (l.putForward c.width) :=
  ⟨Zone.wellFormed_berlin2016, by decide, by unfold OnCalendar; decide,
    ⟨⟨1459044000, 500000000⟩, Zone.berlin2016⟩, rfl, ⟨1458961199, 1500000000⟩, rfl,
    ⟨⟨3600, "CET"⟩, 1459040400, ⟨7200, "CEST"⟩⟩, by decide, by decide, by decide⟩

end Time

end PathTemplate
