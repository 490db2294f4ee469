/-
# Date-times of a context file

A date-time of a context file reaches its value by way of its text: it is
written, and the text is read as a time in the zone of the file. Nothing is lost
on the way. A fraction is written without the zeros at its end, and its digits
still say all nine places (`writesFraction_fractionText`). A date and a time of
day with an offset are taken for a standard text, those without one, and a date
alone, for what a clock in the zone shows. So the value is the one that the
fields say: with an offset the instant that is the offset before them, without
one the only instant at which clocks show them, and a fault where there is no
such instant or several.

Key definitions: `TimeOfDay.on`, `Stamp.IsValid`, `Stamp.shown?`, `Stamp.offset?`.
Key theorems: `readStandard_text`, `writesClock_text`, `valueOfItem_stamp_exact`.
-/
import PathTemplate.ContextFile
import PathTemplate.Proofs.Time.LocalText
import PathTemplate.Proofs.Time.StandardText

namespace PathTemplate

open Calendar Decimal Text Text.Reader Time

namespace Toml

/-! ### What the fields say -/

/-- Whether a clock shows a time of day; second 60 is a leap second. -/
structure TimeOfDay.IsValid (t : TimeOfDay) : Prop where
  hour : t.hour ≤ 23
  minute : t.minute ≤ 59
  second : t.second ≤ 60
  nanos : t.nanos < nanosPerSecond

/-- The time that a clock shows at a time of day of a date. In a leap second it is still second 59,
and the nanoseconds go on from that. -/
def TimeOfDay.on (t : TimeOfDay) (d : Date) : LocalTime where
  seconds := d.dayNumber * secondsPerDay +
    ((t.hour * 3600 + t.minute * 60 + min t.second 59 : Nat) : Int)
  nanos := t.nanos + if t.second = 60 then nanosPerSecond else 0

/-- The first time of day. -/
def TimeOfDay.midnight : TimeOfDay := ⟨0, 0, 0, 0⟩

/-- The seconds that an offset is ahead of universal time. -/
def Offset.seconds : Offset → Int
  | zulu => 0
  | minutes n => 60 * n

/-- Whether an offset is of less than a day. -/
def Offset.IsValid : Offset → Prop
  | zulu => True
  | minutes n => -(24 * 60) < n ∧ n < 24 * 60

/-- Whether a date is in the calendar and has a year of at most four digits. -/
structure IsStampDate (d : Date) : Prop where
  isValid : d.IsValid
  year : 0 ≤ d.year ∧ d.year ≤ 9999

namespace Stamp

/-- Whether the fields of a stamp are within their bounds. -/
def IsValid : Stamp → Prop
  | time t => t.IsValid
  | date d => IsStampDate d
  | wall d t => IsStampDate d ∧ t.IsValid
  | universal d t offset => IsStampDate d ∧ t.IsValid ∧ offset.IsValid

/-- The time that a clock shows at a stamp with a date: midnight at a date alone. -/
def shown? : Stamp → Option LocalTime
  | time _ => none
  | date d => some (TimeOfDay.midnight.on d)
  | wall d t | universal d t _ => some (t.on d)

/-- The offset that a stamp has. -/
def offset? : Stamp → Option Offset
  | universal _ _ offset => some offset
  | time _ | date _ | wall _ _ => none

end Stamp

/-! ### Fields of a time of day on a date -/

namespace TimeOfDay

variable {t : TimeOfDay} {d : Date}

theorem midnight_isValid : midnight.IsValid :=
  ⟨by decide, by decide, by decide, by decide⟩

theorem date_on (ht : t.IsValid) (hd : d.IsValid) : (t.on d).date = d := by
  obtain ⟨hhour, hminute, -, -⟩ := ht
  have hday : (t.on d).day = d.dayNumber := by
    unfold LocalTime.day on secondsPerDay
    simp only
    omega
  rw [LocalTime.date, hday, Date.ofDayNumber_dayNumber hd]

theorem secondOfDay_on (ht : t.IsValid) :
    (t.on d).secondOfDay = t.hour * 3600 + t.minute * 60 + min t.second 59 := by
  obtain ⟨hhour, hminute, -, -⟩ := ht
  unfold LocalTime.secondOfDay on secondsPerDay
  simp only
  omega

/-- **A clock on a date shows the fields of the time of day.** -/
theorem fields_on (ht : t.IsValid) : (t.on d).hour = t.hour ∧ (t.on d).minute = t.minute ∧
    (t.on d).second = t.second ∧ (t.on d).fraction = t.nanos := by
  have hseconds := secondOfDay_on (d := d) ht
  obtain ⟨hhour, hminute, hsecond, hnanos⟩ := ht
  unfold LocalTime.hour LocalTime.minute LocalTime.second LocalTime.fraction
  rw [hseconds]
  unfold on nanosPerSecond at *
  simp only
  split_ifs <;> omega

theorem isClockTime_on (ht : t.IsValid) : (t.on d).IsClockTime := by
  have hnanos := ht.nanos
  unfold LocalTime.IsClockTime on nanosPerSecond secondsPerDay at *
  simp only
  split_ifs with hleap
  · refine .inr ⟨by omega, ?_⟩
    rw [hleap]
    omega
  · exact .inl hnanos

/-- A time of day is written as the clock shows it. -/
theorem text_eq (ht : t.IsValid) :
    t.text = clockText (t.on d) ++ fractionText (t.on d).fraction := by
  obtain ⟨hhour, hminute, hsecond, hfraction⟩ := fields_on (d := d) ht
  rw [clockText, hhour, hminute, hsecond, hfraction, text]
  simp [twoDigits]

end TimeOfDay

/-! ### The texts of the fields -/

/-- A text is what is left of it without a run of a character at its end, and that run. -/
theorem exists_append_replicate (c : Char) (cs : List Char) :
    ∃ k, (cs.reverse.dropWhile (· == c)).reverse ++ List.replicate k c = cs := by
  have hrun : cs.reverse.takeWhile (· == c) =
      List.replicate (cs.reverse.takeWhile (· == c)).length c := by
    refine List.eq_replicate_of_mem fun b hb => ?_
    have hbc := List.mem_takeWhile_imp hb
    exact eq_of_beq hbc
  refine ⟨(cs.reverse.takeWhile (· == c)).length, ?_⟩
  rw [← List.reverse_replicate, ← hrun, ← List.reverse_append, List.takeWhile_append_dropWhile,
    List.reverse_reverse]

/-- **A fraction without the zeros at its end still says all its places.** -/
theorem writesFraction_fractionText {n : Nat} (hn : n < nanosPerSecond) :
    WritesFraction n (fractionText n) := by
  unfold fractionText
  split_ifs with hzero
  · rw [hzero]
    exact .nothing
  · obtain ⟨k, hk⟩ := exists_append_replicate '0' (zeroPadded 9 n)
    generalize ((zeroPadded 9 n).reverse.dropWhile (· == '0')).reverse = ds at hk ⊢
    have hlen : ds.length + k = 9 := by
      have h := congrArg List.length hk
      rwa [List.length_append, List.length_replicate, length_zeroPadded (by decide) hn] at h
    have hvalue : digitsValue ds * tenTo (9 - ds.length) = n := by
      have h := congrArg digitsValue hk
      rw [digitsValue_append, digitsValue_replicate_zero, List.length_replicate,
        digitsValue_zeroPadded] at h
      rw [← hlen, Nat.add_sub_cancel_left]
      exact h
    have hne : ds ≠ [] := by
      rintro rfl
      exact hzero (hvalue.symm.trans (Nat.zero_mul _))
    have hds : ∀ d ∈ ds, d.isDigit = true := fun d hd =>
      isDigit_of_mem_zeroPadded (hk ▸ List.mem_append_left _ hd)
    have h := WritesFraction.digits ds hne (by omega) hds
    rwa [hvalue] at h

theorem dateText_eq_dateText {d : Date} (hd : IsStampDate d) : dateText d = Time.dateText d := by
  rw [Time.dateText_eq hd.year, dateText]
  simp [twoDigits]

theorem Offset.text_minutes (n : Int) : (minutes n).text = offsetText (60 * n) true := by
  have habs : ((60 * n).natAbs + 30) / 60 = n.natAbs := by omega
  have hsign : offsetSign (60 * n) = if n < 0 then '-' else '+' := by
    unfold offsetSign
    exact if_congr (by omega) rfl rfl
  rw [offsetText, habs, hsign, text]
  simp [twoDigits]

/-- An offset stops the digits in front of it and is taken as its seconds. -/
theorem Offset.reads_text {offset : Offset} (h : offset.IsValid) :
    StopsAt (fun c => c.isDigit || c == '.') offset.text ∧
      Reads Reading.offset offset.text offset.seconds [] := by
  cases offset with
  | zulu => exact ⟨stopsAt_cons.mpr rfl, rfl⟩
  | minutes n =>
    obtain ⟨hlow, hhigh⟩ := h
    rw [text_minutes]
    refine ⟨stopsAt_offsetText _ true, reads_offset (by omega) ?_ []⟩
    unfold secondsPerDay
    omega

/-! ### The texts of stamps -/

namespace Stamp

variable {s : Stamp} {l : LocalTime}

theorem offset_isValid {offset : Offset} (hs : s.IsValid) (ho : s.offset? = some offset) :
    offset.IsValid := by
  cases s with
  | time t | date d | wall d t => cases ho
  | universal d t offset =>
    cases ho
    exact hs.2.2

/-- What a clock shows at a stamp has a year of four digits and is a time of a clock. -/
theorem isClockTime_shown (hs : s.IsValid) (hl : s.shown? = some l) :
    (0 ≤ l.date.year ∧ l.date.year ≤ 9999) ∧ l.IsClockTime := by
  have hfields {d : Date} {t : TimeOfDay} (hd : IsStampDate d) (ht : t.IsValid) :
      (0 ≤ (t.on d).date.year ∧ (t.on d).date.year ≤ 9999) ∧ (t.on d).IsClockTime := by
    rw [t.date_on ht hd.isValid]
    exact ⟨hd.year, t.isClockTime_on ht⟩
  cases s with
  | time t => cases hl
  | date d =>
    cases hl
    exact hfields hs TimeOfDay.midnight_isValid
  | wall d t =>
    cases hl
    exact hfields hs.1 hs.2
  | universal d t offset =>
    cases hl
    exact hfields hs.1 hs.2.1

/-- A date and a time of day are written as the clock shows them. -/
theorem text_wall {d : Date} {t : TimeOfDay} (hd : IsStampDate d) (ht : t.IsValid) :
    (wall d t).text = Time.dateText (t.on d).date ++
      'T' :: (clockText (t.on d) ++ fractionText (t.on d).fraction) := by
  rw [text, dateText_eq_dateText hd, t.text_eq ht, t.date_on ht hd.isValid]

theorem writesFraction_on {t : TimeOfDay} (ht : t.IsValid) (d : Date) :
    WritesFraction (t.on d).fraction (fractionText (t.on d).fraction) := by
  rw [(t.fields_on ht).2.2.2]
  exact writesFraction_fractionText ht.nanos

/-- **A stamp without an offset is written as a clock shows it.** -/
theorem writesClock_text (hs : s.IsValid) (hl : s.shown? = some l) (ho : s.offset? = none) :
    WritesClock l s.text := by
  cases s with
  | time t => cases hl
  | date d =>
    cases hl
    have hmidnight := TimeOfDay.midnight_isValid
    have h := WritesClock.midnight (TimeOfDay.secondOfDay_on (d := d) hmidnight) rfl
    rwa [TimeOfDay.date_on hmidnight hs.isValid, ← dateText_eq_dateText hs] at h
  | wall d t =>
    cases hl
    obtain ⟨hd, ht⟩ := hs
    rw [text_wall hd ht]
    exact .dateTime (.inl rfl) (writesFraction_on ht d)
  | universal d t offset => cases ho

/-- **A stamp with an offset is taken for the instant that is the offset before it.** -/
theorem readStandard_text {offset : Offset} (hs : s.IsValid) (hl : s.shown? = some l)
    (ho : s.offset? = some offset) : readStandard s.text = some (l.toInstant offset.seconds) := by
  obtain ⟨hy, hclock⟩ := isClockTime_shown hs hl
  cases s with
  | time t => cases hl
  | date d => cases ho
  | wall d t => cases ho
  | universal d t offset =>
    cases hl
    cases ho
    obtain ⟨hd, ht, hoffset⟩ := hs
    obtain ⟨hstop, hreads⟩ := Offset.reads_text hoffset
    have htext : (universal d t offset).text = Time.dateText (t.on d).date ++
        'T' :: (clockText (t.on d) ++ fractionText (t.on d).fraction ++ offset.text) := by
      have hwall := text_wall hd ht
      rw [text] at hwall
      rw [text, hwall, List.append_assoc]
      rfl
    rw [htext]
    exact (reads_standard_of_fields hy hclock (writesFraction_on ht d) hstop hreads).whole_eq

end Stamp

end Toml

open Toml

/-! ### The values of stamps -/

/-- An offset of less than a day leads from a year of four digits to an instant that can be
written. -/
theorem inRange_sub_seconds {l : LocalTime} (hy : 0 ≤ l.date.year ∧ l.date.year ≤ 9999)
    {offset : Offset} (h : offset.IsValid) : InRange (l.seconds - offset.seconds) := by
  have hdays := day_bounds hy
  have hbounds : -secondsPerDay < offset.seconds ∧ offset.seconds < secondsPerDay := by
    unfold secondsPerDay
    cases offset with
    | zulu => exact ⟨by decide, by decide⟩
    | minutes n =>
      obtain ⟨hlow, hhigh⟩ := h
      simp only [Offset.seconds]
      omega
  rw [inRange_iff]
  unfold LocalTime.day secondsPerDay at *
  omega

/-- Instants that cannot be written need not be looked at. -/
theorem Time.Zone.Regular.showsOnce_iff {z : Zone} (hz : z.Regular) {l : LocalTime}
    (hy : 0 ≤ l.date.year ∧ l.date.year ≤ 9999) {i : Instant} :
    z.ShowsOnce l i ↔ z.Shows i l ∧ ∀ j, z.Shows j l → j = i :=
  ⟨fun h => ⟨h.shows, fun j hj => h.unique j (hz.inRange_of_shows hy hj) hj⟩,
    fun h => ⟨hz.inRange_of_shows hy h.1, h.1, fun j _ => h.2 j⟩⟩

/-- There is not just one instant at which clocks show a time if there is none or there are two. -/
theorem Time.Zone.not_showsOnce_iff {z : Zone} {l : LocalTime} :
    (∀ i, ¬ (z.Shows i l ∧ ∀ j, z.Shows j l → j = i)) ↔
      (∀ i, ¬ z.Shows i l) ∨ ∃ i j, i ≠ j ∧ z.Shows i l ∧ z.Shows j l := by
  constructor
  · intro h
    by_cases hnone : ∃ i, z.Shows i l
    · obtain ⟨i, hi⟩ := hnone
      have hother : ∃ j, z.Shows j l ∧ j ≠ i := by
        by_contra hall
        push Not at hall
        exact h i ⟨hi, hall⟩
      obtain ⟨j, hj, hne⟩ := hother
      exact .inr ⟨j, i, hne, hj, hi⟩
    · exact .inl (not_exists.mp hnone)
  · rintro (hnone | ⟨i, j, hne, hi, hj⟩) k ⟨hk, hunique⟩
    · exact hnone k hk
    · exact hne ((hunique i hi).trans (hunique j hj).symm)

namespace ContextFile

variable {z : Zone} {s : Stamp} {l : LocalTime}

/-- **A date-time of a context file has the value that its fields say.** With an offset it is the
instant that is the offset before what the clock shows, and such an instant can always be written.
Without one it is the only instant at which clocks in the zone show the fields, and the date-time
is at fault if there is no such instant or more than one. -/
theorem valueOfItem_stamp_exact (hz : z.Regular) (hs : s.IsValid) (hl : s.shown? = some l)
    (name : String) :
    (∀ offset, s.offset? = some offset →
      InRange (l.seconds - offset.seconds) ∧
        valueOfItem z name (.stamp s) =
          .ok (.time ⟨⟨l.seconds - offset.seconds, l.nanos⟩, z⟩)) ∧
    (s.offset? = none →
      (∀ v, valueOfItem z name (.stamp s) = .ok v ↔
        ∃ i, v = .time ⟨i, z⟩ ∧ z.Shows i l ∧ ∀ j, z.Shows j l → j = i) ∧
      ∀ e, valueOfItem z name (.stamp s) = .error e ↔
        e = .invalidTime name (String.ofList s.text) ∧
          ((∀ i, ¬ z.Shows i l) ∨ ∃ i j, i ≠ j ∧ z.Shows i l ∧ z.Shows j l)) := by
  obtain ⟨hy, hclock⟩ := Stamp.isClockTime_shown hs hl
  have hdate : ∀ t, s ≠ .time t := by
    rintro t rfl
    cases hl
  rw [valueOfItem, valueOfStamp_eq hdate]
  constructor
  · intro offset ho
    have hread : ZonedTime.read z s.text = some ⟨l.toInstant offset.seconds, z⟩ := by
      rw [ZonedTime.read, Stamp.readStandard_text hs hl ho]
    rw [hread]
    exact ⟨inRange_sub_seconds hy (Stamp.offset_isValid hs ho), rfl⟩
  · intro ho
    rw [ZonedTime.read_of_writesClock z hy hclock (Stamp.writesClock_text hs hl ho)]
    have hsingle (i : Instant) : z.single l = some i ↔ z.Shows i l ∧ ∀ j, z.Shows j l → j = i :=
      (hz.single_eq_some_iff hy).trans (hz.showsOnce_iff hy)
    rw [← Zone.not_showsOnce_iff]
    simp only [← hsingle]
    cases z.single l with
    | none => simp [eq_comm]
    | some i => simp [eq_comm]

/-- A leap second of the year 0 with an offset, a date alone, and the hour that comes twice in New
York. -/
theorem valueOfItem_stamp_newYork2016 :
    valueOfItem Zone.newYork2016 "a" (.stamp (.universal ⟨0, 2, 29⟩ ⟨23, 59, 60, 120000000⟩
        (.minutes (-90)))) =
      .ok (.time ⟨⟨-62162029801, 1120000000⟩, Zone.newYork2016⟩) ∧
    valueOfItem Zone.newYork2016 "b" (.stamp (.date ⟨2016, 3, 13⟩)) =
      .ok (.time ⟨⟨1457845200, 0⟩, Zone.newYork2016⟩) ∧
    valueOfItem Zone.newYork2016 "c" (.stamp (.wall ⟨2016, 11, 6⟩ ⟨1, 30, 0, 0⟩)) =
      .error (.invalidTime "c" "2016-11-06T01:30:00") := by
  have hz := Zone.wellFormed_newYork2016.regular
  have hleap := valueOfItem_stamp_exact hz (s := .universal ⟨0, 2, 29⟩ ⟨23, 59, 60, 120000000⟩
    (.minutes (-90))) ⟨⟨by decide, by decide⟩, ⟨by decide, by decide, by decide, by decide⟩,
    by decide, by decide⟩ rfl "a"
  have hdate := valueOfItem_stamp_exact hz (s := .date ⟨2016, 3, 13⟩) ⟨by decide, by decide⟩ rfl "b"
  have htwice := valueOfItem_stamp_exact hz (s := .wall ⟨2016, 11, 6⟩ ⟨1, 30, 0, 0⟩)
    ⟨⟨by decide, by decide⟩, by decide, by decide, by decide, by decide⟩ rfl "c"
  have honce : Zone.newYork2016.ShowsOnce (TimeOfDay.midnight.on ⟨2016, 3, 13⟩) ⟨1457845200, 0⟩ :=
    (hz.single_eq_some_iff (by decide)).mp (by decide)
  refine ⟨(hleap.1 _ rfl).2, ((hdate.2 rfl).1 _).mpr ⟨_, rfl, ?_⟩,
    ((htwice.2 rfl).2 _).mpr ⟨rfl, .inr ?_⟩⟩
  · exact (hz.showsOnce_iff (by decide)).mp honce
  · exact ⟨⟨1478410200, 0⟩, ⟨1478413800, 0⟩, by decide, rfl, rfl⟩

end ContextFile

end PathTemplate
