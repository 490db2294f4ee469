/-
# The fields of a time read back

A date with a year from 0 to 9999 and a time of day are written in digits of
fixed number, and what reads such numbers takes them apart again. Only the
fraction has digits in any number: up to nine of them count, and they stop
where the text goes on with neither a digit nor a point. The fields make up
the local time they come from, if a leap second comes behind second 59 alone.

Key definitions: `LocalTime.IsClockTime`, `clockText`, `WritesFraction`, `ReadsField`.
Key theorems: `ofFields_fields`, `reads_fraction`, `reads_timeOfDay`, `standard_dateText`.
-/
import PathTemplate.Proofs.Calendar.Months
import PathTemplate.Proofs.Text.Reading
import PathTemplate.Time.Reader

namespace PathTemplate.Time

open Calendar Decimal Text Text.Reader

/-- Whether a clock can show a time: a leap second comes behind second 59. -/
def LocalTime.IsClockTime (l : LocalTime) : Prop :=
  l.nanos < nanosPerSecond ∨ l.nanos < 2 * nanosPerSecond ∧ l.seconds % 60 = 59

/-- A time of day as hours, minutes and seconds with colons. -/
def clockText (l : LocalTime) : List Char :=
  twoDigits l.hour ++ ':' :: (twoDigits l.minute ++ ':' :: twoDigits l.second)

/-- Whether a text writes nanoseconds as a fraction: as a point and up to nine digits, or as nothing
for zero. -/
inductive WritesFraction : Nat → List Char → Prop
  | nothing : WritesFraction 0 []
  | digits (ds : List Char) (hne : ds ≠ []) (hlen : ds.length ≤ 9)
      (hds : ∀ d ∈ ds, d.isDigit = true) :
      WritesFraction (digitsValue ds * tenTo (9 - ds.length)) ('.' :: ds)

/-- Whether a reader takes the numbers below 100 as two digits. -/
def ReadsField (field : Reader Nat) : Prop :=
  ∀ n, n < 100 → ∀ rest, Reads field (twoDigits n) n rest

/-! ### A local time and its fields -/

namespace LocalTime

variable {l : LocalTime}

/-- Within a second that is no leap second the fraction is all there is. -/
theorem fraction_of_nanos_lt (hn : l.nanos < nanosPerSecond) : l.fraction = l.nanos :=
  Nat.mod_eq_of_lt hn

theorem fields_lt (hl : l.IsClockTime) : l.hour < 24 ∧ l.minute < 60 ∧ l.second < 61 := by
  unfold IsClockTime at hl
  unfold hour minute second secondOfDay secondsPerDay nanosPerSecond at *
  omega

theorem day_add_secondOfDay (l : LocalTime) : l.day * secondsPerDay + l.secondOfDay = l.seconds := by
  unfold day secondOfDay secondsPerDay
  omega

theorem secondOfDay_eq (l : LocalTime) :
    l.hour * 3600 + l.minute * 60 + l.secondOfDay % 60 = l.secondOfDay := by
  unfold hour minute
  omega

/-- **The fields of a time make it up.** -/
theorem ofFields_fields (hl : l.IsClockTime) :
    ofFields l.date l.hour l.minute l.second l.fraction = l := by
  have hday : l.date.dayNumber = l.day := Date.dayNumber_ofDayNumber _
  have hsum := day_add_secondOfDay l
  have htime := secondOfDay_eq l
  unfold IsClockTime nanosPerSecond at hl
  by_cases hleap : l.nanos < 1000000000
  · have hsecond : l.second = l.secondOfDay % 60 := by
      unfold second nanosPerSecond
      rw [Nat.div_eq_of_lt hleap, Nat.add_zero]
    have hfraction := fraction_of_nanos_lt hleap
    have hseconds : l.day * secondsPerDay + (l.hour : Int) * 3600 + l.minute * 60 +
        ((l.secondOfDay % 60 : Nat) : Int) = l.seconds := by omega
    rw [ofFields, hday, hsecond, hfraction, if_neg (by omega), hseconds]
  · -- a leap second: the clock shows 60
    have hlast : l.secondOfDay % 60 = 59 := by
      unfold secondsPerDay at hsum
      omega
    have hsecond : l.second = 60 := by
      unfold second nanosPerSecond
      omega
    have hnanos : nanosPerSecond + l.fraction = l.nanos := by
      unfold fraction nanosPerSecond
      omega
    have hseconds : l.day * secondsPerDay + (l.hour : Int) * 3600 + l.minute * 60 + 59 =
        l.seconds := by omega
    rw [ofFields, hday, hsecond, if_pos rfl, hseconds, hnanos]

theorem date_isValid (l : LocalTime) : l.date.IsValid := Date.ofDayNumber_isValid _

end LocalTime

/-! ### Numbers -/

theorem readsField_digits {least : Nat} (h : least ≤ 2) : ReadsField (digits least 2) :=
  fun _ hn rest => reads_digits h (by decide) hn rest

theorem reads_blanks {rest : List Char} (h : StopsAt isBlank rest) :
    Reads Reading.blanks [] () rest := by
  change some ((), trimStart rest) = some ((), rest)
  rw [trimStart, h.dropWhile_eq]

theorem reads_space {rest : List Char} (h : StopsAt isBlank rest) :
    Reads Reading.blanks [' '] () rest := by
  change some ((), trimStart (' ' :: rest)) = some ((), rest)
  rw [trimStart, List.dropWhile_cons_of_pos (by decide), h.dropWhile_eq]

theorem isBlank_of_isDigit {c : Char} (h : c.isDigit = true) : isBlank c = false := by
  have hc : 48 ≤ c.toNat ∧ c.toNat ≤ 57 := Char.isDigit_iff_toNat.mp h
  simp only [isBlank, Bool.or_eq_false_iff, Bool.and_eq_false_iff, decide_eq_false_iff_not,
    beq_eq_false_iff_ne]
  omega

/-- A number in front of a text starts with a digit. -/
theorem exists_zeroPadded_eq_cons (width n : Nat) :
    ∃ d ds, zeroPadded width n = d :: ds ∧ d.isDigit = true := by
  obtain ⟨d, ds, hd⟩ := List.exists_cons_of_ne_nil (zeroPadded_ne_nil width n)
  exact ⟨d, ds, hd, isDigit_of_mem_zeroPadded (hd ▸ List.mem_cons_self)⟩

theorem stopsAt_zeroPadded (width n : Nat) (rest : List Char) :
    StopsAt isBlank (zeroPadded width n ++ rest) := by
  obtain ⟨d, ds, hd, hdigit⟩ := exists_zeroPadded_eq_cons width n
  rw [hd, List.cons_append, stopsAt_cons]
  exact isBlank_of_isDigit hdigit

theorem readsField_number : ReadsField (Reading.number 2) := by
  intro n hn rest
  exact (reads_blanks (stopsAt_zeroPadded 2 n rest)).nil_bind
    (readsField_digits (by decide) n hn rest)

/-! ### Fractions -/

/-- **The digits of a fraction are taken as nanoseconds.** -/
theorem reads_fraction {nanos : Nat} {cs rest : List Char} (h : WritesFraction nanos cs)
    (hrest : StopsAt (fun c => c.isDigit || c == '.') rest) :
    Reads Reading.fraction cs nanos rest := by
  cases h with
  | nothing =>
    cases rest with
    | nil => rfl
    | cons c rest =>
      have hc : c ≠ '.' := by
        rintro rfl
        exact absurd (stopsAt_cons.mp hrest) (by decide)
      unfold Reads Reading.fraction
      rw [List.nil_append]
      split
      · next h => exact absurd (List.cons.inj h).1 hc
      · rfl
  | digits ds hne hlen hds =>
    have hstop : StopsAt Char.isDigit rest := fun c hc => (Bool.or_eq_false_iff.mp (hrest c hc)).1
    unfold Reads Reading.fraction
    simp only [List.cons_append, takeWhile_stop hds hstop, dropWhile_stop hds hstop,
      List.take_of_length_le hlen, List.isEmpty_eq_false_iff.mpr hne, Bool.false_eq_true, if_false]

theorem writesFraction_zeroPadded (width n : Nat) (hw : 0 < width) (hmost : width ≤ 9)
    (hn : n < tenTo width) :
    WritesFraction (n * tenTo (9 - width)) ('.' :: zeroPadded width n) := by
  have hlen := length_zeroPadded hw hn
  have hne : zeroPadded width n ≠ [] := by
    intro h
    rw [h] at hlen
    exact absurd hlen hw.ne
  have h := WritesFraction.digits _ hne (hlen.trans_le hmost) fun _ => isDigit_of_mem_zeroPadded
  rwa [digitsValue_zeroPadded, hlen] at h

/-- The fraction of a standard text is one. -/
theorem writesFraction_fractionText {n : Nat} (hn : n < nanosPerSecond) :
    WritesFraction n (fractionText n) := by
  have hplaces : tenTo 3 = 1000 ∧ tenTo 6 = 1000000 ∧ tenTo 9 = 1000000000 := ⟨rfl, rfl, rfl⟩
  unfold nanosPerSecond at hn
  unfold fractionText
  split_ifs with hzero hmilli hmicro
  · rw [hzero]
    exact .nothing
  · have hvalue : n / 1000000 * tenTo (9 - 3) = n := by
      change n / 1000000 * 1000000 = n
      omega
    have h := writesFraction_zeroPadded 3 (n / 1000000) (by decide) (by decide) (by omega)
    rwa [hvalue] at h
  · have hvalue : n / 1000 * tenTo (9 - 6) = n := by
      change n / 1000 * 1000 = n
      omega
    have h := writesFraction_zeroPadded 6 (n / 1000) (by decide) (by decide) (by omega)
    rwa [hvalue] at h
  · have h := writesFraction_zeroPadded 9 n (by decide) (by decide) (by omega)
    rwa [Nat.sub_self, tenTo_zero, Nat.mul_one] at h

/-! ### Times of day and dates -/

/-- A time of day is taken with its fraction. -/
theorem reads_timeOfDay {field : Reader Nat} (hfield : ReadsField field) {l : LocalTime}
    (hl : l.IsClockTime) {cs rest : List Char} (hcs : WritesFraction l.fraction cs)
    (hrest : StopsAt (fun c => c.isDigit || c == '.') rest) :
    Reads (Reading.timeOfDay l.date field) (clockText l ++ cs) l rest := by
  obtain ⟨hhour, hminute, hsecond⟩ := LocalTime.fields_lt hl
  have haccept : decide (l.hour ≤ 23 ∧ l.minute ≤ 59 ∧ l.second ≤ 60) = true :=
    decide_eq_true ⟨by omega, by omega, by omega⟩
  have htext : clockText l ++ cs = twoDigits l.hour ++ ':' :: (twoDigits l.minute ++ ':' ::
      (twoDigits l.second ++ cs)) := by
    simp [clockText]
  rw [htext]
  refine (hfield l.hour (by omega) _).bind (.char_bind ?_)
  refine (hfield l.minute (by omega) _).bind (.char_bind ?_)
  refine (hfield l.second (by omega) _).bind ((reads_fraction hcs hrest).bind_nil ?_)
  rw [LocalTime.ofFields_fields hl]
  exact reads_accept haccept l rest

/-- A date with a year of four digits has all its digits in fixed number. -/
theorem dateText_eq {d : Date} (hy : 0 ≤ d.year ∧ d.year ≤ 9999) :
    dateText d =
      zeroPadded 4 d.year.toNat ++ '-' :: (twoDigits d.month ++ '-' :: twoDigits d.day) := by
  rw [dateText, yearText, if_pos hy, List.append_assoc]
  rfl

theorem date_fields_lt {d : Date} (hd : d.IsValid) : d.month < 100 ∧ d.day < 100 := by
  have hmost := (daysInMonth_bounds d.year d.month).2
  obtain ⟨-, hm, -, hday⟩ := hd
  omega

theorem year_lt {d : Date} (hy : 0 ≤ d.year ∧ d.year ≤ 9999) : d.year.toNat < tenTo 4 := by
  have hten : tenTo 4 = 10000 := rfl
  omega

/-- A reader of dates gives one that is in the calendar. -/
theorem date_eq_pure {d : Date} (hd : d.IsValid) : Reading.date d.year d.month d.day = pure d := by
  unfold Reading.date accept
  exact if_pos (decide_eq_true hd)

/-- **Behind a date in its standard text a time of day and an offset are taken.** -/
theorem standard_dateText {d : Date} (hd : d.IsValid) (hy : 0 ≤ d.year ∧ d.year ≤ 9999)
    (rest : List Char) :
    Reading.standard (dateText d ++ rest) =
      (do
        let _ ← charOf fun c => c == 'T' || c == 't' || c == ' '
        let l ← Reading.timeOfDay d (digits 2 2)
        return l.toInstant (← Reading.offset) : Reader Instant) rest := by
  have hfield : ReadsField (digits 2 2) := readsField_digits (le_refl 2)
  obtain ⟨hmonth, hday⟩ := date_fields_lt hd
  have hyear : ((d.year.toNat : Nat) : Int) = d.year := by omega
  have htext : dateText d ++ rest = zeroPadded 4 d.year.toNat ++ '-' :: (twoDigits d.month ++
      '-' :: (twoDigits d.day ++ rest)) := by
    rw [dateText_eq hy]
    simp
  rw [htext, Reading.standard, (reads_digits (le_refl 4) (by decide) (year_lt hy) _).bind_eq,
    char_bind_eq, (hfield d.month hmonth _).bind_eq, char_bind_eq, (hfield d.day hday _).bind_eq,
    hyear, date_eq_pure hd]
  rfl

end PathTemplate.Time
