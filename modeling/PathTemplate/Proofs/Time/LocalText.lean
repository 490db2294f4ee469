/-
# Local times read back where clocks show them once

The text of a local time has no offset, so it is not taken for a standard text
(`readStandard_of_writesClock`), and of the three forms of a local time it is
taken for the one that it is written in (`readLocal_of_writesClock`), a leap
second included. It stands for an instant if clocks in the zone show that time
exactly once, and for nothing if they show it twice or never: then it remains a
text. The instants at which clocks show it are far from the ends of the
calendar, so none of them is left out.

Key definitions: `WritesClock`, `WritesLocal`, `Zone.ShowsOnce`, `localPattern`.
Key theorems: `readLocal_of_writesClock`, `single_eq_some_iff`, `read_of_writesClock`,
`read_eq_some_iff`, `read_local_exact`.
-/
import PathTemplate.Proofs.Time.Resolution
import PathTemplate.Proofs.Value.Inference

namespace PathTemplate

open Calendar Decimal Text Text.Reader

namespace Time

/-- Whether a text writes a local time: as a date and a time of day, a `T` or a space between them,
or as a date alone, which stands for midnight. -/
inductive WritesLocal (l : LocalTime) : List Char → Prop
  | dateTime {sep : Char} (hsep : sep = 'T' ∨ sep = ' ') {fraction : List Char}
      (h : WritesFraction l.nanos fraction) :
      WritesLocal l (dateText l.date ++ sep :: (clockText l ++ fraction))
  | midnight (hs : l.secondOfDay = 0) (hn : l.nanos = 0) : WritesLocal l (dateText l.date)

/-- Whether a text writes what a clock shows: as `WritesLocal` has it, and inside a leap second as
second 60 and the fraction of that. -/
inductive WritesClock (l : LocalTime) : List Char → Prop
  | dateTime {sep : Char} (hsep : sep = 'T' ∨ sep = ' ') {fraction : List Char}
      (h : WritesFraction l.fraction fraction) :
      WritesClock l (dateText l.date ++ sep :: (clockText l ++ fraction))
  | midnight (hs : l.secondOfDay = 0) (hn : l.nanos = 0) : WritesClock l (dateText l.date)

/-- Outside leap seconds a local time is what a clock shows. -/
theorem WritesLocal.writesClock {l : LocalTime} (hn : l.nanos < nanosPerSecond) {cs : List Char}
    (h : WritesLocal l cs) : WritesClock l cs := by
  cases h with
  | dateTime hsep hfraction =>
    rw [← LocalTime.fraction_of_nanos_lt hn] at hfraction
    exact .dateTime hsep hfraction
  | midnight hs hzero => exact .midnight hs hzero

/-- Whether an instant is the only one that can be written at which clocks show a local time. -/
structure Zone.ShowsOnce (z : Zone) (l : LocalTime) (i : Instant) : Prop where
  inRange : InRange i.seconds
  shows : z.Shows i l
  unique : ∀ j, InRange j.seconds → z.Shows j l → j = i

/-! ### Readers of local times -/

/-- A year of four digits is taken without a sign. -/
theorem reads_year {n : Nat} (hn : n < tenTo 4) (rest : List Char) :
    Reads Reading.year (zeroPadded 4 n) (n : Int) rest := by
  obtain ⟨d, ds, hd, hdigit⟩ := exists_zeroPadded_eq_cons 4 n
  have hdigits : Reads (digits 1 4 >>= fun n => pure (n : Int)) (zeroPadded 4 n) n rest :=
    (reads_digits (by decide) (by decide) hn rest).bind_nil (reads_pure (n : Int) rest)
  refine (reads_blanks (stopsAt_zeroPadded 4 n rest)).nil_bind ?_
  unfold Reads at hdigits ⊢
  rw [hd, List.cons_append] at hdigits ⊢
  rw [get_bind_eq]
  -- the first character is neither sign
  refine (congrFun ?_ _).trans hdigits
  split
  · next h =>
    obtain ⟨rfl, -⟩ := List.cons.inj h
    exact absurd hdigit (by decide)
  · next h =>
    obtain ⟨rfl, -⟩ := List.cons.inj h
    exact absurd hdigit (by decide)
  · rfl

/-- A date with a year of four digits is taken as it is written. -/
theorem reads_localDate {d : Date} (hd : d.IsValid) (hy : 0 ≤ d.year ∧ d.year ≤ 9999)
    (rest : List Char) : Reads Reading.localDate (dateText d) d rest := by
  obtain ⟨hmonth, hday⟩ := date_fields_lt hd
  have hyear : ((d.year.toNat : Nat) : Int) = d.year := by omega
  rw [dateText_eq hy, Reading.localDate]
  refine (reads_year (year_lt hy) _).bind (.char_bind ?_)
  refine (readsField_number d.month hmonth _).bind (.char_bind ?_)
  refine (readsField_number d.day hday _).bind_nil ?_
  rw [hyear, date_eq_pure hd]
  exact reads_pure d rest

variable {l : LocalTime}

/-- A date and a time of day are taken together, if what stands between them is. -/
theorem reads_localDateTime (hy : 0 ≤ l.date.year ∧ l.date.year ≤ 9999) (hl : l.IsClockTime)
    {separator : Reader Unit} {sep : Char} {fraction : List Char}
    (hsep : Reads separator [sep] () (clockText l ++ fraction))
    (hfraction : WritesFraction l.fraction fraction) :
    Reads (Reading.localDateTime separator) (dateText l.date ++ sep :: (clockText l ++ fraction)) l
      [] := by
  refine (reads_localDate l.date_isValid hy _).bind ?_
  have hseparator : Reads separator [sep] () (clockText l ++ fraction ++ []) := by
    rw [List.append_nil]
    exact hsep
  refine hseparator.bind ?_
  exact reads_timeOfDay readsField_number hl hfraction nofun

theorem reads_midnight (hy : 0 ≤ l.date.year ∧ l.date.year ≤ 9999) (hs : l.secondOfDay = 0)
    (hn : l.nanos = 0) : Reads Reading.midnight (dateText l.date) l [] := by
  have hmidnight : LocalTime.ofFields l.date 0 0 0 0 = l := by
    have hclock : l.IsClockTime := .inl (by rw [hn]; decide)
    have hfields : l.hour = 0 ∧ l.minute = 0 ∧ l.second = 0 ∧ l.fraction = 0 := by
      unfold LocalTime.hour LocalTime.minute LocalTime.second LocalTime.fraction
      rw [hs, hn]
      decide
    have hwhole := LocalTime.ofFields_fields hclock
    rwa [hfields.1, hfields.2.1, hfields.2.2.1, hfields.2.2.2] at hwhole
  refine (reads_localDate l.date_isValid hy []).bind_nil ?_
  rw [hmidnight]
  exact reads_pure l []

/-! ### The form that a text is taken for -/

/-- A text without an offset is no standard text. -/
theorem readStandard_of_writesClock (hy : 0 ≤ l.date.year ∧ l.date.year ≤ 9999)
    (hl : l.IsClockTime) {cs : List Char} (h : WritesClock l cs) :
    readStandard cs = none := by
  refine whole_eq_none ?_
  cases h with
  | @dateTime sep hsep fraction hfraction =>
    have hseparator : (sep == 'T' || sep == 't' || sep == ' ') = true := by
      rcases hsep with rfl | rfl <;> rfl
    have htime : Reads (Reading.timeOfDay l.date (digits 2 2)) (clockText l ++ fraction) l [] :=
      reads_timeOfDay (readsField_digits (le_refl 2)) hl hfraction nofun
    have hrest := htime.bind_eq (f := fun l => do return l.toInstant (← Reading.offset))
    rw [List.append_nil] at hrest
    rw [standard_dateText l.date_isValid hy, charOf_bind_eq hseparator, hrest]
    rfl
  | midnight =>
    have hnone := standard_dateText l.date_isValid hy []
    rw [List.append_nil] at hnone
    rw [hnone]
    rfl

/-- What goes on with no separator is no date and time of day. -/
theorem localDateTime_eq_none (hy : 0 ≤ l.date.year ∧ l.date.year ≤ 9999)
    (separator : Reader Unit) (rest : List Char)
    (h : (separator >>= fun _ => Reading.timeOfDay l.date (Reading.number 2)) rest = none) :
    Reading.localDateTime separator (dateText l.date ++ rest) = none := by
  rw [Reading.localDateTime, (reads_localDate l.date_isValid hy rest).bind_eq]
  exact h

theorem stopsAt_clockText (l : LocalTime) (rest : List Char) :
    StopsAt isBlank (clockText l ++ rest) := by
  rw [clockText, List.append_assoc]
  exact stopsAt_zeroPadded 2 l.hour _

/-- **A text is taken for the local time that it writes.** -/
theorem readLocal_of_writesClock (hy : 0 ≤ l.date.year ∧ l.date.year ≤ 9999)
    (hl : l.IsClockTime) {cs : List Char} (h : WritesClock l cs) : readLocal cs = some l := by
  unfold readLocal
  cases h with
  | @dateTime sep hsep fraction hfraction =>
    rcases hsep with rfl | rfl
    · have h := reads_localDateTime hy hl (reads_char 'T' _) hfraction
      rw [h.whole_eq]
      rfl
    · have hblank := reads_space (stopsAt_clockText l fraction)
      have hT : (Reading.localDateTime (char 'T')).whole
          (dateText l.date ++ ' ' :: (clockText l ++ fraction)) = none :=
        whole_eq_none (localDateTime_eq_none hy _ _ (bind_eq_none (char_eq_none (by decide) _)))
      rw [hT, (reads_localDateTime hy hl hblank hfraction).whole_eq]
      rfl
  | midnight hs hzero =>
    have hT := whole_eq_none (localDateTime_eq_none hy (char 'T') [] rfl)
    have hblank := whole_eq_none (localDateTime_eq_none hy Reading.blanks [] rfl)
    rw [List.append_nil] at hT hblank
    rw [hT, hblank, (reads_midnight hy hs hzero).whole_eq]
    rfl

/-! ### The instants at which clocks show a time -/

/-- The years of four digits keep their distance from the ends of the calendar. -/
theorem day_bounds (hy : 0 ≤ l.date.year ∧ l.date.year ≤ 9999) :
    firstDay + 2 ≤ l.day ∧ l.day + 2 ≤ lastDay := by
  have hvalid := l.date_isValid
  have hday : l.date.dayNumber = l.day := Date.dayNumber_ofDayNumber _
  have hfirst : firstDay + 2 ≤ Date.monthStart 0 := by decide
  have hlast : Date.monthStart 120000 + 2 ≤ lastDay := by decide
  have hlow := hvalid.dayNumber_lt_monthStart (k := 0)
  have hhigh := hvalid.dayNumber_lt_monthStart (k := 120000)
  obtain ⟨hm1, hm2, -, -⟩ := hvalid
  unfold Date.monthIndex at hlow hhigh
  omega

theorem inRange_of_year (hy : 0 ≤ l.date.year ∧ l.date.year ≤ 9999) : InRange l.seconds := by
  have hdays := day_bounds hy
  unfold LocalTime.day at hdays
  exact ⟨by omega, by omega⟩

namespace Zone

variable {z : Zone} {i : Instant}

/-- Clocks show a time with a year of four digits at instants that can be written. -/
theorem Regular.inRange_of_shows (hz : z.Regular) (hy : 0 ≤ l.date.year ∧ l.date.year ≤ 9999)
    (hi : z.Shows i l) : InRange i.seconds := by
  have hdays := day_bounds hy
  have hoffset := hz.offset_periodAt i.seconds
  have hseconds := (shows_iff.mp hi).1
  rw [inRange_iff]
  unfold LocalTime.day secondsPerDay at *
  omega

theorem Regular.shows_of_mem (hz : z.Regular) {p : Period} (hp : p ∈ z.periodsShowing l.seconds) :
    z.Shows (l.toInstant p.offset) l := by
  rw [hz.mem_periodsShowing] at hp
  rw [shows_iff, LocalTime.toInstant]
  exact ⟨by rw [hp]; exact Int.sub_add_cancel l.seconds p.offset, rfl⟩

/-- The instants found for a time with a year of four digits are all there are. -/
theorem Regular.instantsOf_eq (hz : z.Regular) (hy : 0 ≤ l.date.year ∧ l.date.year ≤ 9999) :
    z.instantsOf l = (z.periodsShowing l.seconds).map fun p => l.toInstant p.offset := by
  refine if_pos ?_
  rw [List.all_eq_true]
  intro i hi
  obtain ⟨p, hp, rfl⟩ := List.mem_map.mp hi
  exact decide_eq_true (hz.inRange_of_shows hy (hz.shows_of_mem hp))

theorem Regular.mem_instantsOf (hz : z.Regular) (hy : 0 ≤ l.date.year ∧ l.date.year ≤ 9999) :
    i ∈ z.instantsOf l ↔ z.Shows i l := by
  rw [hz.instantsOf_eq hy, List.mem_map]
  constructor
  · rintro ⟨p, hp, rfl⟩
    exact hz.shows_of_mem hp
  · intro hi
    obtain ⟨hseconds, hnanos⟩ := shows_iff.mp hi
    have hinstant : l.toInstant (z.periodAt i.seconds).offset = i := by
      rw [LocalTime.toInstant, ← hseconds, ← hnanos, Int.add_sub_cancel]
    refine ⟨z.periodAt i.seconds, ?_, hinstant⟩
    rw [hz.mem_periodsShowing, ← hseconds, Int.add_sub_cancel]

theorem Regular.pairwise_instantsOf (hz : z.Regular) (hy : 0 ≤ l.date.year ∧ l.date.year ≤ 9999) :
    (z.instantsOf l).Pairwise fun i j => i.seconds < j.seconds := by
  rw [hz.instantsOf_eq hy, List.pairwise_map]
  exact hz.pairwise_periodsShowing l.seconds

/-- **The single instant of a time is the only one at which clocks show it.** -/
theorem Regular.single_eq_some_iff (hz : z.Regular) (hy : 0 ≤ l.date.year ∧ l.date.year ≤ 9999) :
    z.single l = some i ↔ z.ShowsOnce l i := by
  have honce : z.ShowsOnce l i ↔ ∀ j, j ∈ z.instantsOf l ↔ j = i := by
    simp only [hz.mem_instantsOf hy]
    constructor
    · rintro ⟨-, hi, hunique⟩ j
      exact ⟨fun hj => hunique j (hz.inRange_of_shows hy hj) hj, fun hj => hj ▸ hi⟩
    · intro h
      exact ⟨hz.inRange_of_shows hy ((h i).mpr rfl), (h i).mpr rfl, fun j _ hj => (h j).mp hj⟩
  have hpair := hz.pairwise_instantsOf hy
  rw [honce]
  unfold single
  generalize z.instantsOf l = is at hpair ⊢
  rcases is with _ | ⟨j, _ | ⟨k, ks⟩⟩
  · simp
  · simp only [Option.some.injEq, List.mem_singleton]
    exact ⟨fun h k => by rw [h], fun h => (h j).mp rfl⟩
  · -- two instants, of which only one can be `i`
    refine iff_of_false nofun fun h => ?_
    have hj := (h j).mp List.mem_cons_self
    have hk := (h k).mp (List.mem_cons_of_mem j List.mem_cons_self)
    have hlt : j.seconds < k.seconds := (List.pairwise_cons.mp hpair).1 k List.mem_cons_self
    rw [hj, hk] at hlt
    omega

end Zone

variable {z : Zone} {t : ZonedTime}

/-- The text of a local time is read as the single instant of that time. -/
theorem ZonedTime.read_of_writesClock (z : Zone) (hy : 0 ≤ l.date.year ∧ l.date.year ≤ 9999)
    (hl : l.IsClockTime) {cs : List Char} (h : WritesClock l cs) :
    ZonedTime.read z cs = (z.single l).map fun i => ⟨i, z⟩ := by
  have hguard : guard (InRange l.seconds) = (some () : Option Unit) := if_pos (inRange_of_year hy)
  have hlocal : ZonedTime.read z cs =
      (guard (InRange l.seconds) >>= fun _ => z.single l >>= fun i => some ⟨i, z⟩) := by
    unfold ZonedTime.read
    simp only [readStandard_of_writesClock hy hl h, readLocal_of_writesClock hy hl h]
    rfl
  rw [hlocal, hguard]
  cases z.single l with
  | none => rfl
  | some i => rfl

/-- **The text of a local time is read as the only instant at which clocks show that time.** -/
theorem ZonedTime.read_eq_some_iff (hz : z.Regular) (hy : 0 ≤ l.date.year ∧ l.date.year ≤ 9999)
    (hn : l.nanos < nanosPerSecond) {cs : List Char} (h : WritesLocal l cs) :
    ZonedTime.read z cs = some t ↔ t.zone = z ∧ z.ShowsOnce l t.instant := by
  rw [read_of_writesClock z hy (.inl hn) (h.writesClock hn), Option.map_eq_some_iff]
  simp only [hz.single_eq_some_iff hy]
  constructor
  · rintro ⟨i, hi, rfl⟩
    exact ⟨rfl, hi⟩
  · rintro ⟨rfl, ht⟩
    exact ⟨t.instant, ht, rfl⟩

/-- The text of a local time is a text if it is not read as a time. -/
theorem infer_of_writesLocal (z : Zone) (hy : 0 ≤ l.date.year ∧ l.date.year ≤ 9999)
    {cs : List Char} (h : WritesLocal l cs) :
    Value.infer z (String.ofList cs) =
      (ZonedTime.read z cs).elim (.text (String.ofList cs)) .time := by
  cases h with
  | dateTime => exact Value.infer_dateText z hy _
  | midnight =>
    have hdate := Value.infer_dateText z hy []
    rwa [List.append_nil] at hdate

/-! ### Written in a pattern -/

theorem writeTwo_zero {n : Nat} (hn : n < 100) : Pattern.writeTwo n .zero = twoDigits n := by
  have hall : ∀ n < 100, Pattern.writeTwo n .zero = twoDigits n := by decide +kernel
  exact hall n hn

/-- A year of four digits is written in a pattern as it is without one. -/
theorem writeYear_zero {y : Int} (hy : 0 ≤ y ∧ y ≤ 9999) :
    Pattern.writeYear y .zero = yearText y := by
  have hyear : yearText y = zeroPadded 4 y.toNat := if_pos hy
  unfold Pattern.writeYear
  rw [hyear]
  by_cases hfull : 1000 ≤ y ∧ y ≤ 9999
  · -- its digits are four without zeros in front
    have hlen : ¬ (decimal y.toNat).length ≤ 3 := by
      rw [decimal, Nat.length_toDigits_le_iff (by decide) (by decide)]
      omega
    rw [if_pos hfull, zeroPadded, padStart, Nat.sub_eq_zero_of_le (by omega), List.replicate_zero,
      List.nil_append]
  · have hnat : y.natAbs = y.toNat := by omega
    have hsign : ¬ y < 0 := by omega
    rw [if_neg hfull, if_pos hy]
    simp [Pattern.writeWide, hsign, hnat, zeroPadded]

/-- Year to second and the fraction, as in a standard text without its offset. -/
def localPattern : String := "%Y-%m-%dT%H:%M:%S%.f"

/-- The items of that pattern. -/
def localItems : List Pattern.Item :=
  [.number .year .zero, .literal '-', .number .month .zero, .literal '-', .number .day .zero,
    .literal 'T', .number .hour .zero, .literal ':', .number .minute .zero, .literal ':',
    .number .second .zero, .text .fraction]

theorem items_localPattern : Pattern.items localPattern.toList = some localItems := by
  decide

theorem write_localItems (hy : 0 ≤ t.wallClock.date.year ∧ t.wallClock.date.year ≤ 9999)
    (hclock : t.wallClock.IsClockTime) :
    Pattern.write t localItems = some (dateText t.wallClock.date ++
      'T' :: (clockText t.wallClock ++ fractionText t.wallClock.fraction)) := by
  obtain ⟨hmonth, hday⟩ := date_fields_lt t.wallClock.date_isValid
  obtain ⟨hhour, hminute, hsecond⟩ := LocalTime.fields_lt hclock
  have hhour' := writeTwo_zero (hhour.trans (by decide : 24 < 100))
  have hminute' := writeTwo_zero (hminute.trans (by decide : 60 < 100))
  have hsecond' := writeTwo_zero (hsecond.trans (by decide : 61 < 100))
  simp [localItems, Pattern.write, Pattern.Item.write, Pattern.NumberField.write,
    Pattern.TextField.write, writeYear_zero hy, writeTwo_zero hmonth, writeTwo_zero hday, hhour',
    hminute', hsecond', dateText, clockText]

/-- The pattern of date, time of day and fraction writes the local time. -/
theorem render_localPattern (hy : 0 ≤ t.wallClock.date.year ∧ t.wallClock.date.year ≤ 9999)
    (hclock : t.wallClock.IsClockTime) :
    (Value.time t).render (some localPattern) = .ok (String.ofList (dateText t.wallClock.date ++
      'T' :: (clockText t.wallClock ++ fractionText t.wallClock.fraction))) := by
  rw [Value.render, Value.renderTime, items_localPattern]
  simp only [write_localItems hy hclock]
  rfl

/-- **The text of a local time stands for the only instant at which clocks show it.** It is read as
a time if there is one such instant, to the nanosecond, and it stays a text if there are several or
none. A time that clocks show once comes back from the text of its date and time of day. -/
theorem ZonedTime.read_local_exact (hz : z.Regular) (hy : 0 ≤ l.date.year ∧ l.date.year ≤ 9999)
    (hn : l.nanos < nanosPerSecond) :
    (∀ cs, WritesLocal l cs →
      (∀ t, ZonedTime.read z cs = some t ↔ t.zone = z ∧ z.ShowsOnce l t.instant) ∧
      (∀ t, t.zone = z → z.ShowsOnce l t.instant →
        Value.infer z (String.ofList cs) = .time t) ∧
      ((∀ i, ¬ z.ShowsOnce l i) →
        Value.infer z (String.ofList cs) = .text (String.ofList cs))) ∧
    ∀ t : ZonedTime, t.zone = z → t.wallClock = l →
      (∀ j, InRange j.seconds → z.Shows j l → j = t.instant) →
      ∃ s, (Value.time t).render (some localPattern) = .ok s ∧ ZonedTime.read z s.toList = some t := by
  refine ⟨fun cs h => ⟨fun _ => read_eq_some_iff hz hy hn h, fun t hzone ht => ?_,
    fun hnone => ?_⟩, ?_⟩
  · have hread : ZonedTime.read z cs = some t := (read_eq_some_iff hz hy hn h).mpr ⟨hzone, ht⟩
    rw [infer_of_writesLocal z hy h, hread]
    rfl
  · have hread : ZonedTime.read z cs = none := by
      refine Option.eq_none_iff_forall_ne_some.mpr fun t ht => ?_
      exact hnone t.instant ((read_eq_some_iff hz hy hn h).mp ht).2
    rw [infer_of_writesLocal z hy h, hread]
    rfl
  · rintro t rfl rfl hunique
    have hshows : t.zone.Shows t.instant t.wallClock := rfl
    have hwhole := LocalTime.fraction_of_nanos_lt hn
    have hfraction := writesFraction_fractionText (n := t.wallClock.nanos) hn
    refine ⟨_, render_localPattern hy (.inl hn), ?_⟩
    rw [String.toList_ofList, hwhole, read_eq_some_iff hz hy hn (.dateTime (.inl rfl) hfraction)]
    exact ⟨rfl, hz.inRange_of_shows hy hshows, hshows, hunique⟩

/-- On the days when summer time begins and ends in New York: half past one is shown once on the
first, half past two not at all, and half past one twice on the second. -/
theorem ZonedTime.read_local_newYork2016 :
    ZonedTime.read Zone.newYork2016 "2016-03-13T01:30:00.25".toList =
        some ⟨⟨1457850600, 250000000⟩, Zone.newYork2016⟩ ∧
      Value.infer Zone.newYork2016 "2016-03-13 02:30:00" = .text "2016-03-13 02:30:00" ∧
      Value.infer Zone.newYork2016 "2016-11-06 01:30:00" = .text "2016-11-06 01:30:00" := by
  have hz := Zone.wellFormed_newYork2016.regular
  have hfraction : WritesFraction 250000000 ['.', '2', '5'] :=
    .digits ['2', '5'] (by decide) (by decide) (by simp)
  have honce := ((read_local_exact (l := ⟨1457832600, 250000000⟩) hz (by decide) (by decide)).1 _
    (.dateTime (.inl rfl) hfraction)).1
  have hskipped := ((read_local_exact (l := ⟨1457836200, 0⟩) hz (by decide) (by decide)).1 _
    (.dateTime (.inr rfl) .nothing)).2.2
  have htwice := ((read_local_exact (l := ⟨1478395800, 0⟩) hz (by decide) (by decide)).1 _
    (.dateTime (.inr rfl) .nothing)).2.2
  have hnone : Zone.newYork2016.single ⟨1457836200, 0⟩ = none ∧
      Zone.newYork2016.single ⟨1478395800, 0⟩ = none := by decide
  refine ⟨(honce _).mpr ⟨rfl, (hz.single_eq_some_iff (by decide)).mp (by decide)⟩,
    hskipped fun i hi => ?_, htwice fun i hi => ?_⟩
  · have hsome := (hz.single_eq_some_iff (by decide)).mpr hi
    exact absurd (hnone.1.symm.trans hsome) nofun
  · have hsome := (hz.single_eq_some_iff (by decide)).mpr hi
    exact absurd (hnone.2.symm.trans hsome) nofun

end Time

end PathTemplate
