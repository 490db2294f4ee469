/-
# The standard text of a time reads back

The standard text has an offset, so it stands for one instant whatever the zone
that it is read in, and it says that instant to the nanosecond: the date and
the time of day make up what the clock shows (`ofFields_fields`), and the
offset leads from there to UTC. An offset is written in whole minutes and a year
in four digits, so both must be such, as offsets of less than a day can be; a
leap second is written as second 60.

Key theorems: `reads_offset`, `reads_standard_of_fields`, `reads_standard`,
`standardText_reads_back`.
-/
import PathTemplate.Proofs.Time.Resolution
import PathTemplate.Proofs.Value.Inference

namespace PathTemplate

open Calendar Decimal Text Text.Reader

namespace Time

theorem stopsAt_offsetText (offset : Int) (colon : Bool) :
    StopsAt (fun c => c.isDigit || c == '.') (offsetText offset colon) := by
  rw [offsetText]
  refine stopsAt_cons.mpr ?_
  unfold offsetSign
  split_ifs <;> rfl

theorem isMinus_offsetSign (offset : Int) :
    Reading.isMinus (offsetSign offset) = decide (offset < 0) := by
  unfold offsetSign
  split_ifs with h
  · rw [decide_eq_true h]
    rfl
  · rw [decide_eq_false h]
    rfl

/-- An offset of whole minutes is taken as it is written. -/
theorem reads_offset {offset : Int} (hminute : offset % 60 = 0)
    (hday : -secondsPerDay < offset ∧ offset < secondsPerDay) (rest : List Char) :
    Reads Reading.offset (offsetText offset true) offset rest := by
  unfold secondsPerDay at hday
  obtain ⟨m, hm⟩ : ∃ m, (offset.natAbs + 30) / 60 = m := ⟨_, rfl⟩
  have hhours : m / 60 < 24 := by omega
  have hminutes : m % 60 < 60 := by omega
  have htext : offsetText offset true =
      offsetSign offset :: (twoDigits (m / 60) ++ ':' :: twoDigits (m % 60)) := by
    simp [offsetText, hm]
  have hsign : (offsetSign offset == 'Z' || offsetSign offset == 'z' || offsetSign offset == '+' ||
      Reading.isMinus (offsetSign offset)) = true := by
    unfold offsetSign
    split_ifs <;> rfl
  have hz : (offsetSign offset == 'Z' || offsetSign offset == 'z') = false := by
    unfold offsetSign
    split_ifs <;> rfl
  have hvalue : (if Reading.isMinus (offsetSign offset) = true then
        -(((m / 60 : Nat) : Int) * 3600 + ((m % 60 : Nat) : Int) * 60)
      else ((m / 60 : Nat) : Int) * 3600 + ((m % 60 : Nat) : Int) * 60) = offset := by
    rw [isMinus_offsetSign]
    simp only [decide_eq_true_eq]
    split_ifs <;> omega
  have hfield : ReadsField (digits 2 2) := readsField_digits (le_refl 2)
  rw [htext, Reading.offset]
  refine Reads.charOf_bind hsign ?_
  simp only [hz, Bool.false_eq_true, if_false]
  refine (hfield (m / 60) (by omega) _).bind (.char_bind ((hfield (m % 60) (by omega) _).bind_nil ?_))
  rw [hvalue]
  exact reads_accept (decide_eq_true ⟨by omega, by omega⟩) offset rest

variable {t : ZonedTime}

/-- A clock shows second 60 only if UTC does, when it is ahead by whole minutes. -/
theorem isClockTime_wallClock (hminute : t.period.offset % 60 = 0)
    (hn : t.instant.nanos < nanosPerSecond ∨
      t.instant.nanos < 2 * nanosPerSecond ∧ t.instant.seconds % 60 = 59) :
    t.wallClock.IsClockTime := by
  unfold LocalTime.IsClockTime ZonedTime.wallClock Instant.toLocal
  refine hn.imp id fun ⟨hlt, hs⟩ => ⟨hlt, ?_⟩
  simp only
  omega

/-- A date, a time of day and an offset are taken as the instant that they say. -/
theorem reads_standard_of_fields {l : LocalTime} (hy : 0 ≤ l.date.year ∧ l.date.year ≤ 9999)
    (hl : l.IsClockTime) {fraction tail : List Char} (hfraction : WritesFraction l.fraction fraction)
    {offset : Int} (hstop : StopsAt (fun c => c.isDigit || c == '.') tail)
    (hoffset : Reads Reading.offset tail offset []) :
    Reads Reading.standard (dateText l.date ++ 'T' :: (clockText l ++ fraction ++ tail))
      (l.toInstant offset) [] := by
  have hstop : StopsAt (fun c => c.isDigit || c == '.') (tail ++ []) := by
    rw [List.append_nil]
    exact hstop
  unfold Reads
  rw [List.append_assoc, standard_dateText l.date_isValid hy]
  refine Reads.charOf_bind rfl ?_
  refine (reads_timeOfDay (readsField_digits (le_refl 2)) hl hfraction hstop).bind ?_
  exact hoffset.bind_nil (reads_pure _ [])

/-- **A standard text is taken as the instant that it was written from.** -/
theorem reads_standard (hminute : t.period.offset % 60 = 0)
    (hday : -secondsPerDay < t.period.offset ∧ t.period.offset < secondsPerDay)
    (hy : 0 ≤ t.wallClock.date.year ∧ t.wallClock.date.year ≤ 9999)
    (hclock : t.wallClock.IsClockTime) :
    Reads Reading.standard (standardText t) t.instant [] := by
  obtain ⟨l, hl⟩ : ∃ l, t.wallClock = l := ⟨_, rfl⟩
  have hinstant : l.toInstant t.period.offset = t.instant := by
    rw [← hl, ZonedTime.wallClock, Instant.toLocal, LocalTime.toInstant, Int.add_sub_cancel]
  rw [hl] at hy hclock
  have htext : standardText t = dateText l.date ++ 'T' :: (clockText l ++ fractionText l.fraction ++
      offsetText t.period.offset true) := by
    rw [standardText, hl]
    simp [timeOfDayText, clockText]
  have hfraction := writesFraction_fractionText (n := l.fraction) (Nat.mod_lt _ (by decide))
  rw [htext, ← hinstant]
  exact reads_standard_of_fields hy hclock hfraction (stopsAt_offsetText _ true)
    (reads_offset hminute hday [])

end Time

open Time

variable {t : ZonedTime}

/-- **The text of a time without a pattern reads back.** In every zone it stands for the same
instant, to the nanosecond, and it is not taken for a number; in the time's own zone it stands for
the time, also where clocks show the local time twice. -/
theorem Value.standardText_reads_back (hminute : t.period.offset % 60 = 0)
    (hday : -secondsPerDay < t.period.offset ∧ t.period.offset < secondsPerDay)
    (hy : 0 ≤ t.wallClock.date.year ∧ t.wallClock.date.year ≤ 9999)
    (hn : t.instant.nanos < nanosPerSecond ∨
      t.instant.nanos < 2 * nanosPerSecond ∧ t.instant.seconds % 60 = 59) :
    ∃ s, (Value.time t).render none = .ok s ∧
      (∀ zone, ZonedTime.read zone s.toList = some ⟨t.instant, zone⟩ ∧
        Value.infer zone s = .time ⟨t.instant, zone⟩) ∧
      ZonedTime.read t.zone s.toList = some t ∧ Value.infer t.zone s = .time t := by
  have hstandard : readStandard (standardText t) = some t.instant :=
    (reads_standard hminute hday hy (isClockTime_wallClock hminute hn)).whole_eq
  have hread (zone : Zone) : ZonedTime.read zone (standardText t) = some ⟨t.instant, zone⟩ := by
    rw [ZonedTime.read, hstandard]
  have hinfer (zone : Zone) :
      Value.infer zone (String.ofList (standardText t)) = .time ⟨t.instant, zone⟩ := by
    have h := infer_dateText zone hy
      ('T' :: timeOfDayText t.wallClock ++ offsetText t.period.offset true)
    rw [← List.append_assoc, ← standardText, hread] at h
    exact h
  refine ⟨String.ofList (standardText t), rfl, fun zone => ⟨?_, hinfer zone⟩, ?_, hinfer t.zone⟩
  · rw [String.toList_ofList, hread]
  · rw [String.toList_ofList, hread]

/-- A leap second in the hour that comes twice in New York. -/
theorem Value.standardText_reads_back_newYork2016 :
    ∃ s, (Value.time ⟨⟨1478413799, 1500000000⟩, Zone.newYork2016⟩).render none = .ok s ∧
      s = "2016-11-06T01:29:60.500-05:00" ∧
      ZonedTime.read Zone.newYork2016 s.toList =
        some ⟨⟨1478413799, 1500000000⟩, Zone.newYork2016⟩ := by
  obtain ⟨s, hs, -, hread, -⟩ := standardText_reads_back
    (t := ⟨⟨1478413799, 1500000000⟩, Zone.newYork2016⟩) (by decide) (by decide) (by decide)
    (by decide)
  exact ⟨s, hs, (Except.ok.inj (hs.symm.trans rfl)), hread⟩

end PathTemplate
