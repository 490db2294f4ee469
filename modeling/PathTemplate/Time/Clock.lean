/-
# Instants and wall-clock times

An instant is a count of seconds since 1970-01-01 00:00:00 UTC with the
nanoseconds into that second; a wall-clock time is the same count for a clock
on some wall. Inside a leap second the count stays on the second before and
the nanoseconds go on past 10 ^ 9. Both can be written only for the dates from
-262143-01-01 to +262142-12-31.

Key definitions: `Instant`, `LocalTime`, `InRange`, `Instant.elapse`.
-/
import PathTemplate.Calendar.Date

namespace PathTemplate.Time

open Calendar

/-- The number of seconds in a day. -/
def secondsPerDay : Int := 86400

/-- The number of nanoseconds in a second. -/
def nanosPerSecond : Nat := 1000000000

/-- The first day that can be written. -/
def firstDay : Int := -96465292

/-- The last day that can be written. -/
def lastDay : Int := 95026236

example : (Date.mk (-262143) 1 1).dayNumber = firstDay := by decide

example : (Date.mk 262142 12 31).dayNumber = lastDay := by decide

/-- Whether a count of seconds falls on a day that can be written. -/
def InRange (seconds : Int) : Prop :=
  firstDay ≤ seconds / secondsPerDay ∧ seconds / secondsPerDay ≤ lastDay

instance (seconds : Int) : Decidable (InRange seconds) := by
  unfold InRange
  infer_instance

/-- A time on a wall clock. -/
structure LocalTime where
  seconds : Int
  nanos : Nat
deriving DecidableEq, Repr

/-- A point in time. -/
structure Instant where
  seconds : Int
  nanos : Nat
deriving DecidableEq, Repr

/-- The seconds and nanoseconds some seconds later: going on leaves a leap second at its start,
going back leaves it at its end. -/
def elapsed (seconds : Int) (nanos : Nat) (n : Int) : Int × Nat :=
  if n = 0 ∨ nanos < nanosPerSecond then (seconds + n, nanos)
  else if 0 < n then (seconds + n, nanos - nanosPerSecond)
  else (seconds + 1 + n, nanos - nanosPerSecond)

namespace LocalTime

/-- The day that a clock shows, counted from 1970-01-01. -/
def day (l : LocalTime) : Int := l.seconds / secondsPerDay

/-- The date that a clock shows. -/
def date (l : LocalTime) : Date := Date.ofDayNumber l.day

/-- The seconds since midnight. -/
def secondOfDay (l : LocalTime) : Nat := (l.seconds % secondsPerDay).toNat

/-- The hour that a clock shows. -/
def hour (l : LocalTime) : Nat := l.secondOfDay / 3600

/-- The minute that a clock shows. -/
def minute (l : LocalTime) : Nat := l.secondOfDay / 60 % 60

/-- The second that a clock shows: one more inside a leap second. -/
def second (l : LocalTime) : Nat := l.secondOfDay % 60 + l.nanos / nanosPerSecond

/-- The nanoseconds into the second that a clock shows. -/
def fraction (l : LocalTime) : Nat := l.nanos % nanosPerSecond

/-- The same time of day on another day. -/
def onDay (l : LocalTime) (day : Int) : LocalTime :=
  ⟨day * secondsPerDay + l.seconds % secondsPerDay, l.nanos⟩

/-- The time at a date, an hour, a minute and a second; second 60 is a leap second. -/
def ofFields (d : Date) (hour minute second nanos : Nat) : LocalTime :=
  let base : Int := d.dayNumber * secondsPerDay + hour * 3600 + minute * 60
  if second = 60 then ⟨base + 59, nanosPerSecond + nanos⟩ else ⟨base + second, nanos⟩

/-- The instant at which a clock, `offset` seconds ahead of UTC, shows a time. -/
def toInstant (l : LocalTime) (offset : Int) : Instant := ⟨l.seconds - offset, l.nanos⟩

end LocalTime

namespace Instant

/-- What a clock, `offset` seconds ahead of UTC, shows at an instant. -/
def toLocal (i : Instant) (offset : Int) : LocalTime := ⟨i.seconds + offset, i.nanos⟩

/-- The instant some seconds later. -/
def elapse (i : Instant) (n : Int) : Instant :=
  let (s, nanos) := elapsed i.seconds i.nanos n
  ⟨s, nanos⟩

theorem elapse_of_nanos_lt {i : Instant} (h : i.nanos < nanosPerSecond) (n : Int) :
    i.elapse n = ⟨i.seconds + n, i.nanos⟩ := by
  simp [elapse, elapsed, h]

end Instant

end PathTemplate.Time
