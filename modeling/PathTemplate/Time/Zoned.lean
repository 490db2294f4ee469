/-
# Times in a zone, and their shifts

Years, months and days move the date on the wall clock and keep the time of
day; months keep the day of the month, lowered to the last day of a shorter
month. Hours, minutes and seconds add elapsed time.

Key definitions: `ZonedTime`, `ZonedTime.shift`, `ShiftFault`.
-/
import PathTemplate.Decimal.Power
import PathTemplate.Shift
import PathTemplate.Time.Zone

namespace PathTemplate.Time

open Calendar Decimal

/-- An instant together with the zone it is shown in. -/
structure ZonedTime where
  instant : Instant
  zone : Zone
deriving DecidableEq, Repr

namespace ZonedTime

/-- The period that the zone is in. -/
def period (t : ZonedTime) : Period := t.zone.periodAt t.instant.seconds

/-- The time that a clock in the zone shows. -/
def wallClock (t : ZonedTime) : LocalTime := t.instant.toLocal t.period.offset

end ZonedTime

/-- The cause for which a time cannot be shifted. -/
inductive ShiftFault
  /-- The result cannot be written. -/
  | outOfRange
  /-- The wall clock's date cannot be written, so that no date can be counted from it. -/
  | noWallClock
deriving DecidableEq, Repr

/-- The seconds in a unit of elapsed time; calendar units have none. -/
def unitSeconds : TimeUnit → Option Nat
  | .hour => some 3600
  | .minute => some 60
  | .second => some 1
  | .year | .month | .day => none

/-- The most seconds that can be counted: more are more milliseconds than 64 bits hold. -/
def longestElapse : Nat := (twoTo 63 - 1) / 1000

/-- The months in a shift by years or months. -/
def shiftMonths (s : Shift) : Nat :=
  match s.unit with
  | .year => 12 * s.magnitude
  | .month => s.magnitude
  | _ => 0

/-- The day that a calendar shift leads to from a day. -/
def targetDay (day : Int) (s : Shift) : Int :=
  match s.unit with
  | .year | .month => ((Date.ofDayNumber day).addMonths (s.sign.apply (shiftMonths s))).dayNumber
  | _ => day + s.sign.apply s.magnitude

namespace ZonedTime

/-- The time after some elapsed seconds. More than can be counted lead out of the range from
everywhere. -/
def shiftClock (t : ZonedTime) (n : Int) : Except ShiftFault ZonedTime :=
  if longestElapse < n.natAbs then .error .outOfRange
  else
    let i := t.instant.elapse n
    if InRange i.seconds then .ok { t with instant := i } else .error .outOfRange

/-- The time after a calendar shift. More months than 32 bits hold lead out of the range from
everywhere. -/
def shiftCalendar (t : ZonedTime) (s : Shift) : Except ShiftFault ZonedTime :=
  if twoTo 32 ≤ shiftMonths s then .error .outOfRange
  else if ¬ InRange t.wallClock.seconds then .error .noWallClock
  else
    let l := t.wallClock.onDay (targetDay t.wallClock.day s)
    if InRange l.seconds then
      match t.zone.resolve l with
      | some i => .ok { t with instant := i }
      | none => .error .outOfRange
    else .error .outOfRange

/-- The time after a shift. -/
def shift (t : ZonedTime) (s : Shift) : Except ShiftFault ZonedTime :=
  match unitSeconds s.unit with
  | some k => t.shiftClock (s.sign.apply (s.magnitude * k))
  | none => t.shiftCalendar s

end ZonedTime

end PathTemplate.Time
