/-
# The standard text of a time

A time is written as date, `T`, time of day and offset, as in
`2016-09-10T11:12:13+00:00`. Fractions of a second take 3, 6 or 9 digits or are
left out; an offset is rounded to minutes; a year of more or fewer than four
digits has a sign.

Key definitions: `yearText`, `fractionText`, `offsetText`, `standardText`, `plainText`.
-/
import PathTemplate.Decimal.Digits
import PathTemplate.Time.Zoned

namespace PathTemplate.Time

open Calendar Decimal

/-- The two digits of a number below 100. -/
def twoDigits (n : Nat) : List Char := zeroPadded 2 n

/-- A year in four digits, with a sign unless it is from 0 to 9999. -/
def yearText (y : Int) : List Char :=
  if 0 ≤ y ∧ y ≤ 9999 then zeroPadded 4 y.toNat
  else (if y < 0 then '-' else '+') :: zeroPadded 4 y.natAbs

/-- Nanoseconds as a point and 3, 6 or 9 digits; nothing for zero. -/
def fractionText (nanos : Nat) : List Char :=
  if nanos = 0 then []
  else if nanos % 1000000 = 0 then '.' :: zeroPadded 3 (nanos / 1000000)
  else if nanos % 1000 = 0 then '.' :: zeroPadded 6 (nanos / 1000)
  else '.' :: zeroPadded 9 nanos

/-- The sign of an offset. -/
def offsetSign (offset : Int) : Char := if offset < 0 then '-' else '+'

/-- An offset as sign, hours and minutes, rounded to the nearest minute, a half away from zero. -/
def offsetText (offset : Int) (colon : Bool) : List Char :=
  let minutes := (offset.natAbs + 30) / 60
  offsetSign offset :: twoDigits (minutes / 60) ++ (if colon then [':'] else []) ++
    twoDigits (minutes % 60)

/-- A date as year, month and day with hyphens. -/
def dateText (d : Date) : List Char :=
  yearText d.year ++ '-' :: twoDigits d.month ++ '-' :: twoDigits d.day

/-- A time of day as hours, minutes and seconds with colons, and its fraction. -/
def timeOfDayText (l : LocalTime) : List Char :=
  twoDigits l.hour ++ ':' :: twoDigits l.minute ++ ':' :: twoDigits l.second ++
    fractionText l.fraction

/-- The text of a time without a pattern. -/
def standardText (t : ZonedTime) : List Char :=
  dateText t.wallClock.date ++ 'T' :: timeOfDayText t.wallClock ++
    offsetText t.period.offset true

/-- The text of a time for a reader: date, time of day and abbreviation, with spaces. -/
def plainText (t : ZonedTime) : List Char :=
  dateText t.wallClock.date ++ ' ' :: timeOfDayText t.wallClock ++
    ' ' :: t.period.abbreviation.toList

end PathTemplate.Time
