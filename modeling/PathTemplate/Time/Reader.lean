/-
# Reading times

A time is read from its standard text, with an offset, or from the text of a
local date and time of day, or from a date alone, which stands for midnight.
The standard text has digits in fixed number; in the others white space may
come before each number. Local times are read in a zone that shows them
exactly once.

Key definitions: `Reading.standard`, `Reading.localDateTime`, `readStandard`, `readLocal`,
`ZonedTime.read`.
-/
import PathTemplate.Text.Blank
import PathTemplate.Text.Reader
import PathTemplate.Time.Text

namespace PathTemplate.Time

open Calendar Decimal Text Text.Reader

namespace Reading

/-- Takes white space, or nothing. -/
def blanks : Reader Unit := fun cs => some ((), trimStart cs)

/-- Takes a number after white space. -/
def number (most : Nat) : Reader Nat := do
  blanks
  digits 1 most

/-- Takes a point and the digits of a fraction, or nothing; digits after the ninth do not count. -/
def fraction : Reader Nat := fun
  | '.' :: cs =>
    let ds := cs.takeWhile Char.isDigit
    if ds.isEmpty then none
    else
      let nine := ds.take 9
      some (digitsValue nine * tenTo (9 - nine.length), cs.dropWhile Char.isDigit)
  | cs => some (0, cs)

/-- The date of some fields, if it is in the calendar. -/
def date (year : Int) (month day : Nat) : Reader Date :=
  let d : Date := ⟨year, month, day⟩
  accept (decide d.IsValid) d

/-- The local time of a date and the time of day that `field` takes, colons between its numbers. -/
def timeOfDay (d : Date) (field : Reader Nat) : Reader LocalTime := do
  let hour ← field
  char ':'
  let minute ← field
  char ':'
  let second ← field
  let nanos ← fraction
  accept (decide (hour ≤ 23 ∧ minute ≤ 59 ∧ second ≤ 60))
    (LocalTime.ofFields d hour minute second nanos)

/-- Whether a character writes a minus sign before an offset: the hyphen or the sign itself. -/
def isMinus (c : Char) : Bool := c == '-' || c == '\u2212'

/-- Takes an offset: `Z`, or a sign, hours and minutes with a colon. -/
def offset : Reader Int := do
  let sign ← charOf fun c => c == 'Z' || c == 'z' || c == '+' || isMinus c
  if sign == 'Z' || sign == 'z' then return 0
  let hours ← digits 2 2
  char ':'
  let minutes ← digits 2 2
  let seconds : Int := hours * 3600 + minutes * 60
  accept (decide (hours ≤ 23 ∧ minutes ≤ 59)) (if isMinus sign then -seconds else seconds)

/-- Takes the standard text of a time. -/
def standard : Reader Instant := do
  let year ← digits 4 4
  char '-'
  let month ← digits 2 2
  char '-'
  let day ← digits 2 2
  let _ ← charOf fun c => c == 'T' || c == 't' || c == ' '
  let l ← timeOfDay (← date year month day) (digits 2 2)
  return l.toInstant (← offset)

/-- Takes a year: up to four digits, or a sign and any number of digits. -/
def year : Reader Int := do
  blanks
  match ← get with
  | '-' :: cs =>
    set cs
    return -((← digits 1 cs.length : Nat) : Int)
  | '+' :: cs =>
    set cs
    return ((← digits 1 cs.length : Nat) : Int)
  | _ => return ((← digits 1 4 : Nat) : Int)

/-- Takes a date with hyphens between its numbers. -/
def localDate : Reader Date := do
  let y ← year
  char '-'
  let month ← number 2
  char '-'
  date y month (← number 2)

/-- Takes a date and a time of day with `separator` between them. -/
def localDateTime (separator : Reader Unit) : Reader LocalTime := do
  let d ← localDate
  separator
  timeOfDay d (number 2)

/-- Takes a date, which stands for midnight. -/
def midnight : Reader LocalTime := do
  return LocalTime.ofFields (← localDate) 0 0 0 0

end Reading

/-- Reads the standard text of a time. -/
def readStandard (cs : List Char) : Option Instant := Reading.standard.whole cs

/-- Reads the text of a local time: date and time of day with `T` or white space between them, or
a date. -/
def readLocal (cs : List Char) : Option LocalTime :=
  (Reading.localDateTime (Reader.char 'T')).whole cs <|>
    (Reading.localDateTime Reading.blanks).whole cs <|> Reading.midnight.whole cs

/-- Reads a time that is to be shown in a zone, and that is local to it unless an offset is
written. -/
def ZonedTime.read (zone : Zone) (cs : List Char) : Option ZonedTime :=
  match readStandard cs with
  | some i => some ⟨i, zone⟩
  | none => do
    let l ← readLocal cs
    guard (InRange l.seconds)
    return ⟨← zone.single l, zone⟩

end PathTemplate.Time
