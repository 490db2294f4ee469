/-
# The table of time zones

The table holds one record for each zone, in text. A record has three parts
with bars between them:

* its periods, each an offset in seconds and an abbreviation, the first being
  the one before all transitions; later parts call them `a`, `b`, `c` and so on;
* its transitions, each the letter of a period and the second at which that
  period begins;
* if the zone follows a yearly rule from some year on, that year and its
  rules, each the letter of a period and a month, a day, a day of the week (0
  is Monday) and a number of seconds: the period begins that many seconds after
  the start of the first such day of the week on or after the day of the month.

Yearly rules are followed through the year 2099.

Key definitions: `ZoneTable.decode`, `Zone.named`.
-/
import PathTemplate.Decimal.Reader
import PathTemplate.Time.Zone
import PathTemplate.Time.ZoneTable.Africa
import PathTemplate.Time.ZoneTable.Aliases
import PathTemplate.Time.ZoneTable.America
import PathTemplate.Time.ZoneTable.Antarctica
import PathTemplate.Time.ZoneTable.Asia
import PathTemplate.Time.ZoneTable.Atlantic
import PathTemplate.Time.ZoneTable.Australia
import PathTemplate.Time.ZoneTable.Etc
import PathTemplate.Time.ZoneTable.Europe
import PathTemplate.Time.ZoneTable.Indian
import PathTemplate.Time.ZoneTable.Pacific

namespace PathTemplate.Time

open Calendar Decimal

namespace ZoneTable

/-- The last year in which yearly rules are followed. -/
def lastYear : Nat := 2099

/-- A rule by which a period begins once a year. -/
structure YearlyRule where
  month : Nat
  day : Nat
  weekday : Int
  seconds : Int
  period : Period

/-- The transition that a rule makes in a year. -/
def YearlyRule.transition (r : YearlyRule) (year : Int) : Transition :=
  let n := (Date.mk year r.month r.day).dayNumber
  ⟨(n + (r.weekday - Calendar.weekday n) % 7) * secondsPerDay + r.seconds, r.period⟩

/-- The transitions that some rules make from a year on. -/
def yearlyTransitions (start : Nat) (rules : List YearlyRule) : List Transition :=
  (List.range' start (lastYear + 1 - start)).flatMap fun y => rules.map (·.transition y)

/-- A text cut at the characters of a kind, which stand in no part. -/
def partsAt (separates : Char → Bool) : List Char → List (List Char)
  | [] => [[]]
  | c :: cs =>
    if separates c then [] :: partsAt separates cs
    else
      match partsAt separates cs with
      | [] => [[c]]
      | part :: parts => (c :: part) :: parts

/-- The words of a part of a record, with spaces and line breaks between them. -/
def words (part : List Char) : List (List Char) :=
  (partsAt (fun c => c = ' ' || c = '\n') part).filter fun word => !word.isEmpty

/-- Reads a period such as `3600:CET`. -/
def decodePeriod (word : List Char) : Option Period :=
  match partsAt (· = ':') word with
  | [offset, name] => return ⟨← readSignedDigits offset, String.ofList name⟩
  | _ => none

/-- The period that a letter calls, and what follows the letter. -/
def decodeLetter (periods : List Period) : List Char → Option (Period × List Char)
  | c :: cs => return (← periods[c.toNat - 'a'.toNat]?, cs)
  | [] => none

/-- Reads a transition such as `b-2422054408`. -/
def decodeTransition (periods : List Period) (word : List Char) : Option Transition := do
  let (period, seconds) ← decodeLetter periods word
  return ⟨← readSignedDigits seconds, period⟩

/-- Reads a rule such as `c3.25.6.3600`. -/
def decodeRule (periods : List Period) (word : List Char) : Option YearlyRule := do
  let (period, fields) ← decodeLetter periods word
  match ← (partsAt (· = '.') fields).mapM readSignedDigits with
  | [month, day, weekday, seconds] => some ⟨month.toNat, day.toNat, weekday, seconds, period⟩
  | _ => none

/-- Reads the yearly part of a record. -/
def decodeYearly (periods : List Period) (part : List Char) : Option (List Transition) :=
  match words part with
  | [] => some []
  | year :: rules =>
    return yearlyTransitions (← readSignedDigits year).toNat (← rules.mapM (decodeRule periods))

/-- Reads the record of a zone. -/
def decode (name record : String) : Option Zone :=
  match partsAt (· = '|') record.toList with
  | [periodPart, transitionPart, yearlyPart] => do
    let periods ← (words periodPart).mapM decodePeriod
    let transitions ← (words transitionPart).mapM (decodeTransition periods)
    return ⟨name, ← periods.head?, transitions ++ (← decodeYearly periods yearlyPart)⟩
  | _ => none

/-- The records of all zones, by the part of the world they are named for. -/
def regions : List (List (String × String)) :=
  [etc, africa, america, antarctica, asia, atlantic, australia, europe, indian, pacific]

/-- The record of a zone. -/
def record (name : String) : Option String := regions.findSome? (·.lookup name)

end ZoneTable

/-- The zone of a name, which is matched exactly. -/
def Zone.named (name : String) : Option Zone := do
  ZoneTable.decode name (← ZoneTable.record ((ZoneTable.aliases.lookup name).getD name))

end PathTemplate.Time
