/-
# Patterns for times

A pattern is text with specifiers in it, each a percent sign and a letter, as
in `%Y-%m-%d`. A single number can be padded otherwise than by default with
`-`, `_` or `0` after the percent sign. A pattern with an unknown specifier has
no items, and no time can be written with it.

Key definitions: `Padding`, `NumberField`, `TextField`, `Item`, `items`, `Item.write`, `write`.
-/
import PathTemplate.Time.Text

namespace PathTemplate.Time.Pattern

open Calendar Decimal

/-- How a number is filled up to its width. -/
inductive Padding
  | none
  | zero
  | space
deriving DecidableEq, Repr

/-- The numbers that a pattern can ask for. -/
inductive NumberField
  | year
  | century
  | yearOfCentury
  | weekYear
  | weekYearOfCentury
  | quarter
  | month
  | day
  | weekFromSunday
  | weekFromMonday
  | isoWeek
  | weekdayFromSunday
  | weekdayFromMonday
  | dayOfYear
  | hour
  | hour12
  | minute
  | second
  | nanosecond
  | timestamp
deriving DecidableEq, Repr

/-- The texts that a pattern can ask for. -/
inductive TextField
  | shortMonth
  | longMonth
  | shortWeekday
  | longWeekday
  | upperHalf
  | lowerHalf
  | zoneName
  /-- A point and as many digits as are needed, or nothing. -/
  | fraction
  /-- Some digits of the fraction, after a point or not. -/
  | digits (count : Nat) (point : Bool)
  /-- The offset in hours and minutes, with a colon or not. -/
  | offset (colon : Bool)
  /-- The offset in hours, minutes and seconds. -/
  | offsetSeconds
  /-- The offset in hours. -/
  | offsetHours
  /-- An offset in any of several spellings, which can be read but not written. -/
  | offsetAny
  /-- The standard text of the time. -/
  | standard
deriving DecidableEq, Repr

/-- A part of a pattern. -/
inductive Item
  | literal (c : Char)
  | number (field : NumberField) (padding : Padding)
  | text (field : TextField)
deriving DecidableEq, Repr

/-! ### Reading a pattern -/

/-- The number that a letter asks for, with its usual padding. -/
def numberOfLetter : Char → Option (NumberField × Padding)
  | 'Y' => some (.year, .zero)
  | 'C' => some (.century, .zero)
  | 'y' => some (.yearOfCentury, .zero)
  | 'G' => some (.weekYear, .zero)
  | 'g' => some (.weekYearOfCentury, .zero)
  | 'q' => some (.quarter, .none)
  | 'm' => some (.month, .zero)
  | 'd' => some (.day, .zero)
  | 'e' => some (.day, .space)
  | 'U' => some (.weekFromSunday, .zero)
  | 'W' => some (.weekFromMonday, .zero)
  | 'V' => some (.isoWeek, .zero)
  | 'w' => some (.weekdayFromSunday, .none)
  | 'u' => some (.weekdayFromMonday, .none)
  | 'j' => some (.dayOfYear, .zero)
  | 'H' => some (.hour, .zero)
  | 'k' => some (.hour, .space)
  | 'I' => some (.hour12, .zero)
  | 'l' => some (.hour12, .space)
  | 'M' => some (.minute, .zero)
  | 'S' => some (.second, .zero)
  | 'f' => some (.nanosecond, .zero)
  | 's' => some (.timestamp, .none)
  | _ => none

/-- The text that a letter asks for. -/
def textOfLetter : Char → Option TextField
  | 'b' | 'h' => some .shortMonth
  | 'B' => some .longMonth
  | 'a' => some .shortWeekday
  | 'A' => some .longWeekday
  | 'p' => some .upperHalf
  | 'P' => some .lowerHalf
  | 'Z' => some .zoneName
  | 'z' => some (.offset false)
  | '+' => some .standard
  | _ => none

/-- The item that a letter asks for by itself. -/
def itemOfLetter (c : Char) : Option Item :=
  match numberOfLetter c with
  | some (field, padding) => some (.number field padding)
  | none => (textOfLetter c).map .text

/-- The items that some letters ask for, other characters standing for themselves. -/
def itemsOfLetters (letters : String) : List Item :=
  letters.toList.map fun c => (itemOfLetter c).getD (.literal c)

/-- The items of a specifier of one letter. -/
def itemsOfLetter (c : Char) : Option (List Item) :=
  match c with
  | 'D' | 'x' => some (itemsOfLetters "m/d/y")
  | 'F' => some (itemsOfLetters "Y-m-d")
  | 'v' => some (itemsOfLetters "e-b-Y")
  | 'R' => some (itemsOfLetters "H:M")
  | 'T' | 'X' => some (itemsOfLetters "H:M:S")
  | 'r' => some (itemsOfLetters "I:M:S p")
  | 'c' => some (itemsOfLetters "a b e H:M:S Y")
  | 't' => some [.literal '\t']
  | 'n' => some [.literal '\n']
  | '%' => some [.literal '%']
  | c => (itemOfLetter c).map ([·])

/-- The item of a specifier of one letter with a padding of its own. -/
def paddedItem (padding : Padding) (c : Char) : Option Item :=
  (numberOfLetter c).map fun p => .number p.1 padding

/-- The items of a pattern; none if a specifier is unknown or cut off. -/
def items : List Char → Option (List Item)
  | [] => some []
  | '%' :: '-' :: c :: cs => do return (← paddedItem .none c) :: (← items cs)
  | '%' :: '_' :: c :: cs => do return (← paddedItem .space c) :: (← items cs)
  | '%' :: '0' :: c :: cs => do return (← paddedItem .zero c) :: (← items cs)
  | '%' :: '#' :: 'z' :: cs => do return .text .offsetAny :: (← items cs)
  | '%' :: ':' :: 'z' :: cs => do return .text (.offset true) :: (← items cs)
  | '%' :: ':' :: ':' :: 'z' :: cs => do return .text .offsetSeconds :: (← items cs)
  | '%' :: ':' :: ':' :: ':' :: 'z' :: cs => do return .text .offsetHours :: (← items cs)
  | '%' :: '.' :: 'f' :: cs => do return .text .fraction :: (← items cs)
  | '%' :: '.' :: '3' :: 'f' :: cs => do return .text (.digits 3 true) :: (← items cs)
  | '%' :: '.' :: '6' :: 'f' :: cs => do return .text (.digits 6 true) :: (← items cs)
  | '%' :: '.' :: '9' :: 'f' :: cs => do return .text (.digits 9 true) :: (← items cs)
  | '%' :: '3' :: 'f' :: cs => do return .text (.digits 3 false) :: (← items cs)
  | '%' :: '6' :: 'f' :: cs => do return .text (.digits 6 false) :: (← items cs)
  | '%' :: '9' :: 'f' :: cs => do return .text (.digits 9 false) :: (← items cs)
  | '%' :: c :: cs => do return (← itemsOfLetter c) ++ (← items cs)
  | ['%'] => none
  | c :: cs => do return .literal c :: (← items cs)

/-! ### Writing a time -/

/-- A number of two digits; only a zero in front is subject to the padding. -/
def writeTwo (n : Nat) (padding : Padding) : List Char :=
  let ones := Char.ofNat ('0'.toNat + n % 10)
  if n / 10 = 0 then
    match padding with
    | .none => [ones]
    | .zero => ['0', ones]
    | .space => [' ', ones]
  else [Char.ofNat ('0'.toNat + n / 10), ones]

/-- A number filled up to a width, its sign included; a plus sign is written if asked for. -/
def writeWide (width : Nat) (n : Int) (padding : Padding) (plus : Bool) : List Char :=
  let sign := if n < 0 then ['-'] else if plus then ['+'] else []
  let body := decimal n.natAbs
  match padding with
  | .none => sign ++ body
  | .zero => sign ++ padStart (width - sign.length) '0' body
  | .space => padStart width ' ' (sign ++ body)

/-- A year: four digits, or a sign and at least four when it is not from 0 to 9999. -/
def writeYear (y : Int) (padding : Padding) : List Char :=
  if 1000 ≤ y ∧ y ≤ 9999 then decimal y.toNat
  else if 0 ≤ y ∧ y ≤ 9999 then writeWide 4 y padding false
  else writeWide 5 y padding true

/-- The hour on a clock face of twelve hours. -/
def clockFaceHour (hour : Nat) : Nat := if hour % 12 = 0 then 12 else hour % 12

/-- A number of a time. Centuries are counted modulo 256. -/
def NumberField.write (t : ZonedTime) (padding : Padding) : NumberField → List Char :=
  let l := t.wallClock
  let d := l.date
  fun
  | .year => writeYear d.year padding
  | .century => writeTwo (d.year / 100 % 256).toNat padding
  | .yearOfCentury => writeTwo (d.year % 100).toNat padding
  | .weekYear => writeYear (IsoWeek.ofDay l.day).year padding
  | .weekYearOfCentury => writeTwo ((IsoWeek.ofDay l.day).year % 100).toNat padding
  | .quarter => decimal ((d.month - 1) / 3 + 1)
  | .month => writeTwo d.month padding
  | .day => writeTwo d.day padding
  | .weekFromSunday => writeTwo (weeksBegun d 6).toNat padding
  | .weekFromMonday => writeTwo (weeksBegun d 0).toNat padding
  | .isoWeek => writeTwo (IsoWeek.ofDay l.day).week.toNat padding
  | .weekdayFromSunday => decimal ((weekday l.day + 1) % 7).toNat
  | .weekdayFromMonday => decimal (weekday l.day + 1).toNat
  | .dayOfYear => writeWide 3 d.ordinal padding false
  | .hour => writeTwo l.hour padding
  | .hour12 => writeTwo (clockFaceHour l.hour) padding
  | .minute => writeTwo l.minute padding
  | .second => writeTwo l.second padding
  | .nanosecond => writeWide 9 l.fraction padding false
  | .timestamp => writeWide 9 t.instant.seconds padding false

/-- The name at a position of a list of names. -/
def nameAt (names : List String) (index : Nat) : List Char := (names[index]?.getD "").toList

/-- The offset in hours, minutes and, if asked for, seconds; nothing is rounded. -/
def writeOffset (offset : Int) (full : Bool) : List Char :=
  let n := offset.natAbs
  offsetSign offset :: twoDigits (n / 3600) ++
    (if full then ':' :: twoDigits (n / 60 % 60) ++ ':' :: twoDigits (n % 60) else [])

/-- A text of a time; only the offset in any spelling has none. -/
def TextField.write (t : ZonedTime) : TextField → Option (List Char) :=
  let l := t.wallClock
  let month := nameAt monthNames (l.date.month - 1)
  let weekday := nameAt weekdayNames (weekday l.day).toNat
  fun
  | .shortMonth => some (month.take 3)
  | .longMonth => some month
  | .shortWeekday => some (weekday.take 3)
  | .longWeekday => some weekday
  | .upperHalf => some (if l.hour < 12 then "AM" else "PM").toList
  | .lowerHalf => some (if l.hour < 12 then "am" else "pm").toList
  | .zoneName => some t.period.abbreviation.toList
  | .fraction => some (fractionText l.fraction)
  | .digits count point =>
    some ((if point then ['.'] else []) ++ (zeroPadded 9 l.fraction).take count)
  | .offset colon => some (offsetText t.period.offset colon)
  | .offsetSeconds => some (writeOffset t.period.offset true)
  | .offsetHours => some (writeOffset t.period.offset false)
  | .offsetAny => none
  | .standard => some (standardText t)

/-- An item of a time. -/
def Item.write (t : ZonedTime) : Item → Option (List Char)
  | .literal c => some [c]
  | .number field padding => some (field.write t padding)
  | .text field => field.write t

/-- The items of a time, one after another. -/
def write (t : ZonedTime) : List Item → Option (List Char)
  | [] => some []
  | i :: is => do return (← i.write t) ++ (← write t is)

end PathTemplate.Time.Pattern
