/-
# Time shifts as they are written

A shift is a sign, a magnitude and a unit, such as `- 2 months`. A unit is
written in the singular or the plural; a shift is shown with the plural unless
its magnitude is one.

Key definitions: `Sign`, `TimeUnit`, `Shift`.
Key theorems: `TimeUnit.ofWord_word`, both spellings of a unit are read.
-/

namespace PathTemplate

/-- The direction of a shift. -/
inductive Sign
  | plus
  | minus
deriving DecidableEq, Repr

namespace Sign

/-- The character that writes a sign. -/
def char : Sign → Char
  | plus => '+'
  | minus => '-'

/-- A magnitude with its sign. -/
def apply : Sign → Nat → Int
  | plus, n => n
  | minus, n => -(n : Int)

end Sign

/-- The calendar and clock units of a shift. -/
inductive TimeUnit
  | year
  | month
  | day
  | hour
  | minute
  | second
deriving DecidableEq, Repr

namespace TimeUnit

/-- The singular word for a unit. -/
def word : TimeUnit → String
  | year => "year"
  | month => "month"
  | day => "day"
  | hour => "hour"
  | minute => "minute"
  | second => "second"

/-- All units, from the longest to the shortest. -/
def all : List TimeUnit := [year, month, day, hour, minute, second]

/-- The unit that a word names, in the singular or the plural. -/
def ofWord (w : String) : Option TimeUnit :=
  all.find? fun u => w == u.word || w == u.word ++ "s"

theorem ofWord_word (u : TimeUnit) : ofWord u.word = some u := by
  cases u <;> decide

theorem ofWord_plural (u : TimeUnit) : ofWord (u.word ++ "s") = some u := by
  cases u <;> decide

end TimeUnit

/-- A time shift. -/
structure Shift where
  sign : Sign
  magnitude : Nat
  unit : TimeUnit
deriving DecidableEq, Repr

/-- A shift as messages show it: sign, magnitude and unit, as in `+1 day` or `-2 months`. -/
def Shift.shown (s : Shift) : String :=
  s.sign.char.toString ++ toString s.magnitude ++ " " ++ s.unit.word ++
    (if s.magnitude = 1 then "" else "s")

end PathTemplate
