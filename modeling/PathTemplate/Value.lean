/-
# Values

A placeholder stands for a value: a time, an integer, a float or a text. Each
kind is written in its own way and reads a pattern in its own way; only times
can be shifted.

Key definitions: `Value`, `Value.render`, `Value.shiftAll`, `shiftSteps`.
-/
import PathTemplate.Decimal.Shortest
import PathTemplate.Time.Pattern
import PathTemplate.Value.NumberPattern

namespace PathTemplate

open Decimal Time

/-- What a placeholder can stand for. -/
inductive Value
  | time (t : ZonedTime)
  | integer (n : Int)
  | float (x : Binary64)
  | text (s : String)
deriving DecidableEq

namespace Value

/-- The kind of a value. -/
def kind : Value → Kind
  | time _ => .time
  | integer _ => .integer
  | float _ => .float
  | text _ => .text

/-- Equality of values: times are equal as instants, whatever their zone, and floats as numbers. -/
def equals : Value → Value → Bool
  | time t, time u => t.instant == u.instant
  | integer m, integer n => m == n
  | float x, float y => x.equals y
  | text s, text t => s == t
  | _, _ => false

/-- The digits after the point when a pattern does not say how many. -/
def defaultPrecision : Nat := 6

/-- A time in a pattern, or in its standard text. -/
def renderTime (t : ZonedTime) : Option String → Except ValueError (List Char)
  | none => .ok (standardText t)
  | some pattern =>
    match Pattern.items pattern.toList with
    | none => .error (.invalidPattern .time pattern .unknownSpecifier)
    | some is =>
      match Pattern.write t is with
      | none => .error (.invalidPattern .time pattern .unwritable)
      | some cs => .ok cs

/-- An integer in a pattern, or in its digits. -/
def renderInteger (n : Int) : Option String → Except ValueError (List Char)
  | none => .ok (signedDecimal n)
  | some pattern =>
    match NumberPattern.read false pattern.toList with
    | .error fault => .error (.invalidPattern .integer pattern fault)
    | .ok p => .ok (p.fill (if n < 0 then ['-'] else []) (decimal n.natAbs))

/-- A float in a pattern, or in its shortest text. -/
def renderFloat (x : Binary64) : Option String → Except ValueError (List Char)
  | none => .ok x.text.toList
  | some pattern =>
    match NumberPattern.read true pattern.toList with
    | .error fault => .error (.invalidPattern .float pattern fault)
    | .ok p =>
      let places := p.precision.getD defaultPrecision
      .ok (p.fill (if x.isNegative then ['-'] else []) (x.bodyText (·.fixed places)))

/-- The text of a value, in a pattern if there is one. Texts do not look at the pattern. -/
def render (v : Value) (pattern : Option String) : Except ValueError String :=
  match v with
  | time t => String.ofList <$> renderTime t pattern
  | integer n => String.ofList <$> renderInteger n pattern
  | float x => String.ofList <$> renderFloat x pattern
  | text s => .ok s

end Value

/-- How a shift ends by its fault: without a date to start from it breaks off. -/
def Time.ShiftFault.halt (s : Shift) : ShiftFault → Halt ValueError
  | outOfRange => .failed (.timeOutOfRange s.shown)
  | noWallClock => .brokenOff

/-- A time after each of some shifts in turn, and the last of these times or how the first shift
ends that is not done. -/
def shiftSteps (t : ZonedTime) :
    List Shift → List (Shift × ZonedTime) × Except (Halt ValueError) ZonedTime
  | [] => ([], .ok t)
  | s :: ss =>
    match t.shift s with
    | .error fault => ([], .error (fault.halt s))
    | .ok u => ((s, u) :: (shiftSteps u ss).1, (shiftSteps u ss).2)

namespace Value

/-- A value after some shifts, with the times passed through. -/
def shiftTrace (v : Value) (ss : List Shift) :
    List (Shift × ZonedTime) × Except (Halt ValueError) Value :=
  match v with
  | time t => ((shiftSteps t ss).1, time <$> (shiftSteps t ss).2)
  | v => ([], .error (.failed (.unsupported v.kind "time shifts")))

/-- A value after some shifts, one after another. -/
def shiftAll (v : Value) (ss : List Shift) : Except (Halt ValueError) Value := (v.shiftTrace ss).2

end Value

end PathTemplate
