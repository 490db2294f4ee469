/-
# Values from text

A text without a kind is an integer if it reads as one of 64 bits, else a float
if it is written with digits, signs, points and exponents alone and reads as
one, else a time if it reads as one, else itself.

Key definitions: `Value.infer`.
-/
import PathTemplate.Decimal.Reader
import PathTemplate.Time.Reader
import PathTemplate.Value

namespace PathTemplate

open Decimal Time

/-- A character that a float can be written with. -/
def isFloatChar (c : Char) : Bool :=
  c.isDigit || c == '.' || c == '-' || c == '+' || c == 'e' || c == 'E'

/-- Reads an integer of 64 bits. -/
def readInt64 (cs : List Char) : Option Int := (readSignedDigits cs).filter isInt64

/-- Reads a float that is written with digits. -/
def readFloat (cs : List Char) : Option Binary64 :=
  if cs.all isFloatChar && cs.any Char.isDigit then Binary64.read cs else none

/-- The value that a text stands for in a zone. -/
def Value.infer (zone : Zone) (raw : String) : Value :=
  let cs := raw.toList
  match readInt64 cs with
  | some n => integer n
  | none =>
    match readFloat cs with
    | some x => float x
    | none =>
      match ZonedTime.read zone cs with
      | some t => time t
      | none => text raw

end PathTemplate
