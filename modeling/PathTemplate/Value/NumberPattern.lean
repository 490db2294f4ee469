/-
# Patterns for numbers

A number is written in a width, filled up with spaces in front or, when the
pattern starts with a zero, with zeros after the sign. The pattern of a
fraction may go on with a point and a count of places.

Key definitions: `NumberPattern`, `NumberPattern.read`, `NumberPattern.fill`.
Key theorems: `NumberPattern.length_fill`.
-/
import PathTemplate.Decimal.Digits
import PathTemplate.Value.Fault

namespace PathTemplate

open Decimal

/-- How a number is to be written. -/
structure NumberPattern where
  zeroPad : Bool
  width : Nat
  precision : Option Nat
deriving DecidableEq, Repr

namespace NumberPattern

/-- The greatest width and the greatest precision. -/
def maxSize : Nat := 65535

/-- Whether some characters are decimal digits all. -/
def allDigits (cs : List Char) : Bool := cs.all Char.isDigit

/-- Reads a size that some digits write; no digits write zero. -/
def readSize (ds : List Char) (fault : PatternFault) : Except PatternFault Nat :=
  if digitsValue ds ≤ maxSize then .ok (digitsValue ds) else .error fault

/-- Reads a pattern that may have a precision if `places` says so. -/
def read (places : Bool) (cs : List Char) : Except PatternFault NumberPattern := do
  let widthPart := cs.takeWhile (· ≠ '.')
  let precisionPart := match cs.dropWhile (· ≠ '.') with
    | [] => none
    | _ :: ds => some ds
  if precisionPart.isSome && !places then throw .precisionNotAllowed
  if !allDigits widthPart || !precisionPart.all allDigits then throw .notDigits
  let width ← readSize widthPart .widthTooLarge
  let precision ← match precisionPart with
    | none => pure none
    | some ds => some <$> readSize ds .precisionTooLarge
  return ⟨widthPart.head? == some '0', width, precision⟩

/-- A number with its sign, filled up to the width of a pattern. -/
def fill (p : NumberPattern) (sign body : List Char) : List Char :=
  if p.zeroPad then sign ++ padStart (p.width - sign.length) '0' body
  else padStart p.width ' ' (sign ++ body)

/-- A number takes its width, or its own length when that is greater. -/
theorem length_fill (p : NumberPattern) (sign body : List Char) :
    (p.fill sign body).length = max p.width (sign ++ body).length := by
  unfold fill
  split <;> simp only [List.length_append, length_padStart]
  omega

end NumberPattern

end PathTemplate
