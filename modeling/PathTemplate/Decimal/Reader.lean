/-
# Reading decimal numerals

A numeral is a sign, digits with a point among, before or after them, and an
exponent of ten; the sign, the point and the exponent may be missing. It reads
as the nearest value of the binary format. The words for infinity and for what
is no number are read too.

Key definitions: `Numeral`, `Numeral.read`, `Binary64.read`, `Binary64.readSingle`.
-/
import PathTemplate.Decimal.Binary64
import PathTemplate.Decimal.Digits

namespace PathTemplate.Decimal

/-- A decimal numeral: `digits * 10 ^ exponent` with a sign. -/
structure Numeral where
  negative : Bool
  digits : Nat
  exponent : Int
deriving DecidableEq, Repr

/-- Splits a sign off a text; `true` is minus. -/
def readSign : List Char → Bool × List Char
  | '-' :: cs => (true, cs)
  | '+' :: cs => (false, cs)
  | cs => (false, cs)

/-- Reads a signed run of digits that is the whole of a text. -/
def readSignedDigits (cs : List Char) : Option Int :=
  let (negative, ds) := readSign cs
  if ds.isEmpty || !ds.all Char.isDigit then none
  else if negative then some (-(digitsValue ds : Int)) else some (digitsValue ds)

/-- Whether 64 bits hold an integer. -/
def isInt64 (n : Int) : Bool := decide (-(twoTo 63 : Int) ≤ n ∧ n < twoTo 63)

namespace Numeral

/-- Splits the digits after a point off a text that may start with a point. -/
def readFraction : List Char → List Char × List Char
  | '.' :: cs => (cs.takeWhile Char.isDigit, cs.dropWhile Char.isDigit)
  | cs => ([], cs)

/-- Reads what follows the digits: nothing, or an exponent. -/
def readExponent : List Char → Option Int
  | [] => some 0
  | c :: cs => if c = 'e' ∨ c = 'E' then readSignedDigits cs else none

/-- Reads a numeral that is the whole of a text. -/
def read (cs : List Char) : Option Numeral := do
  let (negative, body) := readSign cs
  let whole := body.takeWhile Char.isDigit
  let (fraction, rest) := readFraction (body.dropWhile Char.isDigit)
  guard (!(whole ++ fraction).isEmpty)
  let e ← readExponent rest
  return ⟨negative, digitsValue (whole ++ fraction), e - fraction.length⟩

/-- The power of ten just above a numeral's magnitude: `10 ^ (k - 1) ≤ magnitude < 10 ^ k`. -/
def scale (n : Numeral) : Int := (decimal n.digits).length + n.exponent

/--
The value that `round` gives for a numeral's sign and ratio. A numeral of 10 ^ 400 or more stands
beyond every finite value, and one below 10 ^ -400 is nearest to zero, so powers stay small.
-/
def toBinary (round : Bool → Nat → Nat → Binary64) (n : Numeral) : Binary64 :=
  if n.digits = 0 ∨ n.scale < -400 then .finite (Finite.zero n.negative)
  else if 400 < n.scale then .infinite n.negative
  else round n.negative (n.digits * tenTo n.exponent.toNat) (tenTo (-n.exponent).toNat)

end Numeral

namespace Binary64

/-- The words that stand for values without digits, in lower case, after the sign. -/
def ofWord (negative : Bool) (word : String) : Option Binary64 :=
  if word = "inf" ∨ word = "infinity" then some (infinite negative)
  else if word = "nan" then some nan
  else none

/-- Reads a text with a rounding; case does not matter in words. -/
def readWith (round : Bool → Nat → Nat → Binary64) (cs : List Char) : Option Binary64 :=
  match Numeral.read cs with
  | some n => some (n.toBinary round)
  | none =>
    let (negative, body) := readSign cs
    ofWord negative (String.ofList (body.map Char.toLower))

/-- Reads a text as the nearest 64-bit value. -/
def read (cs : List Char) : Option Binary64 := readWith ofRatio cs

/-- Reads a text as the nearest 32-bit value. -/
def readSingle (cs : List Char) : Option Binary64 := readWith ofRatioSingle cs

end Binary64

end PathTemplate.Decimal
