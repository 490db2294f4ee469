/-
# The shortest text of a number

The reals that round to a value form an interval, which has its ends when the
significand is even. The shortest text of the value is the decimal in that
interval with the fewest digits; of several the one nearest to the value, and
of two equally near the greater. It is written without an exponent.

Key definitions: `Finite.admits`, `Finite.shortest`, `Binary64.text`.
-/
import PathTemplate.Decimal.Fixed

namespace PathTemplate.Decimal

/-- Compares `a * 10 ^ i` with `n * 2 ^ j`, exactly. -/
def compareScaled (a : Nat) (i : Int) (n : Nat) (j : Int) : Ordering :=
  compare (a * tenTo i.toNat * twoTo (-j).toNat) (n * twoTo j.toNat * tenTo (-i).toNat)

/-- Digits without the zeros at their end, and the power of ten that they count. -/
def stripZeros (d : Nat) (p : Int) : Nat × Int :=
  if h : d ≠ 0 ∧ d % 10 = 0 then stripZeros (d / 10) (p + 1) else (d, p)
termination_by d
decreasing_by omega

namespace Finite

/-- Four times the significand at the lower end of the interval that rounds to a value. -/
def lowerEnd (x : Finite) : Nat :=
  if x.significand = twoTo 52 ∧ -1074 < x.exponent then 4 * x.significand - 1
  else 4 * x.significand - 2

/-- Whether the decimal `d * 10 ^ p` lies among the reals that round to a value. -/
def admits (x : Finite) (d : Nat) (p : Int) : Bool :=
  let closed := x.significand % 2 == 0
  let low := compareScaled d p x.lowerEnd (x.exponent - 2)
  let high := compareScaled d p (4 * x.significand + 2) (x.exponent - 2)
  (low == .gt || (closed && low == .eq)) && (high == .lt || (closed && high == .eq))

/-- The least `k` such that a positive value lies below `10 ^ k`. -/
def scale (x : Finite) : Int := (decimal (x.num * tenTo 324 / x.den)).length - 324

/-- The multiple of `10 ^ p` that a value is written as, if one of its two neighbours will do. -/
def onGrid (x : Finite) (p : Int) : Option Nat :=
  let d := x.num * tenTo (-p).toNat / (x.den * tenTo p.toNat)
  match x.admits d p, x.admits (d + 1) p with
  | true, true => if compareScaled (2 * d + 1) p (2 * x.significand) x.exponent == .gt
      then some d else some (d + 1)
  | true, false => some d
  | false, true => some (d + 1)
  | false, false => none

/-- The exact decimal value of a value. -/
def exact (x : Finite) : Nat × Int :=
  if 0 ≤ x.exponent then (x.num, 0) else (x.significand * Nat.pow 5 (-x.exponent).toNat, x.exponent)

/-- The digits of the shortest text of a positive value, and the power of ten they count. -/
def shortest (x : Finite) : Nat × Int :=
  let k := x.scale
  let found := (List.range 17).findSome? fun i =>
    let p := k - (i + 1 : Nat)
    (x.onGrid p).map fun d => stripZeros d p
  found.getD x.exact

/-- The magnitude of a value in its shortest text. -/
def shortestText (x : Finite) : List Char :=
  if x.significand = 0 then ['0']
  else
    let (d, p) := x.shortest
    if 0 ≤ p then decimal d ++ List.replicate p.toNat '0'
    else withPoint (-p).toNat (decimal d)

end Finite

namespace Binary64

/-- Whether a value has a minus sign, which what is no number never has. -/
def isNegative : Binary64 → Bool
  | finite x => x.negative
  | infinite negative => negative
  | nan => false

/-- The text of a value without its sign, digits written by `digits`. -/
def bodyText (digits : Finite → List Char) : Binary64 → List Char
  | finite x => digits x
  | infinite _ => "inf".toList
  | nan => "NaN".toList

/-- The text of a value. -/
def text (x : Binary64) : String :=
  String.ofList ((if x.isNegative then ['-'] else []) ++ x.bodyText Finite.shortestText)

end Binary64

end PathTemplate.Decimal
