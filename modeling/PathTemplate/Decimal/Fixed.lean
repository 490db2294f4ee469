/-
# Numbers with a fixed count of places

A value is written with a given number of digits after the point by rounding
the exact value, a half to the even neighbour.

Key definitions: `withPoint`, `Finite.fixed`.
-/
import PathTemplate.Decimal.Binary64
import PathTemplate.Decimal.Digits

namespace PathTemplate.Decimal

/-- Digits with the last `places` of them after a point; at least one digit stands before it. -/
def withPoint (places : Nat) (ds : List Char) : List Char :=
  if places = 0 then ds
  else
    let ds := padStart (places + 1) '0' ds
    ds.take (ds.length - places) ++ '.' :: ds.drop (ds.length - places)

/-- The magnitude of a value with `places` digits after the point. -/
def Finite.fixed (x : Finite) (places : Nat) : List Char :=
  withPoint places (decimal (roundHalfEven (x.num * tenTo places) x.den))

end PathTemplate.Decimal
