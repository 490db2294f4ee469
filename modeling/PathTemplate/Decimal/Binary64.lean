/-
# Binary floating-point numbers

A value of the 64-bit binary format is a sign with a significand and an
exponent of two, an infinity, or no number. The finite values are held
exactly, in the normal form that has one spelling for each of them, so that
reading and writing them is arithmetic on naturals.

Key definitions: `Binary64`, `Finite`, `Binary64.ofRatio`, `Binary64.ofRatioSingle`.
-/
import PathTemplate.Decimal.Power
import PathTemplate.Decimal.Round

namespace PathTemplate.Decimal

/-- Whether `m * 2 ^ e` is the one spelling of a finite value. -/
def IsNormalForm (m : Nat) (e : Int) : Prop :=
  m < twoTo 53 ∧ -1074 ≤ e ∧ e ≤ 971 ∧ (twoTo 52 ≤ m ∨ e = -1074)

instance (m : Nat) (e : Int) : Decidable (IsNormalForm m e) := by
  unfold IsNormalForm
  infer_instance

/-- A finite value: `significand * 2 ^ exponent`, with a sign that a zero has too. -/
structure Finite where
  negative : Bool
  significand : Nat
  exponent : Int
  normal : IsNormalForm significand exponent
deriving DecidableEq

namespace Finite

/-- The zero of a sign. -/
def zero (negative : Bool) : Finite := ⟨negative, 0, -1074, by decide⟩

/-- The numerator of a value's magnitude. -/
def num (x : Finite) : Nat := x.significand * twoTo x.exponent.toNat

/-- The denominator of a value's magnitude. -/
def den (x : Finite) : Nat := twoTo (-x.exponent).toNat

theorem den_pos (x : Finite) : 0 < x.den := twoTo_pos _

end Finite

/-- A value of the 64-bit binary format. -/
inductive Binary64
  | finite (x : Finite)
  | infinite (negative : Bool)
  | nan
deriving DecidableEq

/-- The sizes that fix a binary format. -/
structure Format where
  /-- The number of bits of a significand. -/
  precision : Nat
  /-- The least exponent of a significand's last bit. -/
  minExponent : Int
  /-- The greatest exponent of a significand's last bit. -/
  maxExponent : Int

namespace Format

/-- The 32-bit format. -/
def single : Format := ⟨24, -149, 104⟩

/-- The 64-bit format. -/
def double : Format := ⟨53, -1074, 971⟩

end Format

/-- The greatest `l` with `2 ^ l ≤ num / den`, for positive `num` and `den`. -/
def floorLog2 (num den : Nat) : Int :=
  let l : Int := (num.log2 : Int) - den.log2
  if den * twoTo l.toNat ≤ num * twoTo (-l).toNat then l else l - 1

/-- The significand and exponent nearest to `num / den` in a format without a greatest exponent. -/
def Format.round (f : Format) (num den : Nat) : Nat × Int :=
  let e := max f.minExponent (floorLog2 num den - (f.precision - 1))
  let m := roundHalfEven (num * twoTo (-e).toNat) (den * twoTo e.toNat)
  if m = twoTo f.precision then (m / 2, e + 1) else (m, e)

namespace Binary64

/-- The value nearest to `num / den`, which is infinite beyond the greatest finite one. -/
def ofRatio (negative : Bool) (num den : Nat) : Binary64 :=
  if num = 0 then finite (Finite.zero negative)
  else
    let (m, e) := Format.double.round num den
    if h : IsNormalForm m e then finite ⟨negative, m, e, h⟩ else infinite negative

/-- The 32-bit value nearest to `num / den`, as a 64-bit value. -/
def ofRatioSingle (negative : Bool) (num den : Nat) : Binary64 :=
  if num = 0 then finite (Finite.zero negative)
  else
    let (m, e) := Format.single.round num den
    if Format.single.maxExponent < e then infinite negative
    else ofRatio negative (m * twoTo e.toNat) (twoTo (-e).toNat)

/-- Numeric equality: zeros of both signs are equal, and what is no number equals nothing. -/
def equals : Binary64 → Binary64 → Bool
  | finite x, finite y => (x.significand == 0 && y.significand == 0) || x == y
  | infinite s, infinite t => s == t
  | _, _ => false

end Binary64

end PathTemplate.Decimal
