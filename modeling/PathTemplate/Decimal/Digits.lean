/-
# Runs of decimal digits

Key definitions: `digitsValue`, `padStart`, `decimal`.
Key theorems: `digitsValue_append`, `length_padStart`.
-/
import PathTemplate.Decimal.Power

namespace PathTemplate.Decimal

/-- The value of a decimal digit. -/
def digitValue (d : Char) : Nat := d.toNat - '0'.toNat

/-- The value of a run of decimal digits. -/
def digitsValue (ds : List Char) : Nat := ds.foldl (fun n d => 10 * n + digitValue d) 0

/-- Digits after others count as many powers of ten as there are of them. -/
theorem foldl_digits (n : Nat) (ds : List Char) :
    ds.foldl (fun n d => 10 * n + digitValue d) n = n * tenTo ds.length + digitsValue ds := by
  unfold digitsValue
  induction ds generalizing n with
  | nil => simp
  | cons d ds ih =>
    rw [List.foldl_cons, List.foldl_cons, ih, ih (10 * 0 + digitValue d), List.length_cons,
      tenTo_succ, Nat.add_mul, Nat.mul_zero, Nat.zero_add, ← Nat.add_assoc]
    congr 2
    rw [Nat.mul_comm (tenTo ds.length) 10, ← Nat.mul_assoc, Nat.mul_comm 10 n]

theorem digitsValue_append (as bs : List Char) :
    digitsValue (as ++ bs) = digitsValue as * tenTo bs.length + digitsValue bs := by
  rw [digitsValue, List.foldl_append, foldl_digits]
  rfl

/-- A text filled up at the front to a width. -/
def padStart (width : Nat) (fill : Char) (cs : List Char) : List Char :=
  List.replicate (width - cs.length) fill ++ cs

theorem length_padStart (width : Nat) (fill : Char) (cs : List Char) :
    (padStart width fill cs).length = max width cs.length := by
  simp only [padStart, List.length_append, List.length_replicate]
  omega

/-- The decimal digits of a natural. -/
def decimal (n : Nat) : List Char := Nat.toDigits 10 n

/-- The decimal digits of an integer after its minus sign, if it has one. -/
def signedDecimal (n : Int) : List Char :=
  if n < 0 then '-' :: decimal n.natAbs else decimal n.natAbs

/-- The decimal digits of a natural, filled up with zeros to a width. -/
def zeroPadded (width n : Nat) : List Char := padStart width '0' (decimal n)

end PathTemplate.Decimal
