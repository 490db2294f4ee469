/-
# Decimal digits read back

The decimal digits of a natural have its value, and zeros in front do not
change that. A number below a power of ten fills just as many places as the
power has zeros.

Key theorems: `digitsValue_decimal`, `digitsValue_zeroPadded`, `length_zeroPadded`.
-/
import PathTemplate.Decimal.Digits

namespace PathTemplate.Decimal

theorem isDigit_of_mem_decimal {n : Nat} {c : Char} (h : c ∈ decimal n) : c.isDigit = true :=
  Nat.isDigit_of_mem_toDigits (by decide) (by decide) h

theorem digitsValue_decimal (n : Nat) : digitsValue (decimal n) = n := by
  have := Nat.ofDigitChars_ten_toDigits (n := n)
  rwa [Nat.ofDigitChars_eq_foldl] at this

theorem decimal_inj {m n : Nat} (h : decimal m = decimal n) : m = n := by
  rw [← digitsValue_decimal m, h, digitsValue_decimal]

theorem digitsValue_replicate_zero (k : Nat) : digitsValue (List.replicate k '0') = 0 := by
  induction k with
  | zero => rfl
  | succ k ih =>
    rw [List.replicate_succ]
    exact ih

/-- Zeros in front do not change a value. -/
theorem digitsValue_zeros (k : Nat) (ds : List Char) :
    digitsValue (List.replicate k '0' ++ ds) = digitsValue ds := by
  rw [digitsValue_append, digitsValue_replicate_zero, Nat.zero_mul, Nat.zero_add]

theorem digitsValue_zeroPadded (width n : Nat) : digitsValue (zeroPadded width n) = n :=
  (digitsValue_zeros _ _).trans (digitsValue_decimal n)

theorem isDigit_of_mem_zeroPadded {width n : Nat} {c : Char} (h : c ∈ zeroPadded width n) :
    c.isDigit = true := by
  rcases List.mem_append.mp h with h | h
  · rw [List.eq_of_mem_replicate h]
    rfl
  · exact isDigit_of_mem_decimal h

theorem zeroPadded_ne_nil (width n : Nat) : zeroPadded width n ≠ [] :=
  List.append_ne_nil_of_right_ne_nil _ Nat.toDigits_ne_nil

/-- A number has at most as many digits as the power of ten above it has zeros. -/
theorem length_decimal_le_iff {width n : Nat} (hw : 0 < width) :
    (decimal n).length ≤ width ↔ n < tenTo width := Nat.length_toDigits_le_iff (by decide) hw

theorem tenTo_le_tenTo {j k : Nat} (h : j ≤ k) : tenTo j ≤ tenTo k :=
  Nat.pow_le_pow_right (by decide) h

/-- A number below a power of ten fills its places. -/
theorem length_zeroPadded {width n : Nat} (hw : 0 < width) (hn : n < tenTo width) :
    (zeroPadded width n).length = width := by
  have hlen := (length_decimal_le_iff hw).mpr hn
  rw [zeroPadded, length_padStart]
  omega

end PathTemplate.Decimal
