/-
# Rounding to a count of places

A finite value is a rational number. With `places` digits after the point it is
written as the integer nearest to `10 ^ places` times its magnitude, a half as
the even neighbour, and the point in front of the last `places` digits of that
integer (`Finite.fixed_eq`, `isNearest_roundHalfEven`).

Nearest integers are in the order of what they are nearest to
(`IsNearest.mono`), on both sides of zero (`IsNearest.neg`). So the numbers
written are in the order of the values, whatever is lost of these.

Key definitions: `Finite.value`, `IsNearest`, `pointText`, `Numeral.value`.
Key theorems: `isNearest_roundHalfEven`, `IsNearest.mono`, `Finite.fixed_eq`,
`isNumeral_pointText`.
-/
import Mathlib
import PathTemplate.Decimal.Fixed
import PathTemplate.Proofs.Decimal.Numeral

namespace PathTemplate.Decimal

/-! ### Exact values -/

/-- The exact magnitude of a value. -/
def Finite.magnitude (x : Finite) : ℚ := x.significand * 2 ^ x.exponent

/-- The exact value of a value, zero for both zeros. -/
def Finite.value (x : Finite) : ℚ := if x.negative then -x.magnitude else x.magnitude

/-- The exact value of a numeral. -/
def Numeral.value (n : Numeral) : ℚ :=
  (if n.negative then -(n.digits : ℤ) else n.digits : ℤ) * 10 ^ n.exponent

/-- The value of digits with a point among them. -/
theorem Numeral.value_places (negative : Bool) (n places : Nat) :
    Numeral.value ⟨negative, n, -places⟩ =
      (if negative then -(n : ℤ) else n : ℤ) / 10 ^ places := by
  rw [value, zpow_neg, zpow_natCast, div_eq_mul_inv]

/-- A power is a quotient of two without negative exponents. -/
theorem zpow_eq_div {b : ℚ} (hb : b ≠ 0) (e : ℤ) : b ^ e = b ^ e.toNat / b ^ (-e).toNat := by
  calc b ^ e
    _ = b ^ ((e.toNat : ℤ) - ((-e).toNat : ℤ)) := by rw [Int.toNat_sub_toNat_neg]
    _ = b ^ e.toNat / b ^ (-e).toNat := by rw [zpow_sub₀ hb, zpow_natCast, zpow_natCast]

theorem cast_twoTo (k : Nat) : (twoTo k : ℚ) = 2 ^ k := by
  rw [twoTo, Nat.pow_eq, Nat.cast_pow, Nat.cast_ofNat]

theorem cast_tenTo (k : Nat) : (tenTo k : ℚ) = 10 ^ k := by
  rw [tenTo, Nat.pow_eq, Nat.cast_pow, Nat.cast_ofNat]

theorem two_zpow_eq (e : ℤ) : (2 : ℚ) ^ e = twoTo e.toNat / twoTo (-e).toNat := by
  rw [cast_twoTo, cast_twoTo, zpow_eq_div two_ne_zero]

theorem Finite.magnitude_eq (x : Finite) : x.magnitude = (x.num : ℚ) / x.den := by
  rw [magnitude, two_zpow_eq, num, den, Nat.cast_mul, mul_div_assoc]

/-! ### Nearest integers -/

/-- Whether an integer is nearest to a number, and even if another one is just as near. -/
structure IsNearest (r : ℚ) (n : ℤ) : Prop where
  near : |r - n| ≤ 1 / 2
  even : |r - n| = 1 / 2 → Even n

theorem IsNearest.neg {r : ℚ} {n : ℤ} (h : IsNearest r n) : IsNearest (-r) (-n) := by
  have habs : |-r - ((-n : ℤ) : ℚ)| = |r - n| := by
    rw [Int.cast_neg, ← neg_sub', abs_neg]
  exact ⟨habs.trans_le h.near, fun htie => (h.even (habs ▸ htie)).neg⟩

/-- **Nearest integers are in the order of what they are nearest to.** Two of them could only be out
of order if both stood half a unit off, and then both were even and next to each other. -/
theorem IsNearest.mono {r s : ℚ} {m n : ℤ} (hr : IsNearest r m) (hs : IsNearest s n) (h : r ≤ s) :
    m ≤ n := by
  by_contra hlt
  have hcast : (n : ℚ) + 1 ≤ m := by exact_mod_cast Int.not_le.mp hlt
  have hr' := abs_le.mp hr.near
  have hs' := abs_le.mp hs.near
  have hrtie : r - m = -(1 / 2) := by linarith
  have hstie : s - n = 1 / 2 := by linarith
  have hm : Even m := hr.even (by rw [hrtie, abs_neg, abs_of_pos one_half_pos])
  have hn : Even n := hs.even (by rw [hstie, abs_of_pos one_half_pos])
  have hnext : m = n + 1 := by
    have hq : (m : ℚ) = n + 1 := by linarith
    exact_mod_cast hq
  exact Int.not_even_iff_odd.mpr hn.add_one (hnext ▸ hm)

/-- **A rounded quotient is the integer nearest to it, a half rounded to even.** -/
theorem isNearest_roundHalfEven (num : Nat) {den : Nat} (h : 0 < den) :
    IsNearest ((num : ℚ) / den) (roundHalfEven num den : ℤ) := by
  have hden : (0 : ℚ) < den := Nat.cast_pos.mpr h
  obtain ⟨hhigh, hlow⟩ := roundHalfEven_near num den h
  have hdist : |(num : ℚ) / den - (roundHalfEven num den : ℤ)| =
      |(num : ℚ) - den * roundHalfEven num den| / den := by
    rw [Int.cast_natCast, div_sub' hden.ne', abs_div, abs_of_pos hden]
  refine ⟨?_, fun htie => ?_⟩
  · have hhigh' : (2 : ℚ) * num ≤ 2 * (den * roundHalfEven num den) + den := by
      exact_mod_cast hhigh
    have hlow' : (2 : ℚ) * (den * roundHalfEven num den) ≤ 2 * num + den := by
      exact_mod_cast hlow
    rw [hdist, div_le_iff₀ hden, abs_le]
    constructor <;> linarith
  · rw [hdist, div_eq_iff hden.ne'] at htie
    obtain ⟨k, hk⟩ : ∃ k, 2 * num = den * (2 * k + 1) := by
      rcases eq_or_eq_neg_of_abs_eq htie with habove | hbelow
      · refine ⟨roundHalfEven num den, ?_⟩
        have hq : (2 : ℚ) * num = den * (2 * roundHalfEven num den + 1) := by linarith
        exact_mod_cast hq
      · -- the number below the rounded one, which is not zero
        have hq : (2 : ℚ) * num + den = 2 * (den * roundHalfEven num den) := by linarith
        have hn : 2 * num + den = 2 * (den * roundHalfEven num den) := by exact_mod_cast hq
        cases hround : roundHalfEven num den with
        | zero =>
          rw [hround] at hn
          omega
        | succ k =>
          refine ⟨k, ?_⟩
          rw [hround] at hn
          linarith
    exact_mod_cast Nat.even_iff.mpr (roundHalfEven_even_of_half h hk)
/-! ### Multiples of a power of ten -/

section Multiples

variable {v w : ℚ} {m n : ℤ} {places : Nat}

/-- The nearest multiple of a unit is half a unit away at most. -/
theorem IsNearest.abs_sub_le (h : IsNearest (v * 10 ^ places) m) :
    |m / 10 ^ places - v| ≤ 1 / 2 / 10 ^ places := by
  have hpow : (0 : ℚ) < 10 ^ places := by positivity
  calc |m / 10 ^ places - v|
    _ = |v * 10 ^ places - m| / 10 ^ places := by
      rw [abs_sub_comm, sub_div' hpow.ne', abs_div, abs_of_pos hpow]
    _ ≤ 1 / 2 / 10 ^ places := div_le_div_of_nonneg_right h.near hpow.le

/-- The nearest multiples of a unit are in the order of what they are nearest to. -/
theorem IsNearest.div_le_div (hv : IsNearest (v * 10 ^ places) m)
    (hw : IsNearest (w * 10 ^ places) n) (h : v ≤ w) :
    (m : ℚ) / 10 ^ places ≤ n / 10 ^ places := by
  have hpow : (0 : ℚ) < 10 ^ places := by positivity
  have hle : m ≤ n := hv.mono hw (mul_le_mul_of_nonneg_right h hpow.le)
  exact div_le_div_of_nonneg_right (Int.cast_le.mpr hle) hpow.le

end Multiples

/-- The integer nearest to a magnitude is, with the sign, nearest to the value. -/
theorem Finite.isNearest_value {x : Finite} {places n : Nat}
    (h : IsNearest (x.magnitude * 10 ^ places) n) :
    IsNearest (x.value * 10 ^ places) (if x.negative then -(n : ℤ) else n) := by
  unfold value
  split_ifs with hneg
  · rw [neg_mul]
    exact h.neg
  · exact h

/-! ### Digits after a point -/

theorem digitsValue_concat (ds : List Char) (d : Char) :
    digitsValue (ds ++ [d]) = 10 * digitsValue ds + digitValue d := by
  rw [digitsValue, List.foldl_append]
  rfl

/-- Two runs of as many digits with one value are the same. -/
theorem digits_inj {as bs : List Char} (ha : ∀ d ∈ as, d.isDigit = true)
    (hb : ∀ d ∈ bs, d.isDigit = true) (hlen : as.length = bs.length)
    (hval : digitsValue as = digitsValue bs) : as = bs := by
  induction as using List.reverseRecOn generalizing bs with
  | nil => exact (List.length_eq_zero_iff.mp hlen.symm).symm
  | append_singleton as a ih =>
    obtain rfl | ⟨bs, b, rfl⟩ := List.eq_nil_or_concat bs
    · simp at hlen
    · rw [List.concat_eq_append] at *
      have hda := Char.isDigit_iff_toNat.mp (ha a (by simp))
      have hdb := Char.isDigit_iff_toNat.mp (hb b (by simp))
      rw [digitsValue_concat, digitsValue_concat, digitValue, digitValue] at hval
      rw [show '0'.toNat = 48 from rfl, show '9'.toNat = 57 from rfl] at *
      have hchar : a = b := Char.toNat_inj.mp (by omega)
      have hfront : digitsValue as = digitsValue bs := by omega
      rw [hchar, ih (fun d hd => ha d (List.mem_append_left _ hd))
        (fun d hd => hb d (List.mem_append_left _ hd)) (by simpa using hlen) hfront]

/-- The digits of a number without its last `places`, one at least, are those of the number without
that power of ten. -/
theorem length_decimal_div (places n : Nat) :
    (decimal (n / tenTo places)).length + places = max (places + 1) (decimal n).length := by
  have hpos : 0 < (decimal (n / tenTo places)).length :=
    List.length_pos_of_ne_nil (isDigits_decimal _).nonempty
  have hiff {k : Nat} (hk : 0 < k) :
      (decimal n).length ≤ k + places ↔ (decimal (n / tenTo places)).length ≤ k := by
    rw [length_decimal_le_iff (by omega), length_decimal_le_iff hk,
      Nat.div_lt_iff_lt_mul (tenTo_pos places), tenTo, tenTo, tenTo, Nat.pow_eq, Nat.pow_eq,
      Nat.pow_eq, Nat.pow_add]
  have hle := (hiff hpos).mpr le_rfl
  by_cases hone : (decimal (n / tenTo places)).length = 1
  · omega
  · have hprev := (hiff (k := (decimal (n / tenTo places)).length - 1) (by omega)).not
    omega

/-- A number filled up to one digit more than `places` is its part above them and that below. -/
theorem zeroPadded_succ {places : Nat} (h : 0 < places) (n : Nat) :
    zeroPadded (places + 1) n =
      decimal (n / tenTo places) ++ zeroPadded places (n % tenTo places) := by
  have hlen : (zeroPadded places (n % tenTo places)).length = places :=
    length_zeroPadded h (Nat.mod_lt _ (tenTo_pos places))
  refine digits_inj (isDigits_zeroPadded _ _).digits
    (List.forall_mem_append.mpr ⟨(isDigits_decimal _).digits, (isDigits_zeroPadded _ _).digits⟩)
    ?_ ?_
  · rw [List.length_append, hlen, length_decimal_div, zeroPadded, length_padStart]
  · rw [digitsValue_append, hlen, digitsValue_decimal, digitsValue_zeroPadded,
      digitsValue_zeroPadded, mul_comm, Nat.div_add_mod]

/-- The number `n / 10 ^ places` with just `places` digits after the point, and no point for none. -/
def pointText (places n : Nat) : List Char :=
  if places = 0 then decimal n
  else decimal (n / tenTo places) ++ '.' :: zeroPadded places (n % tenTo places)

theorem withPoint_decimal (places n : Nat) : withPoint places (decimal n) = pointText places n := by
  unfold withPoint pointText
  split_ifs with h
  · rfl
  · have hlen : (zeroPadded places (n % tenTo places)).length = places :=
      length_zeroPadded (Nat.pos_of_ne_zero h) (Nat.mod_lt _ (tenTo_pos places))
    have hpad : padStart (places + 1) '0' (decimal n) = _ := zeroPadded_succ (Nat.pos_of_ne_zero h) n
    have hcount : (decimal (n / tenTo places) ++ zeroPadded places (n % tenTo places)).length -
        places = (decimal (n / tenTo places)).length := by
      rw [List.length_append, hlen, Nat.add_sub_cancel]
    simp only [hpad, hcount, List.take_left, List.drop_left]

/-- **A value with a count of places is the text of the integer nearest to as many times ten.** -/
theorem Finite.fixed_eq (x : Finite) (places : Nat) :
    ∃ n : Nat, x.fixed places = pointText places n ∧
      IsNearest (x.magnitude * 10 ^ places) (n : ℤ) := by
  refine ⟨roundHalfEven (x.num * tenTo places) x.den, withPoint_decimal _ _, ?_⟩
  have hscaled : x.magnitude * 10 ^ places = ((x.num * tenTo places : Nat) : ℚ) / x.den := by
    rw [x.magnitude_eq, Nat.cast_mul, cast_tenTo, div_mul_eq_mul_div]
  exact hscaled ▸ isNearest_roundHalfEven _ x.den_pos

/-! ### Reading the places back -/

/-- Zeros in front of the digits before the point and a sign in front of these make a numeral. -/
theorem isNumeral_pointText {sign : List Char} {negative : Bool} (hs : IsOptSign sign negative)
    (k places n : Nat) :
    IsNumeral (sign ++ (List.replicate k '0' ++ pointText places n)) ⟨negative, n, -places⟩ := by
  have hvalue (m : Nat) : digitsValue (List.replicate k '0' ++ decimal m) = m :=
    (digitsValue_zeros _ _).trans (digitsValue_decimal m)
  unfold pointText
  split_ifs with h
  · have hnumeral := IsNumeral.mk hs (.whole ((isDigits_decimal n).zeros k)) .absent
    simp only [List.append_nil, hvalue] at hnumeral
    rw [h]
    exact hnumeral
  · have hlen : (zeroPadded places (n % tenTo places)).length = places :=
      length_zeroPadded (Nat.pos_of_ne_zero h) (Nat.mod_lt _ (tenTo_pos places))
    have hnumeral := IsNumeral.mk hs
      (.point ((isDigits_decimal (n / tenTo places)).zeros k)
        (isDigits_zeroPadded places (n % tenTo places)).digits)
      .absent
    rw [List.append_nil, digitsValue_append, hvalue, digitsValue_zeroPadded, hlen, mul_comm,
      Nat.div_add_mod, Int.zero_sub, List.append_assoc] at hnumeral
    exact hnumeral

end PathTemplate.Decimal
