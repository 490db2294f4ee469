/-
# Numbers are read as the nearest values

Rounding to a binary format is done in two parts. The exponent is fixed first,
as the least with which the significand still fits, and then the significand is
rounded to the nearest natural. The values with a smaller exponent lie below a
value with this one that is nearer, so the result is nearest among all values of
the format, and of two that are as near it is the one with an even significand
(`isRoundingOf_round`).

A greatest exponent comes on top of that. What is rounded beyond it is half a
unit above the greatest finite value or more, and becomes infinite; everything
else is rounded to a finite value (`rounds_ofRatio`). A numeral that is far too
great or too small for its powers to be computed is rounded in the same way
(`rounds_toBinary`), so a numeral is read as the nearest value
(`exists_read_rounds`).

Key definitions: `Format.Holds`, `Format.IsRoundingOf`, `Binary64.overflow`, `Binary64.Rounds`.
Key theorems: `floorLog2_bounds`, `exponent_bounds`, `isRoundingOf_round`, `rounds_ofRatio`,
`rounds_toBinary`, `exists_read_rounds`.
-/
import Mathlib
import PathTemplate.Proofs.Decimal.FixedPlaces

namespace PathTemplate.Decimal

/-! ### The exponent -/

variable {num den : Nat}

/-- Powers of two may be compared with a quotient in naturals. -/
theorem two_zpow_le_div_iff (hd : 0 < den) (e : ℤ) :
    (2 : ℚ) ^ e ≤ num / den ↔ den * twoTo e.toNat ≤ num * twoTo (-e).toNat := by
  have hden : (0 : ℚ) < den := Nat.cast_pos.mpr hd
  have hpow : (0 : ℚ) < twoTo (-e).toNat := Nat.cast_pos.mpr (twoTo_pos _)
  rw [two_zpow_eq, div_le_div_iff₀ hpow hden, mul_comm (twoTo e.toNat : ℚ)]
  exact_mod_cast Iff.rfl

theorem two_zpow_log2_le {n : Nat} (hn : 0 < n) : (2 : ℚ) ^ (n.log2 : ℤ) ≤ n := by
  exact_mod_cast Nat.log2_self_le hn.ne'

theorem lt_two_zpow_log2 (n : Nat) : (n : ℚ) < 2 ^ ((n.log2 : ℤ) + 1) := by
  exact_mod_cast Nat.lt_log2_self

/-- **A quotient lies between the power of two that is found and the next.** -/
theorem floorLog2_bounds (hn : 0 < num) (hd : 0 < den) :
    (2 : ℚ) ^ floorLog2 num den ≤ num / den ∧ (num : ℚ) / den < 2 ^ (floorLog2 num den + 1) := by
  have hden : (0 : ℚ) < den := Nat.cast_pos.mpr hd
  have hlow : (2 : ℚ) ^ ((num.log2 : ℤ) - den.log2 - 1) ≤ num / den := by
    rw [le_div_iff₀ hden]
    calc (2 : ℚ) ^ ((num.log2 : ℤ) - den.log2 - 1) * den
      _ ≤ 2 ^ ((num.log2 : ℤ) - den.log2 - 1) * 2 ^ ((den.log2 : ℤ) + 1) := by
        gcongr
        exact (lt_two_zpow_log2 den).le
      _ = 2 ^ (num.log2 : ℤ) := by
        rw [← zpow_add₀ two_ne_zero]
        congr 1
        ring
      _ ≤ num := two_zpow_log2_le hn
  have hhigh : (num : ℚ) / den < 2 ^ ((num.log2 : ℤ) - den.log2 + 1) := by
    rw [div_lt_iff₀ hden]
    calc (num : ℚ)
      _ < 2 ^ ((num.log2 : ℤ) + 1) := lt_two_zpow_log2 num
      _ = 2 ^ ((num.log2 : ℤ) - den.log2 + 1) * 2 ^ (den.log2 : ℤ) := by
        rw [← zpow_add₀ two_ne_zero]
        congr 1
        ring
      _ ≤ 2 ^ ((num.log2 : ℤ) - den.log2 + 1) * den := by
        gcongr
        exact two_zpow_log2_le hd
  unfold floorLog2
  simp only [← two_zpow_le_div_iff hd]
  split_ifs with hle
  · exact ⟨hle, hhigh⟩
  · rw [sub_add_cancel]
    exact ⟨hlow, not_le.mp hle⟩

/-! ### Nearest integers among integers -/

section

variable {r : ℚ} {m : ℤ}

theorem isNearest_self (n : ℤ) : IsNearest n n := by
  constructor <;> norm_num

/-- No integer is nearer than a nearest one, and one that is as near is the same or leaves it
even. -/
theorem IsNearest.abs_sub_le_abs_sub (h : IsNearest r m) (n : ℤ) :
    |r - m| ≤ |r - n| ∧ (|r - m| = |r - n| → n = m ∨ Even m) := by
  by_cases hne : n = m
  · exact ⟨by rw [hne], fun _ => .inl hne⟩
  · have hone : (1 : ℚ) ≤ |(n : ℚ) - m| := by
      exact_mod_cast Int.one_le_abs (sub_ne_zero.mpr hne)
    have hfar : 1 / 2 ≤ |r - n| := by
      have htriangle := abs_sub_abs_le_abs_sub ((n : ℚ) - m) (r - m)
      rw [sub_sub_sub_cancel_right, abs_sub_comm (n : ℚ) r] at htriangle
      linarith [h.near]
    refine ⟨h.near.trans hfar, fun htie => .inr (h.even ?_)⟩
    linarith [h.near]

end

/-! ### Formats without a greatest exponent -/

namespace Format

/-- Whether a significand with an exponent is a value of a format, if the greatest exponent does not
count. -/
structure Holds (f : Format) (m : Nat) (e : ℤ) : Prop where
  lt : m < 2 ^ f.precision
  le : f.minExponent ≤ e

/-- Whether `m * 2 ^ e` is what a number is rounded to in a format, if the greatest exponent does
not count: it is spelled as it should be, no value of the format is nearer, and only to an even
significand is another one as near. -/
structure IsRoundingOf (f : Format) (r : ℚ) (m : Nat) (e : ℤ) : Prop where
  holds : f.Holds m e
  normal : 2 ^ (f.precision - 1) ≤ m ∨ e = f.minExponent
  near : ∀ n k, f.Holds n k → |r - m * 2 ^ e| ≤ |r - n * 2 ^ k|
  even : ∀ n k, f.Holds n k → |r - m * 2 ^ e| = |r - n * 2 ^ k| →
    (n * 2 ^ k : ℚ) = m * 2 ^ e ∨ Even m

variable {f : Format} {r : ℚ} {m : Nat} {e : ℤ}

/-- With a greater exponent a value is a multiple of the unit of a smaller one. -/
theorem Holds.exists_multiple {n : Nat} {k : ℤ} (h : e ≤ k) :
    ∃ N : Nat, (n * 2 ^ k : ℚ) = N * 2 ^ e := by
  obtain ⟨d, rfl⟩ := Int.le.dest h
  refine ⟨n * 2 ^ d, ?_⟩
  rw [zpow_add₀ two_ne_zero, zpow_natCast, Nat.cast_mul, Nat.cast_pow, Nat.cast_ofNat]
  ring

/-- In the unit of an exponent distances are those of integers. -/
theorem abs_sub_mul_zpow (r : ℚ) (n : Nat) (e : ℤ) :
    |r - n * 2 ^ e| = |r / 2 ^ e - (n : ℤ)| * 2 ^ e := by
  have hpos : (0 : ℚ) < 2 ^ e := by positivity
  rw [← abs_of_pos hpos, ← abs_mul, abs_of_pos hpos, sub_mul, div_mul_cancel₀ _ hpos.ne',
    Int.cast_natCast]

/-- **The nearest integer in the unit of the right exponent is nearest among all values.** -/
theorem near_of_isNearest (hprec : 1 ≤ f.precision)
    (hlow : 2 ^ (e + f.precision - 1) ≤ r ∨ e = f.minExponent)
    (hm : IsNearest (r / 2 ^ e) (m : ℤ)) {n : Nat} {k : ℤ} (hn : f.Holds n k) :
    |r - m * 2 ^ e| ≤ |r - n * 2 ^ k| ∧
      (|r - m * 2 ^ e| = |r - n * 2 ^ k| → (n * 2 ^ k : ℚ) = m * 2 ^ e ∨ Even m) := by
  have hpos : (0 : ℚ) < 2 ^ e := by positivity
  have hmultiple (N : Nat) : |r - m * 2 ^ e| ≤ |r - N * 2 ^ e| ∧
      (|r - m * 2 ^ e| = |r - N * 2 ^ e| → (N * 2 ^ e : ℚ) = m * 2 ^ e ∨ Even m) := by
    obtain ⟨hle, htie⟩ := hm.abs_sub_le_abs_sub (N : ℤ)
    rw [abs_sub_mul_zpow, abs_sub_mul_zpow]
    refine ⟨mul_le_mul_of_nonneg_right hle hpos.le, fun heq => ?_⟩
    rcases htie (mul_right_cancel₀ hpos.ne' heq) with hsame | heven
    · exact .inl (by rw [Nat.cast_inj.mp hsame])
    · exact .inr (by exact_mod_cast heven)
  rcases le_or_gt e k with hle | hlt
  · obtain ⟨N, hN⟩ := Holds.exists_multiple (n := n) hle
    rw [hN]
    exact hmultiple N
  · -- the least value of full length with this exponent lies between the two
    have hfull : (2 : ℚ) ^ (e + f.precision - 1) ≤ r :=
      hlow.resolve_right fun heq => absurd hn.le (by omega)
    have hbelow : (n * 2 ^ k : ℚ) < 2 ^ (e + f.precision - 1) := by
      calc (n * 2 ^ k : ℚ)
        _ < 2 ^ f.precision * 2 ^ k := by
          gcongr
          exact_mod_cast hn.lt
        _ = 2 ^ (k + f.precision) := by rw [zpow_add₀ two_ne_zero, zpow_natCast, mul_comm]
        _ ≤ 2 ^ (e + f.precision - 1) := zpow_le_zpow_right₀ one_le_two (by omega)
    have hunit : ((2 ^ (f.precision - 1) : Nat) * 2 ^ e : ℚ) = 2 ^ (e + f.precision - 1) := by
      rw [Nat.cast_pow, Nat.cast_ofNat, ← zpow_natCast, ← zpow_add₀ two_ne_zero]
      congr 1
      omega
    have hnearer : |r - m * 2 ^ e| < |r - n * 2 ^ k| := by
      calc |r - m * 2 ^ e|
        _ ≤ |r - (2 ^ (f.precision - 1) : Nat) * 2 ^ e| := (hmultiple _).1
        _ = r - 2 ^ (e + f.precision - 1) := by rw [hunit, abs_of_nonneg (by linarith)]
        _ < r - n * 2 ^ k := by linarith
        _ = |r - n * 2 ^ k| := (abs_of_pos (by linarith)).symm
    exact ⟨hnearer.le, fun heq => absurd heq hnearer.ne⟩

/-- The quotient that is rounded to a natural is the number in the unit of the exponent. -/
theorem scaled_eq (num den : Nat) (e : ℤ) :
    ((num * twoTo (-e).toNat : Nat) : ℚ) / (den * twoTo e.toNat : Nat) = num / den / 2 ^ e := by
  rw [two_zpow_eq, Nat.cast_mul, Nat.cast_mul, div_div_eq_mul_div, div_mul_eq_mul_div, div_div]

/-- One digit more than fits, with nothing but zeros behind it, is spelled with the next
exponent. -/
theorem carry_eq {p : Nat} (hp : 1 ≤ p) (e : ℤ) :
    2 ^ p / 2 = 2 ^ (p - 1) ∧ ((2 ^ (p - 1) : Nat) * 2 ^ (e + 1) : ℚ) = (2 ^ p : Nat) * 2 ^ e := by
  obtain ⟨p, rfl⟩ := Nat.exists_eq_add_of_le' hp
  rw [Nat.add_sub_cancel, pow_succ]
  refine ⟨Nat.mul_div_cancel _ two_pos, ?_⟩
  rw [zpow_add_one₀ two_ne_zero]
  push_cast
  ring

/-- The exponent is the least with which the significand fits: a number has as many digits as fit
then, unless there is no lesser exponent. -/
theorem exponent_bounds {l : ℤ} (hlog : 2 ^ l ≤ r) (hnext : r < 2 ^ (l + 1))
    (he : max f.minExponent (l - (f.precision - 1)) = e) :
    (2 ^ (e + f.precision - 1) ≤ r ∨ e = f.minExponent) ∧ r / 2 ^ e ≤ (2 ^ f.precision : Nat) := by
  have hpos : (0 : ℚ) < 2 ^ e := by positivity
  constructor
  · rcases eq_or_ne e f.minExponent with heq | hne
    · exact .inr heq
    · refine .inl (hlog.trans' (zpow_le_zpow_right₀ one_le_two ?_))
      omega
  · rw [div_le_iff₀ hpos, Nat.cast_pow, Nat.cast_ofNat, ← zpow_natCast, ← zpow_add₀ two_ne_zero]
    refine hnext.le.trans (zpow_le_zpow_right₀ one_le_two ?_)
    omega

/-- **What is rounded in a format is rounded to a nearest value of it**, of two to the one with an
even significand. -/
theorem isRoundingOf_round (hprec : 2 ≤ f.precision) (hn : 0 < num) (hd : 0 < den) :
    f.IsRoundingOf (num / den) (f.round num den).1 (f.round num den).2 := by
  obtain ⟨hlog, hnext⟩ := floorLog2_bounds hn hd
  unfold round
  generalize floorLog2 num den = l at *
  generalize he : max f.minExponent (l - (f.precision - 1)) = e
  have hm := isNearest_roundHalfEven (num * twoTo (-e).toNat)
    (Nat.mul_pos hd (twoTo_pos e.toNat))
  rw [scaled_eq] at hm
  simp only
  generalize roundHalfEven (num * twoTo (-e).toNat) (den * twoTo e.toNat) = m at *
  generalize (num : ℚ) / den = r at *
  have hpos : (0 : ℚ) < 2 ^ e := by positivity
  have hmin : f.minExponent ≤ e := by omega
  obtain ⟨hlow, hscaled⟩ := exponent_bounds hlog hnext he
  have hle : m ≤ 2 ^ f.precision := by
    exact_mod_cast hm.mono (isNearest_self (2 ^ f.precision : Nat)) (by exact_mod_cast hscaled)
  have hnear {n : Nat} {k : ℤ} (h : f.Holds n k) := near_of_isNearest (by omega) hlow hm h
  split_ifs with hcarry
  · -- one digit more than fits, all of them zero behind the first
    obtain rfl : m = 2 ^ f.precision := hcarry
    obtain ⟨hhalf, hvalue⟩ := carry_eq (show 1 ≤ f.precision by omega) e
    rw [hhalf]
    have hlt : 2 ^ (f.precision - 1) < 2 ^ f.precision :=
      Nat.pow_lt_pow_right one_lt_two (by omega)
    refine ⟨⟨hlt, by omega⟩, .inl le_rfl, fun n k h => ?_, fun _ _ _ _ => .inr ?_⟩
    · rw [hvalue]
      exact (hnear h).1
    · exact even_two.pow_of_ne_zero (by omega)
  · refine ⟨⟨lt_of_le_of_ne hle hcarry, hmin⟩, hlow.imp_left fun hfull => ?_,
      fun n k h => (hnear h).1, fun n k h => (hnear h).2⟩
    have hscaled' : ((2 ^ (f.precision - 1) : Nat) : ℚ) ≤ r / 2 ^ e := by
      rw [le_div_iff₀ hpos, Nat.cast_pow, Nat.cast_ofNat, ← zpow_natCast, ← zpow_add₀ two_ne_zero]
      refine hfull.trans' (zpow_le_zpow_right₀ one_le_two ?_)
      omega
    exact_mod_cast (isNearest_self (2 ^ (f.precision - 1) : Nat)).mono hm
      (by exact_mod_cast hscaled')

end Format

/-! ### The 64-bit format -/

namespace Binary64

/-- The unit in which the greatest finite values are whole numbers. -/
def topUnit : ℚ := 2 ^ (971 : ℤ)

/-- The least number that is rounded to infinity, half way from the greatest finite value to what
would be the next. -/
def overflow : ℚ := (2 ^ 53 - 1 / 2) * topUnit

/-- Whether a value with a sign is what a magnitude is rounded to: the nearest finite value, of two
the one with an even significand, or infinity from the overflow on. -/
inductive Rounds (negative : Bool) (r : ℚ) : Binary64 → Prop
  | finite {x : Finite} (hsign : x.negative = negative) (hlt : r < overflow)
    (hnear : ∀ y : Finite, |r - x.magnitude| ≤ |r - y.magnitude|)
    (heven : ∀ y : Finite, |r - x.magnitude| = |r - y.magnitude| →
      y.magnitude = x.magnitude ∨ Even x.significand) : Rounds negative r (.finite x)
  | infinite (h : overflow ≤ r) : Rounds negative r (.infinite negative)

variable {r : ℚ} {m : Nat} {e : ℤ}

theorem holds_of_isNormalForm (h : IsNormalForm m e) : Format.double.Holds m e := ⟨h.1, h.2.1⟩

/-- The greatest finite value. -/
theorem holds_greatest : Format.double.Holds (2 ^ 53 - 1) 971 := ⟨by decide, by decide⟩

/-- The next value, if there were greater exponents. -/
theorem holds_next : Format.double.Holds (2 ^ 52) 972 := ⟨by decide, by decide⟩

theorem topUnit_pos : 0 < topUnit := zpow_pos two_pos _

theorem next_eq : ((2 ^ 52 : Nat) * 2 ^ (972 : ℤ) : ℚ) = 2 ^ 53 * topUnit := by
  rw [show (972 : ℤ) = 971 + 1 by decide, zpow_add_one₀ two_ne_zero, ← topUnit]
  push_cast
  ring

/-- Up to the greatest exponent no value is above the greatest, and only that one has its
significand. -/
theorem le_greatest (hm : m < 2 ^ 53) (he : e ≤ 971) :
    (m * 2 ^ e : ℚ) ≤ (2 ^ 53 - 1) * topUnit ∧
      ((m * 2 ^ e : ℚ) = (2 ^ 53 - 1) * topUnit → m = 2 ^ 53 - 1) := by
  have hpow : (2 : ℚ) ^ e ≤ topUnit := zpow_le_zpow_right₀ one_le_two he
  have hstep : (m * 2 ^ e : ℚ) ≤ m * topUnit :=
    mul_le_mul_of_nonneg_left hpow (Nat.cast_nonneg m)
  have hcast : (m : ℚ) + 1 ≤ 2 ^ 53 := by exact_mod_cast hm
  refine ⟨hstep.trans (mul_le_mul_of_nonneg_right (by linarith) topUnit_pos.le), fun heq => ?_⟩
  have hge : (2 ^ 53 - 1 : ℚ) ≤ m := le_of_mul_le_mul_right (heq.ge.trans hstep) topUnit_pos
  have hq : (m : ℚ) + 1 = 2 ^ 53 := le_antisymm hcast (by linarith)
  have hn : m + 1 = 2 ^ 53 := by exact_mod_cast hq
  exact Nat.eq_sub_of_add_eq hn

/-- Rounding goes beyond the greatest exponent exactly from the overflow on. -/
theorem overflow_le_iff (h : Format.double.IsRoundingOf r m e) : overflow ≤ r ↔ 971 < e := by
  have hunit := topUnit_pos
  unfold overflow
  constructor
  · -- a value up to the greatest one is not nearer than the next, or else leaves an odd significand
    intro hr
    by_contra hle
    obtain ⟨hgreatest, hsame⟩ := le_greatest h.holds.lt (not_lt.mp hle)
    have hnear := h.near _ _ holds_next
    have heven := h.even _ _ holds_next
    have hdist : |r - m * 2 ^ e| = r - m * 2 ^ e := abs_of_nonneg (by linarith)
    rw [next_eq, hdist] at hnear heven
    rcases le_total (2 ^ 53 * topUnit) r with habove | hbelow
    · rw [abs_of_nonneg (by linarith)] at hnear
      linarith
    · rw [abs_of_nonpos (by linarith)] at hnear heven
      rcases heven (by linarith) with heq | heq
      · linarith
      · rw [hsame (by linarith)] at heq
        exact absurd heq (by decide)
  · -- a value from the next on is farther away than the greatest one
    intro he
    by_contra hr
    have hfull : 2 ^ 52 ≤ m := h.normal.resolve_right fun heq => by
      rw [heq] at he
      exact absurd he (by decide)
    have hnext : (2 ^ 53 * topUnit : ℚ) ≤ m * 2 ^ e := by
      rw [← next_eq]
      have hpow : (2 : ℚ) ^ (972 : ℤ) ≤ 2 ^ e := zpow_le_zpow_right₀ one_le_two he
      gcongr
    have hnear := h.near _ _ holds_greatest
    have hcast : ((2 ^ 53 - 1 : Nat) : ℚ) = 2 ^ 53 - 1 := by norm_num
    have hdist : |r - m * 2 ^ e| = m * 2 ^ e - r := by
      rw [abs_sub_comm, abs_of_nonneg (by linarith)]
    rw [hcast, hdist, ← topUnit] at hnear
    rcases abs_cases (r - (2 ^ 53 - 1) * topUnit) with ⟨habs, -⟩ | ⟨habs, -⟩
    · linarith
    · linarith

theorem magnitude_zero (negative : Bool) : (Finite.zero negative).magnitude = 0 := by
  rw [Finite.magnitude, Finite.zero, Nat.cast_zero, zero_mul]

/-- Half the least positive value, and what is below it, is rounded to zero. -/
theorem rounds_zero (negative : Bool) (h0 : 0 ≤ r) (hr : r ≤ 2 ^ (-1075 : ℤ)) :
    Rounds negative r (.finite (Finite.zero negative)) := by
  have hhalf : (2 : ℚ) ^ (-1074 : ℤ) = 2 ^ (-1075 : ℤ) * 2 := zpow_add_one₀ two_ne_zero (-1075)
  have hunit : (2 : ℚ) ^ (-1075 : ℤ) ≤ topUnit := zpow_le_zpow_right₀ one_le_two (by decide)
  have hpos : (0 : ℚ) < 2 ^ (-1075 : ℤ) := zpow_pos two_pos _
  refine .finite rfl ?_ (fun y => ?_) fun y _ => .inr ⟨0, rfl⟩
  · generalize (2 : ℚ) ^ (-1075 : ℤ) = d at *
    unfold overflow
    linarith
  · rw [magnitude_zero, sub_zero, abs_of_nonneg h0]
    rcases Nat.eq_zero_or_pos y.significand with hzero | hsignificand
    · rw [Finite.magnitude, hzero, Nat.cast_zero, zero_mul, sub_zero]
      exact le_abs_self r
    · have hleast : (2 : ℚ) ^ (-1074 : ℤ) ≤ y.magnitude := by
        calc (2 : ℚ) ^ (-1074 : ℤ)
          _ ≤ 2 ^ y.exponent := zpow_le_zpow_right₀ one_le_two y.normal.2.1
          _ ≤ y.significand * 2 ^ y.exponent :=
            le_mul_of_one_le_left (by positivity) (by exact_mod_cast hsignificand)
      rw [abs_sub_comm]
      rw [hhalf] at hleast
      generalize (2 : ℚ) ^ (-1075 : ℤ) = d at *
      exact (le_abs_self _).trans' (by linarith)

/-- **A quotient is read as the nearest 64-bit value.** -/
theorem rounds_ofRatio (negative : Bool) (num : Nat) (hd : 0 < den) :
    Rounds negative (num / den) (ofRatio negative num den) := by
  rcases Nat.eq_zero_or_pos num with rfl | hn
  · rw [ofRatio, if_pos rfl, Nat.cast_zero, zero_div]
    exact rounds_zero negative le_rfl (zpow_pos two_pos _).le
  · have hround := Format.double.isRoundingOf_round (by decide) hn hd
    rw [ofRatio, if_neg hn.ne']
    simp only
    generalize (Format.double.round num den).1 = m at *
    generalize (Format.double.round num den).2 = e at *
    split_ifs with hnormal
    · refine .finite rfl (lt_of_not_ge fun hle => ?_) (fun y => ?_) (fun y => ?_)
      · exact absurd ((overflow_le_iff hround).mp hle) (not_lt.mpr hnormal.2.2.1)
      · exact hround.near _ _ (holds_of_isNormalForm y.normal)
      · exact hround.even _ _ (holds_of_isNormalForm y.normal)
    · refine .infinite ((overflow_le_iff hround).mpr (not_le.mp fun hle => hnormal ?_))
      exact ⟨hround.holds.lt, hround.holds.le, hle, hround.normal⟩

end Binary64

/-! ### Numerals -/

namespace Numeral

variable {n : Numeral}

theorem abs_value (n : Numeral) : |n.value| = n.digits * 10 ^ n.exponent := by
  have hpow : (0 : ℚ) < 10 ^ n.exponent := by positivity
  rw [value, abs_mul, abs_of_pos hpow]
  split_ifs <;> simp

/-- A numeral lies below the power of ten that is found, and not below the one before. -/
theorem scale_bounds (hn : n.digits ≠ 0) :
    (10 : ℚ) ^ (n.scale - 1) ≤ n.digits * 10 ^ n.exponent ∧
      (n.digits * 10 ^ n.exponent : ℚ) < 10 ^ n.scale := by
  have hpow : (0 : ℚ) < 10 ^ n.exponent := by positivity
  have hlength : 0 < (decimal n.digits).length :=
    List.length_pos_of_ne_nil (isDigits_decimal _).nonempty
  have hten : (10 : ℚ) ≠ 0 := by norm_num
  have hhigh : n.digits < 10 ^ (decimal n.digits).length :=
    (length_decimal_le_iff hlength).mp le_rfl
  have hlow : 10 ^ ((decimal n.digits).length - 1) ≤ n.digits := by
    rcases Nat.eq_zero_or_pos ((decimal n.digits).length - 1) with hone | hmore
    · rw [hone, pow_zero]
      exact Nat.pos_of_ne_zero hn
    · by_contra hlt
      have hle := (length_decimal_le_iff hmore).mpr (not_le.mp hlt)
      omega
  constructor
  · calc (10 : ℚ) ^ (n.scale - 1)
      _ = 10 ^ ((decimal n.digits).length - 1) * 10 ^ n.exponent := by
        rw [scale, ← zpow_natCast, ← zpow_add₀ hten]
        congr 1
        omega
      _ ≤ n.digits * 10 ^ n.exponent := by
        gcongr
        exact_mod_cast hlow
  · calc (n.digits * 10 ^ n.exponent : ℚ)
      _ < 10 ^ (decimal n.digits).length * 10 ^ n.exponent := by
        gcongr
        exact_mod_cast hhigh
      _ = 10 ^ n.scale := by rw [scale, zpow_add₀ hten, zpow_natCast]

theorem two_pow_le_ten_pow (k : Nat) : (2 : ℚ) ^ (3 * k) ≤ 10 ^ k := by
  rw [pow_mul]
  exact pow_le_pow_left₀ (by norm_num) (by norm_num) k

theorem ten_zpow_neg_le (k : Nat) : (10 : ℚ) ^ (-k : ℤ) ≤ 2 ^ (-(3 * k : Nat) : ℤ) := by
  rw [zpow_neg, zpow_neg, zpow_natCast, zpow_natCast]
  exact inv_anti₀ (by positivity) (two_pow_le_ten_pow k)

/-- What is read as zero lies far below the least positive value. -/
theorem le_of_small (h : n.digits = 0 ∨ n.scale < -400) :
    (n.digits * 10 ^ n.exponent : ℚ) ≤ 2 ^ (-1075 : ℤ) := by
  by_cases hn : n.digits = 0
  · rw [hn, Nat.cast_zero, zero_mul]
    exact (zpow_pos two_pos _).le
  · have hscale : n.scale ≤ -(401 : Nat) := by
      have := h.resolve_left hn
      omega
    calc (n.digits * 10 ^ n.exponent : ℚ)
      _ ≤ 10 ^ n.scale := (scale_bounds hn).2.le
      _ ≤ 10 ^ (-(401 : Nat) : ℤ) := zpow_le_zpow_right₀ (by norm_num) hscale
      _ ≤ 2 ^ (-(3 * 401 : Nat) : ℤ) := ten_zpow_neg_le 401
      _ ≤ 2 ^ (-1075 : ℤ) := zpow_le_zpow_right₀ one_le_two (by decide)

/-- What is read as infinite without its power lies far above the greatest value. -/
theorem overflow_le_of_large (hn : n.digits ≠ 0) (h : 400 < n.scale) :
    Binary64.overflow ≤ n.digits * 10 ^ n.exponent := by
  have hround : (2 ^ 53 - 1 / 2 : ℚ) ≤ 2 ^ ((53 : Nat) : ℤ) := by
    rw [zpow_natCast]
    linarith
  calc Binary64.overflow
    _ ≤ 2 ^ ((53 : Nat) : ℤ) * Binary64.topUnit :=
      mul_le_mul_of_nonneg_right hround Binary64.topUnit_pos.le
    _ = 2 ^ (((53 : Nat) : ℤ) + 971) := (zpow_add₀ two_ne_zero _ _).symm
    _ ≤ 2 ^ ((3 * 400 : Nat) : ℤ) := zpow_le_zpow_right₀ one_le_two (by decide)
    _ ≤ 10 ^ ((400 : Nat) : ℤ) := by
      rw [zpow_natCast, zpow_natCast]
      exact two_pow_le_ten_pow 400
    _ ≤ 10 ^ (n.scale - 1) := zpow_le_zpow_right₀ (by norm_num) (by omega)
    _ ≤ n.digits * 10 ^ n.exponent := (scale_bounds hn).1

/-- **A numeral is read as the nearest 64-bit value**, also where its powers are not computed. -/
theorem rounds_toBinary (n : Numeral) :
    Binary64.Rounds n.negative |n.value| (n.toBinary Binary64.ofRatio) := by
  rw [toBinary, abs_value]
  split_ifs with hsmall hlarge
  · exact Binary64.rounds_zero _ (by positivity) (le_of_small hsmall)
  · exact .infinite (overflow_le_of_large (fun hzero => hsmall (.inl hzero)) hlarge)
  · have hvalue : (n.digits * 10 ^ n.exponent : ℚ) =
        ((n.digits * tenTo n.exponent.toNat : Nat) : ℚ) / (tenTo (-n.exponent).toNat : Nat) := by
      rw [zpow_eq_div (by norm_num), Nat.cast_mul, cast_tenTo, cast_tenTo, mul_div_assoc]
    rw [hvalue]
    exact Binary64.rounds_ofRatio _ _ (tenTo_pos _)

end Numeral

/-- **A text that writes a numeral is read as the 64-bit value nearest to it.** -/
theorem Binary64.exists_read_rounds {cs : List Char} {n : Numeral} (h : IsNumeral cs n) :
    ∃ x, read cs = some x ∧ Rounds n.negative |n.value| x :=
  ⟨_, read_of_isNumeral h, n.rounds_toBinary⟩

end PathTemplate.Decimal
