/-
# Rounding a quotient

A quotient of naturals is rounded to the nearest natural, a half to the even
neighbour.

Key definitions: `roundHalfEven`.
Key theorems: `roundHalfEven_near`, `roundHalfEven_even_of_half`.
-/

namespace PathTemplate.Decimal

/-- The natural nearest to `num / den`; of two equally near ones the even one. -/
def roundHalfEven (num den : Nat) : Nat :=
  let q := num / den
  let r := num % den
  if 2 * r < den ∨ (2 * r = den ∧ q % 2 = 0) then q else q + 1

/-- The rounded quotient is within half a unit of the exact one. -/
theorem roundHalfEven_near (num den : Nat) (h : 0 < den) :
    2 * num ≤ 2 * (den * roundHalfEven num den) + den ∧
      2 * (den * roundHalfEven num den) ≤ 2 * num + den := by
  have e : den * (num / den) + num % den = num := Nat.div_add_mod num den
  have l : num % den < den := Nat.mod_lt _ h
  unfold roundHalfEven
  simp only []
  split
  · omega
  · rw [Nat.mul_add, Nat.mul_one]
    omega

/-- Half way between two naturals the quotient is rounded to the even one. -/
theorem roundHalfEven_even_of_half {num den k : Nat} (hd : 0 < den)
    (h : 2 * num = den * (2 * k + 1)) : roundHalfEven num den % 2 = 0 := by
  have e : num = den * k + den / 2 ∧ 2 * (den / 2) = den := by
    rw [Nat.mul_add, ← Nat.mul_assoc, Nat.mul_comm den 2, Nat.mul_assoc] at h
    omega
  have hdiv : num / den = k := by
    rw [e.1, Nat.mul_add_div hd, Nat.div_eq_of_lt (by omega), Nat.add_zero]
  have hmod : num % den = den / 2 := by
    rw [e.1, Nat.mul_add_mod, Nat.mod_eq_of_lt (by omega)]
  unfold roundHalfEven
  simp only [hdiv, hmod]
  split <;> omega

end PathTemplate.Decimal
