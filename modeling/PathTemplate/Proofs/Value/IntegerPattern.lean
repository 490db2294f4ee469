/-
# Integers in patterns

An integer takes a pattern that is digits alone, which write a width of 65535 at
most. What comes of it has just the width, or the length of the integer's own
text when that is greater: spaces stand in front of that text, or zeros between
the sign and the digits when the pattern starts with one. Zeros change nothing:
the text reads back as the integer.

So an integer below a power of ten fills just as many places as the power has
zeros, if it has any: no width takes away the last digit.

Key definitions: `zeroPattern`.
Key theorems: `isWritten_false_iff`, `Value.render_integer_eq_ok_iff`,
`Value.render_integer_exact`.
-/
import PathTemplate.Proofs.Value.Inference
import PathTemplate.Proofs.Value.NumberPattern

namespace PathTemplate

open Decimal

/-- The pattern that fills up with zeros to a width. -/
def zeroPattern (width : Nat) : String := String.ofList ('0' :: decimal width)

/-- Without places a pattern is a width. -/
theorem NumberPattern.isWritten_false_iff {cs : List Char} {p : NumberPattern} :
    IsWritten false cs p ↔ (∀ d ∈ cs, d.isDigit = true) ∧ digitsValue cs ≤ 65535 ∧
      p = ⟨cs.head? == some '0', digitsValue cs, none⟩ := by
  constructor
  · rintro (⟨hw, hwidth⟩ | ⟨hplaces, -⟩)
    · exact ⟨hw, hwidth, rfl⟩
    · cases hplaces
  · rintro ⟨hw, hwidth, rfl⟩
    exact .width hw hwidth

namespace Value

variable {v : Int} {p s : String}

theorem signedDecimal_eq (v : Int) :
    signedDecimal v = (if v < 0 then ['-'] else []) ++ decimal v.natAbs := by
  unfold signedDecimal
  split_ifs <;> rfl

/-- **What comes of an integer in a pattern.** -/
theorem render_integer_eq_ok_iff :
    (Value.integer v).render (some p) = .ok s ↔
      (∀ d ∈ p.toList, d.isDigit = true) ∧ digitsValue p.toList ≤ 65535 ∧
        s.toList = NumberPattern.fill ⟨p.toList.head? == some '0', digitsValue p.toList, none⟩
          (if v < 0 then ['-'] else []) (decimal v.natAbs) := by
  rw [render, renderInteger]
  cases hread : NumberPattern.read false p.toList with
  | error fault =>
    refine ⟨nofun, fun ⟨hdigits, hwidth, _⟩ => ?_⟩
    have hok := NumberPattern.read_eq_ok_iff.mpr
      (NumberPattern.isWritten_false_iff.mpr ⟨hdigits, hwidth, rfl⟩)
    exact absurd (hread.symm.trans hok) nofun
  | ok q =>
    obtain ⟨hdigits, hwidth, rfl⟩ :=
      NumberPattern.isWritten_false_iff.mp (NumberPattern.read_eq_ok_iff.mp hread)
    constructor
    · rintro ⟨⟩
      exact ⟨hdigits, hwidth, String.toList_ofList⟩
    · rintro ⟨-, -, hs⟩
      rw [← String.ofList_toList (s := s), hs]
      rfl

theorem exists_render_integer_iff :
    (∃ s, (Value.integer v).render (some p) = .ok s) ↔
      (∀ d ∈ p.toList, d.isDigit = true) ∧ digitsValue p.toList ≤ 65535 := by
  constructor
  · rintro ⟨s, hs⟩
    obtain ⟨hdigits, hwidth, -⟩ := render_integer_eq_ok_iff.mp hs
    exact ⟨hdigits, hwidth⟩
  · rintro ⟨hdigits, hwidth⟩
    exact ⟨_, render_integer_eq_ok_iff.mpr ⟨hdigits, hwidth, String.toList_ofList⟩⟩

theorem length_render_integer (h : (Value.integer v).render (some p) = .ok s) :
    s.length = max (digitsValue p.toList) (signedDecimal v).length := by
  obtain ⟨-, -, hs⟩ := render_integer_eq_ok_iff.mp h
  rw [← String.length_toList, hs, NumberPattern.length_fill, ← signedDecimal_eq]

/-- Zeros between the sign and the digits of an integer do not change it. -/
theorem isInteger_zeros (v : Int) (k : Nat) :
    IsInteger ((if v < 0 then ['-'] else []) ++ (List.replicate k '0' ++ decimal v.natAbs)) v := by
  have hdigits := (isDigits_decimal v.natAbs).zeros k
  have hvalue : digitsValue (List.replicate k '0' ++ decimal v.natAbs) = v.natAbs :=
    (digitsValue_zeros _ _).trans (digitsValue_decimal _)
  split_ifs with hneg
  · have h := IsInteger.mk .minus hdigits
    rw [hvalue, if_pos rfl, Int.ofNat_natAbs_of_nonpos hneg.le, Int.neg_neg] at h
    exact h
  · have h := IsInteger.mk .absent hdigits
    rw [hvalue, if_neg Bool.false_ne_true, Int.natAbs_of_nonneg (Int.not_lt.mp hneg)] at h
    exact h

/-- **An integer filled up with zeros reads back.** -/
theorem infer_zeros (hv : isInt64 v = true) {k : Nat}
    (hs : s.toList = (if v < 0 then ['-'] else []) ++
      (List.replicate k '0' ++ decimal v.natAbs)) (zone : Time.Zone) :
    infer zone s = .integer v :=
  infer_eq_iff.mpr (.integer ⟨hs ▸ isInteger_zeros v k, hv⟩)

/-! ### Zeros up to a width -/

theorem digits_zeroPattern (k : Nat) :
    (∀ d ∈ (zeroPattern k).toList, d.isDigit = true) ∧ digitsValue (zeroPattern k).toList = k := by
  rw [zeroPattern, String.toList_ofList]
  refine ⟨List.forall_mem_cons.mpr ⟨rfl, (isDigits_decimal k).digits⟩, ?_⟩
  exact (digitsValue_zeros 1 _).trans (digitsValue_decimal k)

theorem signedDecimal_of_nonneg (h : 0 ≤ v) : signedDecimal v = decimal v.natAbs :=
  if_neg (Int.not_lt.mpr h)

/-- An integer below a power of ten is filled up to as many places as that has zeros. -/
theorem exists_render_zeroPattern {k : Nat} (hk : 1 ≤ k) (hwidth : k ≤ 65535) (h : 0 ≤ v)
    (hlt : v < tenTo k) :
    ∃ s, (Value.integer v).render (some (zeroPattern k)) = .ok s ∧ s.length = k := by
  obtain ⟨hdigits, hvalue⟩ := digits_zeroPattern k
  obtain ⟨s, hs⟩ := exists_render_integer_iff.mpr ⟨hdigits, hvalue.trans_le hwidth⟩
  have hlen : (decimal v.natAbs).length ≤ k := (length_decimal_le_iff hk).mpr (by omega)
  refine ⟨s, hs, ?_⟩
  rw [length_render_integer hs, hvalue, signedDecimal_of_nonneg h, max_eq_left hlen]

/-- An integer that 64 bits hold is above no power of ten with more zeros than a width may have. -/
theorem le_of_tenTo_le (hv : isInt64 v = true) {k : Nat} (hle : tenTo k ≤ v) : k ≤ 65535 := by
  have hlt : v < twoTo 63 := (of_decide_eq_true hv).2
  have hmost : twoTo 63 ≤ tenTo 19 := by decide
  by_contra hk
  have hpower : tenTo 19 ≤ tenTo k := tenTo_le_tenTo (by omega)
  omega

/-- An integer of at least a power of ten is written without zeros in front. -/
theorem render_zeroPattern_of_le (hv : isInt64 v = true) {k : Nat} (h : 0 ≤ v)
    (hle : tenTo k ≤ v) :
    (Value.integer v).render (some (zeroPattern k)) = (Value.integer v).render none := by
  obtain ⟨hdigits, hvalue⟩ := digits_zeroPattern k
  have hlen : k ≤ (decimal v.natAbs).length := by
    by_contra hshort
    have hpos : 0 < k := by omega
    have hlt := (length_decimal_le_iff hpos).mp (Nat.not_le.mp hshort).le
    omega
  refine (render_integer_eq_ok_iff (s := String.ofList (signedDecimal v))).mpr
    ⟨hdigits, hvalue.trans_le (le_of_tenTo_le hv hle), ?_⟩
  rw [String.toList_ofList, hvalue, NumberPattern.fill_eq, if_neg (Int.not_lt.mpr h),
    signedDecimal_of_nonneg h]
  simp only [List.nil_append, Nat.sub_eq_zero_of_le hlen, List.replicate_zero, ite_self]

/-- **Integers are filled up exactly, and nothing of them is lost.** A pattern of digits that write
at most 65535 is taken, and no other. Where zeros are asked for, the text reads back; they fill up to
any width from 1 on that such a pattern writes, and what does not fit in it is written in full. -/
theorem render_integer_exact (hv : isInt64 v = true) :
    (∀ p : String,
      ((∃ s, (Value.integer v).render (some p) = .ok s) ↔
        (∀ d ∈ p.toList, d.isDigit = true) ∧ digitsValue p.toList ≤ 65535) ∧
      ∀ s, (Value.integer v).render (some p) = .ok s →
        s.length = max (digitsValue p.toList) (signedDecimal v).length ∧
        (p.toList.head? ≠ some '0' →
          ∃ k, s.toList = List.replicate k ' ' ++ signedDecimal v) ∧
        (p.toList.head? = some '0' →
          (∃ k, s.toList = (if v < 0 then ['-'] else []) ++
            (List.replicate k '0' ++ decimal v.natAbs)) ∧
          ∀ zone, infer zone s = .integer v)) ∧
    ∀ k : Nat, 0 ≤ v →
      (1 ≤ k → k ≤ 65535 → v < tenTo k →
        ∃ s, (Value.integer v).render (some (zeroPattern k)) = .ok s ∧ s.length = k) ∧
      (tenTo k ≤ v →
        (Value.integer v).render (some (zeroPattern k)) = (Value.integer v).render none) := by
  refine ⟨fun p => ⟨exists_render_integer_iff, fun s hs => ⟨length_render_integer hs, ?_, ?_⟩⟩,
    fun k h => ⟨fun hk hwidth => exists_render_zeroPattern hk hwidth h,
      render_zeroPattern_of_le hv h⟩⟩
  · intro hhead
    obtain ⟨-, -, htext⟩ := render_integer_eq_ok_iff.mp hs
    rw [NumberPattern.fill_eq, if_neg (by simpa using hhead), ← signedDecimal_eq] at htext
    exact ⟨_, htext⟩
  · intro hhead
    obtain ⟨-, -, htext⟩ := render_integer_eq_ok_iff.mp hs
    rw [NumberPattern.fill_eq, if_pos (by simpa using hhead)] at htext
    exact ⟨⟨_, htext⟩, infer_zeros hv htext⟩

/-- The least integer that 64 bits hold, in more places than it has, and a number that just fits. -/
theorem render_integer_exact_least :
    isInt64 (-9223372036854775808) = true ∧
      (∃ s, (Value.integer (-9223372036854775808)).render (some "0022") = .ok s ∧ s.length = 22 ∧
        infer Time.Zone.utc s = .integer (-9223372036854775808)) ∧
      ∃ s, (Value.integer 999).render (some (zeroPattern 3)) = .ok s ∧ s.length = 3 := by
  have hleast : isInt64 (-9223372036854775808) = true := by decide
  obtain ⟨hpattern, -⟩ := render_integer_exact hleast
  obtain ⟨hiff, hall⟩ := hpattern "0022"
  obtain ⟨s, hs⟩ := hiff.mpr ⟨by simp, by decide⟩
  obtain ⟨hlen, -, hzeros⟩ := hall s hs
  exact ⟨hleast, ⟨s, hs, hlen, (hzeros rfl).2 Time.Zone.utc⟩,
    ((render_integer_exact (v := 999) (by decide)).2 3 (by decide)).1 (by decide) (by decide)
      (by decide)⟩

/-- No width takes away the last digit: zero is below the power of ten without zeros, and does not
fit in no places. -/
theorem render_zero_noPlaces :
    ¬∀ (k : Nat) (v : Int), 0 ≤ v → v < tenTo k →
      ∃ s, (Value.integer v).render (some (zeroPattern k)) = .ok s ∧ s.length = k := by
  intro h
  obtain ⟨s, hs, hlen⟩ := h 0 0 (by decide) (by decide)
  have hzero : (Value.integer 0).render (some (zeroPattern 0)) = .ok "0" := rfl
  obtain rfl : "0" = s := Except.ok.inj (hzero.symm.trans hs)
  exact absurd hlen (by decide)

end Value

end PathTemplate
