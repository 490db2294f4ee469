/-
# Floats in patterns

A finite float takes a pattern that is digits, which write a width, and after a
point those of a precision; six digits stand behind the point if there is none.
What comes of it is the integer nearest to as many times ten, with the point in
its place, in just the width or in its own length when that is greater: spaces
stand in front of it, or zeros between the sign and the digits when the pattern
starts with one.

So the number printed is off by half a unit of its last place at most, and a
pattern prints floats in their order. It may print a minus sign in front of
zero, as it does for what is too small below zero.

Key definitions: `printedNumber`, `NumberPattern.places`.
Key theorems: `Value.render_float_eq_ok_iff`, `Value.render_float_exact`.
-/
import Mathlib
import PathTemplate.Proofs.Decimal.FixedPlaces
import PathTemplate.Proofs.Value.Inference
import PathTemplate.Proofs.Value.NumberPattern

namespace PathTemplate

open Decimal

/-- The sign in front of a value. -/
def Decimal.Finite.signText (x : Finite) : List Char := if x.negative then ['-'] else []

/-- The number of digits that a pattern puts behind the point. -/
def NumberPattern.places (q : NumberPattern) : Nat := q.precision.getD 6

/-- The number that a text writes behind some spaces. -/
def printedNumber (s : String) : Option ℚ :=
  (Numeral.read (s.toList.dropWhile (· == ' '))).map Numeral.value

variable {x y : Finite} {q : NumberPattern} {n : Nat} {p s t : String}

theorem Decimal.Finite.isOptSign_signText (x : Finite) : IsOptSign x.signText x.negative := by
  unfold signText
  split_ifs with h
  · exact h ▸ .minus
  · exact Bool.eq_false_iff.mpr h ▸ .absent

/-! ### Printed numbers -/

/-- No space stands in front of a numeral. -/
theorem Decimal.IsNumeral.stopsAt_space {cs : List Char} {m : Numeral} (h : IsNumeral cs m) :
    StopsAt (· == ' ') cs := by
  intro c hc
  have hfloat : isFloatChar c = true :=
    List.all_eq_true.mp h.chars.1 c (List.mem_of_mem_head? hc)
  rw [beq_eq_false_iff_ne]
  rintro rfl
  exact absurd hfloat (by decide)

/-- What a value filled up on both sides of its sign prints. -/
theorem printedNumber_of_toList (k l : Nat)
    (hs : s.toList = List.replicate k ' ' ++
      (x.signText ++ (List.replicate l '0' ++ pointText q.places n))) :
    printedNumber s = some (Numeral.value ⟨x.negative, n, -q.places⟩) := by
  have hnumeral := isNumeral_pointText x.isOptSign_signText l q.places n
  have hspaces : ∀ c ∈ List.replicate k ' ', (c == ' ') = true := by
    intro c hc
    rw [List.eq_of_mem_replicate hc]
    rfl
  rw [printedNumber, hs, dropWhile_stop hspaces hnumeral.stopsAt_space,
    Numeral.read_eq_some_iff.mpr hnumeral]
  rfl

namespace Value

/-- **What comes of a finite float in a pattern.** -/
theorem render_float_eq_ok_iff :
    (Value.float (.finite x)).render (some p) = .ok s ↔
      ∃ q, NumberPattern.IsWritten true p.toList q ∧
        s.toList = q.fill x.signText (x.fixed q.places) := by
  rw [render, renderFloat]
  cases hread : NumberPattern.read true p.toList with
  | error fault =>
    refine ⟨nofun, fun ⟨q, hq, _⟩ => ?_⟩
    exact absurd (hread.symm.trans (NumberPattern.read_eq_ok_iff.mpr hq)) nofun
  | ok q =>
    have hq := NumberPattern.read_eq_ok_iff.mp hread
    constructor
    · rintro ⟨⟩
      exact ⟨q, hq, String.toList_ofList⟩
    · rintro ⟨q', hq', hs⟩
      obtain rfl : q = q' :=
        Except.ok.inj (hread.symm.trans (NumberPattern.read_eq_ok_iff.mpr hq'))
      rw [← String.ofList_toList (s := s), hs]
      rfl

theorem exists_render_float_iff :
    (∃ s, (Value.float (.finite x)).render (some p) = .ok s) ↔
      ∃ q, NumberPattern.IsWritten true p.toList q := by
  constructor
  · rintro ⟨s, hs⟩
    obtain ⟨q, hq, -⟩ := render_float_eq_ok_iff.mp hs
    exact ⟨q, hq⟩
  · rintro ⟨q, hq⟩
    exact ⟨_, render_float_eq_ok_iff.mpr ⟨q, hq, String.toList_ofList⟩⟩

/-- A finite float in a pattern prints the integer nearest to it in the unit of its last place. -/
theorem exists_isNearest (hq : NumberPattern.IsWritten true p.toList q)
    (hs : (Value.float (.finite x)).render (some p) = .ok s) :
    ∃ n : Nat, IsNearest (x.magnitude * 10 ^ q.places) n ∧
      s.toList = q.fill x.signText (pointText q.places n) := by
  obtain ⟨q', hq', htext⟩ := render_float_eq_ok_iff.mp hs
  obtain rfl : q = q' := Except.ok.inj (hq.read_eq.symm.trans hq'.read_eq)
  obtain ⟨n, hfixed, hn⟩ := x.fixed_eq q.places
  exact ⟨n, hn, hfixed ▸ htext⟩

theorem printedNumber_render (hn : IsNearest (x.magnitude * 10 ^ q.places) n)
    (hs : s.toList = q.fill x.signText (pointText q.places n)) :
    ∃ m : ℤ, IsNearest (x.value * 10 ^ q.places) m ∧
      printedNumber s = some (m / 10 ^ q.places : ℚ) := by
  refine ⟨_, Finite.isNearest_value hn, ?_⟩
  rw [← Numeral.value_places]
  rw [NumberPattern.fill_eq] at hs
  split_ifs at hs with hzero
  · exact printedNumber_of_toList 0 _ hs
  · exact printedNumber_of_toList _ 0 hs

/-- **Floats are rounded correctly in a pattern and filled up exactly.** -/
theorem render_float_exact (x : Finite) (p : String) :
    ((∃ s, (Value.float (.finite x)).render (some p) = .ok s) ↔
      ∃ q, NumberPattern.IsWritten true p.toList q) ∧
    ∀ q s, NumberPattern.IsWritten true p.toList q →
      (Value.float (.finite x)).render (some p) = .ok s →
      (∃ n : Nat, IsNearest (x.magnitude * 10 ^ q.places) n ∧
        s.length = max q.width (x.signText ++ pointText q.places n).length ∧
        (q.zeroPad = false → ∃ k,
          s.toList = List.replicate k ' ' ++ (x.signText ++ pointText q.places n)) ∧
        (q.zeroPad = true → ∃ k,
          s.toList = x.signText ++ (List.replicate k '0' ++ pointText q.places n))) ∧
      ∃ r, printedNumber s = some r ∧ |r - x.value| ≤ 1 / 2 / 10 ^ q.places ∧
        ∀ (y : Finite) (t : String), x.value ≤ y.value →
          (Value.float (.finite y)).render (some p) = .ok t →
          ∃ r', printedNumber t = some r' ∧ r ≤ r' := by
  refine ⟨exists_render_float_iff, fun q s hq hs => ?_⟩
  obtain ⟨n, hn, htext⟩ := exists_isNearest hq hs
  obtain ⟨m, hm, hprinted⟩ := printedNumber_render hn htext
  refine ⟨⟨n, hn, ?_, ?_, ?_⟩, _, hprinted, hm.abs_sub_le, ?_⟩
  · rw [← String.length_toList, htext, NumberPattern.length_fill]
  · intro hspaces
    rw [NumberPattern.fill_eq, if_neg (Bool.eq_false_iff.mp hspaces)] at htext
    exact ⟨_, htext⟩
  · intro hzeros
    rw [NumberPattern.fill_eq, if_pos hzeros] at htext
    exact ⟨_, htext⟩
  · intro y t hle ht
    obtain ⟨n', hn', htext'⟩ := exists_isNearest hq ht
    obtain ⟨m', hm', hprinted'⟩ := printedNumber_render hn' htext'
    exact ⟨_, hprinted', hm.div_le_div hm' hle⟩

/-- A half below zero. -/
def negativeHalf : Finite := ⟨true, twoTo 52, -53, by decide⟩

/-- A half goes to the even neighbour, which is zero, and keeps its minus sign. -/
theorem render_float_exact_negativeHalf :
    (Value.float (.finite negativeHalf)).render (some "05.") = .ok "-0000" ∧
      ∃ n : Nat, IsNearest (negativeHalf.magnitude * 10 ^ 0) n ∧
        ∃ k, "-0000".toList = ['-'] ++ (List.replicate k '0' ++ pointText 0 n) := by
  have hwritten : NumberPattern.IsWritten true "05.".toList ⟨true, 5, some 0⟩ :=
    NumberPattern.isWritten_of_read rfl
  have hrender : (Value.float (.finite negativeHalf)).render (some "05.") = .ok "-0000" := rfl
  obtain ⟨-, hall⟩ := render_float_exact negativeHalf "05."
  obtain ⟨⟨n, hn, -, -, hzeros⟩, -⟩ := hall _ _ hwritten hrender
  exact ⟨hrender, n, hn, hzeros rfl⟩

end Value

end PathTemplate
