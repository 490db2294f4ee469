/-
# The grammar of number patterns

    pattern = [digits] ['.' [digits]]

The digits in front of the point are the width, and ask for zeros if they start
with one; those behind it are the precision, and none of them is zero. Only some
kinds have a precision. A pattern is read exactly when the grammar derives it
and no number in it is above the greatest size (`NumberPattern.read_eq_ok_iff`).

A number in a pattern is filled up to the width, with spaces in front or with
zeros behind its sign, and nothing of it is lost (`fill_eq`).

Key definitions: `NumberPattern.IsWritten`.
Key theorems: `NumberPattern.read_eq_ok_iff`, `NumberPattern.fill_eq`.
-/
import PathTemplate.Piece
import PathTemplate.Proofs.Text.Runs
import PathTemplate.Value.NumberPattern

namespace PathTemplate.NumberPattern

open Decimal

/-- `pattern = [digits] ['.' [digits]]`, the point only where there are `places`. -/
inductive IsWritten (places : Bool) : List Char → NumberPattern → Prop
  | width {ws} (hw : ∀ d ∈ ws, d.isDigit = true) (hwidth : digitsValue ws ≤ maxSize) :
    IsWritten places ws ⟨ws.head? == some '0', digitsValue ws, none⟩
  | precision {ws ps} (hplaces : places = true) (hw : ∀ d ∈ ws, d.isDigit = true)
    (hp : ∀ d ∈ ps, d.isDigit = true) (hwidth : digitsValue ws ≤ maxSize)
    (hprecision : digitsValue ps ≤ maxSize) :
    IsWritten places (ws ++ '.' :: ps) ⟨ws.head? == some '0', digitsValue ws, some (digitsValue ps)⟩

variable {places : Bool} {cs ws ps : List Char} {p : NumberPattern}

/-! ### Reading -/

theorem allDigits_iff : allDigits cs = true ↔ ∀ d ∈ cs, d.isDigit = true := List.all_eq_true

theorem point_not_mem (hw : ∀ d ∈ ws, d.isDigit = true) : '.' ∉ ws :=
  fun h => absurd (hw _ h) (by decide)

/-- What comes of a pattern without a point. -/
theorem read_width (h : '.' ∉ ws) :
    read places ws =
      if allDigits ws = false then .error .notDigits
      else if maxSize < digitsValue ws then .error .widthTooLarge
      else .ok ⟨ws.head? == some '0', digitsValue ws, none⟩ := by
  have htake : ws.takeWhile (fun c => decide (c ≠ '.')) = ws :=
    List.takeWhile_eq_self_iff.mpr (forall_ne_iff.mpr h)
  have hdrop : ws.dropWhile (fun c => decide (c ≠ '.')) = [] :=
    List.dropWhile_eq_nil_iff.mpr (forall_ne_iff.mpr h)
  simp only [read, htake, hdrop, readSize, ← Nat.not_le]
  cases allDigits ws with
  | false => rfl
  | true => by_cases hwidth : digitsValue ws ≤ maxSize <;> simp [hwidth]

/-- What comes of a pattern with a point. -/
theorem read_precision (h : '.' ∉ ws) :
    read places (ws ++ '.' :: ps) =
      if places = false then .error .precisionNotAllowed
      else if allDigits ws = false ∨ allDigits ps = false then .error .notDigits
      else if maxSize < digitsValue ws then .error .widthTooLarge
      else if maxSize < digitsValue ps then .error .precisionTooLarge
      else .ok ⟨ws.head? == some '0', digitsValue ws, some (digitsValue ps)⟩ := by
  have hstop : StopsAt (fun c => decide (c ≠ '.')) ('.' :: ps) := stopsAt_cons.mpr rfl
  have htake := takeWhile_stop (forall_ne_iff.mpr h) hstop
  have hdrop := dropWhile_stop (forall_ne_iff.mpr h) hstop
  simp only [read, htake, hdrop, readSize, ← Nat.not_le]
  cases places with
  | false => rfl
  | true =>
    cases hw : allDigits ws with
    | false => rfl
    | true =>
      cases hp : allDigits ps with
      | false =>
        simp only [Option.all, hp]
        rfl
      | true =>
        by_cases hwidth : digitsValue ws ≤ maxSize
        · by_cases hprecision : digitsValue ps ≤ maxSize
          · simp only [Option.all, hp, hwidth, hprecision]
            rfl
          · simp only [Option.all, hp, hwidth, hprecision]
            rfl
        · simp only [Option.all, hp, hwidth]
          rfl

theorem IsWritten.read_eq (h : IsWritten places cs p) : read places cs = .ok p := by
  cases h with
  | width hw hwidth =>
    rw [read_width (point_not_mem hw), if_neg (by simp [allDigits_iff.mpr hw]),
      if_neg (Nat.not_lt.mpr hwidth)]
  | precision hplaces hw hp hwidth hprecision =>
    rw [read_precision (point_not_mem hw), if_neg (by simp [hplaces]),
      if_neg (by simp [allDigits_iff.mpr hw, allDigits_iff.mpr hp]),
      if_neg (Nat.not_lt.mpr hwidth), if_neg (Nat.not_lt.mpr hprecision)]

theorem isWritten_of_read (h : read places cs = .ok p) : IsWritten places cs p := by
  by_cases hpoint : '.' ∈ cs
  · obtain ⟨ws, ps, rfl, hws⟩ := List.eq_append_cons_of_mem hpoint
    rw [read_precision hws] at h
    split_ifs at h with hplaces hdigits hwidth hprecision
    obtain ⟨hw, hp⟩ := not_or.mp hdigits
    cases h
    exact .precision (eq_true_of_ne_false hplaces)
      (allDigits_iff.mp (eq_true_of_ne_false hw))
      (allDigits_iff.mp (eq_true_of_ne_false hp)) (Nat.not_lt.mp hwidth)
      (Nat.not_lt.mp hprecision)
  · rw [read_width hpoint] at h
    split_ifs at h with hdigits hwidth
    cases h
    exact .width (allDigits_iff.mp (eq_true_of_ne_false hdigits)) (Nat.not_lt.mp hwidth)

/-- **The patterns that are read are those that the grammar derives.** -/
theorem read_eq_ok_iff : read places cs = .ok p ↔ IsWritten places cs p :=
  ⟨isWritten_of_read, IsWritten.read_eq⟩

/-! ### Filling -/

/-- A number is filled up in front of its sign with spaces, or behind it with zeros. -/
theorem fill_eq (p : NumberPattern) (sign body : List Char) :
    p.fill sign body =
      if p.zeroPad = true then
        sign ++ (List.replicate (p.width - (sign ++ body).length) '0' ++ body)
      else List.replicate (p.width - (sign ++ body).length) ' ' ++ (sign ++ body) := by
  rw [fill, padStart, padStart, List.length_append, Nat.sub_sub]

end PathTemplate.NumberPattern
