/-
# The grammar of decimal numerals

What is read as a number in decimal digits, as relations between a text and
what it says:

    integer  = [sign] digits
    numeral  = [sign] mantissa [exponent]
    mantissa = digits ['.' [digits]] | '.' digits
    exponent = ('e' | 'E') integer

The readers of both accept a text exactly when the grammar derives it, and give
what the derivation says (`readSignedDigits_eq_some_iff`,
`Numeral.read_eq_some_iff`). A sign stands in front of a number or of its
exponent and nowhere else, so in none of them does a hyphen follow a digit:
that keeps numbers apart from dates.

Key definitions: `IsInteger`, `IsMantissa`, `IsExponent`, `IsNumeral`, `KeepsHyphensInFront`.
Key theorems: `readSignedDigits_eq_some_iff`, `Numeral.read_eq_some_iff`,
`IsNumeral.keepsHyphensInFront`.
-/
import Mathlib.Data.List.Chain
import Mathlib.Data.Option.Basic
import PathTemplate.Decimal.Reader
import PathTemplate.Proofs.Decimal.Digits
import PathTemplate.Proofs.Text.Runs

namespace PathTemplate.Decimal

/-! ### Derivations -/

/-- A sign that may be left out, and whether it is minus. -/
inductive IsOptSign : List Char → Bool → Prop
  | absent : IsOptSign [] false
  | plus : IsOptSign ['+'] false
  | minus : IsOptSign ['-'] true

/-- `digits`, one at least. -/
structure IsDigits (ds : List Char) : Prop where
  nonempty : ds ≠ []
  digits : ∀ d ∈ ds, d.isDigit = true

/-- `integer = [sign] digits` -/
inductive IsInteger : List Char → Int → Prop
  | mk {sign negative ds} (hs : IsOptSign sign negative) (hd : IsDigits ds) :
    IsInteger (sign ++ ds) (if negative then -(digitsValue ds : Int) else digitsValue ds)

/-- `mantissa = digits ['.' [digits]] | '.' digits`, with the digits before and behind the point. -/
inductive IsMantissa : List Char → List Char → List Char → Prop
  | whole {ds} (hd : IsDigits ds) : IsMantissa ds ds []
  | point {ds fs} (hd : IsDigits ds) (hf : ∀ d ∈ fs, d.isDigit = true) :
    IsMantissa (ds ++ '.' :: fs) ds fs
  | fraction {fs} (hf : IsDigits fs) : IsMantissa ('.' :: fs) [] fs

/-- `exponent = ('e' | 'E') integer`, which may be left out. -/
inductive IsExponent : List Char → Int → Prop
  | absent : IsExponent [] 0
  | written {c cs e} (hc : c = 'e' ∨ c = 'E') (h : IsInteger cs e) : IsExponent (c :: cs) e

/-- `numeral = [sign] mantissa [exponent]`: the digits on both sides of the point count together, and
each of those behind it takes one from the exponent. -/
inductive IsNumeral : List Char → Numeral → Prop
  | mk {sign negative ms whole fraction xs e} (hs : IsOptSign sign negative)
    (hm : IsMantissa ms whole fraction) (hx : IsExponent xs e) :
    IsNumeral (sign ++ (ms ++ xs)) ⟨negative, digitsValue (whole ++ fraction), e - fraction.length⟩

/-! ### Signs -/

/-- Whether a character is a sign. -/
def isSign (c : Char) : Bool := c == '-' || c == '+'

theorem isSign_of_isDigit {d : Char} (hd : d.isDigit = true) : isSign d = false := by
  rw [isSign, Bool.or_eq_false_iff, beq_eq_false_iff_ne, beq_eq_false_iff_ne]
  constructor
  · rintro rfl
    exact absurd hd (by decide)
  · rintro rfl
    exact absurd hd (by decide)

theorem readSign_of_stopsAt {cs : List Char} (h : StopsAt isSign cs) :
    readSign cs = (false, cs) := by
  unfold readSign
  split
  · exact absurd (stopsAt_cons.mp h) (by decide)
  · exact absurd (stopsAt_cons.mp h) (by decide)
  · rfl

theorem IsOptSign.readSign_append {sign cs : List Char} {negative : Bool}
    (hs : IsOptSign sign negative) (h : StopsAt isSign cs) :
    readSign (sign ++ cs) = (negative, cs) := by
  cases hs with
  | absent => exact readSign_of_stopsAt h
  | plus => rfl
  | minus => rfl

/-- A text is its sign and what is left of it. -/
theorem exists_isOptSign (cs : List Char) :
    ∃ sign, IsOptSign sign (readSign cs).1 ∧ cs = sign ++ (readSign cs).2 := by
  unfold readSign
  split
  · exact ⟨['-'], .minus, rfl⟩
  · exact ⟨['+'], .plus, rfl⟩
  · exact ⟨[], .absent, rfl⟩

/-! ### Integers -/

theorem IsDigits.stopsAt_isSign {ds : List Char} (h : IsDigits ds) (rest : List Char) :
    StopsAt isSign (ds ++ rest) := by
  obtain ⟨d, ds, rfl⟩ := List.exists_cons_of_ne_nil h.nonempty
  exact stopsAt_cons.mpr (isSign_of_isDigit (h.digits d List.mem_cons_self))

theorem isDigits_decimal (n : Nat) : IsDigits (decimal n) :=
  ⟨Nat.toDigits_ne_nil, fun _ => isDigit_of_mem_decimal⟩

theorem isDigits_zeroPadded (width n : Nat) : IsDigits (zeroPadded width n) :=
  ⟨zeroPadded_ne_nil width n, fun _ => isDigit_of_mem_zeroPadded⟩

/-- Zeros may stand in front of digits. -/
theorem IsDigits.zeros {ds : List Char} (h : IsDigits ds) (k : Nat) :
    IsDigits (List.replicate k '0' ++ ds) := by
  refine ⟨List.append_ne_nil_of_right_ne_nil _ h.nonempty, ?_⟩
  refine List.forall_mem_append.mpr ⟨fun d hd => ?_, h.digits⟩
  rw [List.eq_of_mem_replicate hd]
  rfl

/-- What `readSignedDigits` asks of the characters behind the sign. -/
theorem isDigits_iff {ds : List Char} :
    IsDigits ds ↔ (ds.isEmpty || !ds.all Char.isDigit) = false := by
  rw [Bool.or_eq_false_iff, List.isEmpty_eq_false_iff, Bool.not_eq_false', List.all_eq_true]
  exact ⟨fun h => ⟨h.nonempty, h.digits⟩, fun h => ⟨h.1, h.2⟩⟩

/-- **The signed digits that are read are those that the grammar derives.** -/
theorem readSignedDigits_eq_some_iff {cs : List Char} {n : Int} :
    readSignedDigits cs = some n ↔ IsInteger cs n := by
  constructor
  · intro h
    obtain ⟨sign, hs, hcs⟩ := exists_isOptSign cs
    rw [readSignedDigits] at h
    generalize readSign cs = r at h hs hcs
    obtain ⟨negative, ds⟩ := r
    simp only at h hs hcs
    split at h
    · cases h
    · next hnot =>
      have hd : IsDigits ds := isDigits_iff.mpr (Bool.eq_false_iff.mpr hnot)
      rw [hcs, ← Option.some.inj ((apply_ite some _ _ _).trans h)]
      exact .mk hs hd
  · rintro ⟨hs, hd⟩
    have hsign := hs.readSign_append ((List.append_nil _) ▸ hd.stopsAt_isSign [])
    rw [readSignedDigits, hsign]
    simp only [isDigits_iff.mp hd, Bool.false_eq_true, if_false]
    exact (apply_ite some _ _ _).symm

/-! ### Numerals -/

theorem readFraction_point (cs : List Char) :
    Numeral.readFraction ('.' :: cs) = (cs.takeWhile Char.isDigit, cs.dropWhile Char.isDigit) := rfl

theorem readFraction_of_stopsAt {cs : List Char} (h : StopsAt (· == '.') cs) :
    Numeral.readFraction cs = ([], cs) := by
  unfold Numeral.readFraction
  split
  · exact absurd (stopsAt_cons.mp h) (by decide)
  · rfl

theorem readExponent_eq_some_iff {cs : List Char} {e : Int} :
    Numeral.readExponent cs = some e ↔ IsExponent cs e := by
  constructor
  · intro h
    unfold Numeral.readExponent at h
    split at h
    · cases h
      exact .absent
    · split at h
      · next hc => exact .written hc (readSignedDigits_eq_some_iff.mp h)
      · cases h
  · rintro (_ | ⟨hc, h⟩)
    · rfl
    · exact (if_pos hc).trans (readSignedDigits_eq_some_iff.mpr h)

/-- Neither a digit nor a point stands in front of an exponent. -/
theorem IsExponent.stopsAt {xs : List Char} {e : Int} (h : IsExponent xs e) :
    StopsAt Char.isDigit xs ∧ StopsAt (· == '.') xs := by
  cases h with
  | absent => exact ⟨nofun, nofun⟩
  | written hc _ =>
    rcases hc with rfl | rfl
    · exact ⟨stopsAt_cons.mpr rfl, stopsAt_cons.mpr rfl⟩
    · exact ⟨stopsAt_cons.mpr rfl, stopsAt_cons.mpr rfl⟩

/-- A mantissa in front of an exponent is taken apart as the grammar says. -/
theorem IsMantissa.read_append {ms whole fraction xs : List Char}
    (h : IsMantissa ms whole fraction) (hx : StopsAt Char.isDigit xs ∧ StopsAt (· == '.') xs) :
    (ms ++ xs).takeWhile Char.isDigit = whole ∧
      Numeral.readFraction ((ms ++ xs).dropWhile Char.isDigit) = (fraction, xs) ∧
      whole ++ fraction ≠ [] := by
  have hpoint (cs : List Char) : StopsAt Char.isDigit ('.' :: cs) := stopsAt_cons.mpr rfl
  cases h with
  | whole hd =>
    rw [takeWhile_stop hd.digits hx.1, dropWhile_stop hd.digits hx.1, readFraction_of_stopsAt hx.2]
    exact ⟨rfl, rfl, by simpa using hd.nonempty⟩
  | @point ds fs hd hf =>
    rw [List.append_assoc, List.cons_append, takeWhile_stop hd.digits (hpoint _),
      dropWhile_stop hd.digits (hpoint _), readFraction_point, takeWhile_stop hf hx.1,
      dropWhile_stop hf hx.1]
    exact ⟨rfl, rfl, List.append_ne_nil_of_left_ne_nil hd.nonempty _⟩
  | fraction hf =>
    rw [List.cons_append, (hpoint _).dropWhile_eq, readFraction_point, takeWhile_stop hf.digits hx.1,
      dropWhile_stop hf.digits hx.1]
    exact ⟨rfl, rfl, hf.nonempty⟩

/-- What is taken from the front of a text as a mantissa is one. -/
theorem exists_isMantissa {cs fraction rest : List Char}
    (hread : Numeral.readFraction (cs.dropWhile Char.isDigit) = (fraction, rest))
    (hne : cs.takeWhile Char.isDigit ++ fraction ≠ []) :
    ∃ ms, IsMantissa ms (cs.takeWhile Char.isDigit) fraction ∧ cs = ms ++ rest := by
  have hcs := List.takeWhile_append_dropWhile (p := Char.isDigit) (l := cs)
  have hwhole : ∀ d ∈ cs.takeWhile Char.isDigit, d.isDigit = true := fun _ => List.mem_takeWhile_imp
  generalize cs.takeWhile Char.isDigit = whole at hcs hwhole hne ⊢
  generalize cs.dropWhile Char.isDigit = tail at hcs hread
  subst hcs
  unfold Numeral.readFraction at hread
  split at hread
  · next fs =>
    cases hread
    have hfs := List.takeWhile_append_dropWhile (p := Char.isDigit) (l := fs)
    have hfraction : ∀ d ∈ fs.takeWhile Char.isDigit, d.isDigit = true :=
      fun _ => List.mem_takeWhile_imp
    by_cases hnil : whole = []
    · subst hnil
      exact ⟨_, .fraction ⟨hne, hfraction⟩, congrArg (List.cons '.') hfs.symm⟩
    · refine ⟨_, .point ⟨hnil, hwhole⟩ hfraction, ?_⟩
      rw [List.append_assoc, List.cons_append, hfs]
  · cases hread
    rw [List.append_nil] at hne
    exact ⟨whole, .whole ⟨hne, hwhole⟩, rfl⟩

/-- No sign stands behind the one in front of a mantissa. -/
theorem IsMantissa.stopsAt_isSign {ms whole fraction : List Char} (h : IsMantissa ms whole fraction)
    (rest : List Char) : StopsAt isSign (ms ++ rest) := by
  cases h with
  | whole hd => exact hd.stopsAt_isSign rest
  | point hd hf =>
    rw [List.append_assoc]
    exact hd.stopsAt_isSign _
  | fraction hf => exact stopsAt_cons.mpr rfl

/-- **The numerals that are read are those that the grammar derives.** -/
theorem Numeral.read_eq_some_iff {cs : List Char} {n : Numeral} :
    Numeral.read cs = some n ↔ IsNumeral cs n := by
  constructor
  · intro h
    obtain ⟨sign, hs, hcs⟩ := exists_isOptSign cs
    simp only [Numeral.read, Option.bind_eq_bind, Option.bind_eq_some_iff, Option.guard_eq_some',
      exists_const] at h
    obtain ⟨hne, e, he, hn⟩ := h
    generalize hread : readFraction ((readSign cs).2.dropWhile Char.isDigit) = r at hne he hn
    obtain ⟨fraction, rest⟩ := r
    obtain ⟨ms, hm, hbody⟩ := exists_isMantissa hread (by simpa using hne)
    rw [hcs, hbody, ← Option.some.inj hn]
    exact .mk hs hm (readExponent_eq_some_iff.mp he)
  · rintro @⟨sign, negative, ms, whole, fraction, xs, e, hs, hm, hx⟩
    obtain ⟨htake, hread, hne⟩ := hm.read_append hx.stopsAt
    have hsign := hs.readSign_append (hm.stopsAt_isSign xs)
    simp only [Numeral.read, hsign, htake, hread, readExponent_eq_some_iff.mpr hx]
    rw [List.isEmpty_eq_false_iff.mpr hne]
    rfl

/-- A numeral is read as the value that it is rounded to. -/
theorem Binary64.read_of_isNumeral {cs : List Char} {n : Numeral} (h : IsNumeral cs n) :
    read cs = some (n.toBinary ofRatio) := by
  rw [read, readWith, Numeral.read_eq_some_iff.mpr h]

/-- An integer is a numeral without a point and without an exponent. -/
theorem IsInteger.exists_isNumeral {cs : List Char} {n : Int} (h : IsInteger cs n) :
    ∃ m, IsNumeral cs m := by
  obtain @⟨sign, negative, ds, hs, hd⟩ := h
  have hnumeral := IsNumeral.mk hs (.whole hd) .absent
  rw [List.append_nil] at hnumeral
  exact ⟨_, hnumeral⟩

/-! ### Hyphens -/

/-- Whether no hyphen follows a digit in a text. -/
def KeepsHyphensInFront (cs : List Char) : Prop :=
  cs.IsChain fun c d => c.isDigit = true → d ≠ '-'

theorem keepsHyphensInFront_of_not_mem {cs : List Char} (h : '-' ∉ cs) :
    KeepsHyphensInFront cs := by
  refine (List.pairwise_of_forall_mem_list fun _ _ d hd _ => ?_).isChain
  rintro rfl
  exact h hd

/-- A text without digits has none in front of a hyphen. -/
theorem keepsHyphensInFront_of_no_digit {cs : List Char} (h : cs.any Char.isDigit = false) :
    KeepsHyphensInFront cs :=
  (List.pairwise_of_forall_mem_list fun c hc _ _ hdigit =>
    absurd hdigit (List.any_eq_false.mp h c hc)).isChain

theorem not_mem_hyphen {ds : List Char} (h : ∀ d ∈ ds, d.isDigit = true) : '-' ∉ ds :=
  fun hm => absurd (h _ hm) (by decide)

/-- A sign may stand in front of a text whose hyphens follow no digit. -/
theorem IsOptSign.keepsHyphensInFront {sign cs : List Char} {negative : Bool}
    (hs : IsOptSign sign negative) (h : KeepsHyphensInFront cs) :
    KeepsHyphensInFront (sign ++ cs) := by
  cases hs with
  | absent => exact h
  | plus => exact h.cons fun _ _ hplus => absurd hplus (by decide)
  | minus => exact h.cons fun _ _ hminus => absurd hminus (by decide)

theorem IsInteger.keepsHyphensInFront {cs : List Char} {n : Int} (h : IsInteger cs n) :
    KeepsHyphensInFront cs := by
  obtain ⟨hs, hd⟩ := h
  exact hs.keepsHyphensInFront (keepsHyphensInFront_of_not_mem (not_mem_hyphen hd.digits))

theorem IsMantissa.not_mem_hyphen {ms whole fraction : List Char}
    (h : IsMantissa ms whole fraction) : '-' ∉ ms := by
  cases h with
  | whole hd => exact Decimal.not_mem_hyphen hd.digits
  | point hd hf =>
    simp [Decimal.not_mem_hyphen hd.digits, Decimal.not_mem_hyphen hf]
  | fraction hf => simp [Decimal.not_mem_hyphen hf.digits]

theorem IsExponent.keepsHyphensInFront {xs : List Char} {e : Int} (h : IsExponent xs e) :
    KeepsHyphensInFront xs ∧ '-' ∉ xs.head? := by
  cases h with
  | absent => exact ⟨.nil, nofun⟩
  | written hc h =>
    rcases hc with rfl | rfl
    · exact ⟨h.keepsHyphensInFront.cons fun _ _ he => absurd he (by decide), nofun⟩
    · exact ⟨h.keepsHyphensInFront.cons fun _ _ he => absurd he (by decide), nofun⟩

/-- **In a numeral no hyphen follows a digit.** -/
theorem IsNumeral.keepsHyphensInFront {cs : List Char} {n : Numeral} (h : IsNumeral cs n) :
    KeepsHyphensInFront cs := by
  obtain ⟨hs, hm, hx⟩ := h
  obtain ⟨hxs, hhead⟩ := hx.keepsHyphensInFront
  refine hs.keepsHyphensInFront ?_
  refine (keepsHyphensInFront_of_not_mem hm.not_mem_hyphen).append hxs fun _ _ d hd _ => ?_
  rintro rfl
  exact hhead hd

/-- Behind digits a hyphen does not stand in front. -/
theorem IsDigits.not_keepsHyphensInFront {ds : List Char} (hd : IsDigits ds)
    (front back : List Char) : ¬KeepsHyphensInFront (front ++ (ds ++ '-' :: back)) := by
  obtain ⟨init, d, rfl⟩ := (List.eq_nil_or_concat ds).resolve_left hd.nonempty
  intro h
  rw [List.concat_append, ← List.append_assoc] at h
  have hcons := (List.isChain_append.mp h).2.1
  exact (List.isChain_cons_cons.mp hcons).1 (hd.digits d (by simp)) rfl

end PathTemplate.Decimal
