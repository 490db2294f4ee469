/-
# What a text without a kind stands for

A text stands for an integer if it is a signed run of digits whose value 64 bits
hold, else for a float if it is a numeral, else for a time if it reads as one,
else for itself. `Infers` says so without the readers' order, and inferring a
value follows it exactly (`Value.infer_eq_iff`).

A text that goes on with a hyphen behind its first digits is no number, since a
hyphen comes only in front of a number or behind the letter of its exponent.
Dates are written so, and a value is inferred from them by reading a time.

Key definitions: `IsInt64Text`, `IsNumberText`, `Infers`.
Key theorems: `readInt64_eq_some_iff`, `readFloat_eq_some_iff`, `Value.infer_eq_iff`,
`Value.infer_dateText`.
-/
import PathTemplate.Proofs.Decimal.Numeral
import PathTemplate.Proofs.Time.FieldText
import PathTemplate.Value.Infer

namespace PathTemplate

open Calendar Decimal Text.Reader Time

/-- Whether a text writes an integer that 64 bits hold. -/
def IsInt64Text (cs : List Char) (n : Int) : Prop := IsInteger cs n ∧ isInt64 n = true

/-- Whether a text writes a number: an integer that 64 bits hold, or a numeral. -/
def IsNumberText (cs : List Char) : Prop := (∃ n, IsInt64Text cs n) ∨ ∃ n, IsNumeral cs n

/-- What a text stands for in a zone. -/
inductive Infers (zone : Zone) (raw : String) : Value → Prop
  | integer {n} (h : IsInt64Text raw.toList n) : Infers zone raw (.integer n)
  | float {n x} (hint : ∀ n, ¬IsInt64Text raw.toList n) (h : IsNumeral raw.toList n)
    (hx : Binary64.read raw.toList = some x) : Infers zone raw (.float x)
  | time {t} (hnot : ¬IsNumberText raw.toList) (h : ZonedTime.read zone raw.toList = some t) :
    Infers zone raw (.time t)
  | text (hnot : ¬IsNumberText raw.toList) (h : ZonedTime.read zone raw.toList = none) :
    Infers zone raw (.text raw)

variable {cs : List Char}

/-! ### Numbers -/

theorem readInt64_eq_some_iff {n : Int} : readInt64 cs = some n ↔ IsInt64Text cs n := by
  rw [readInt64, Option.filter_eq_some_iff, readSignedDigits_eq_some_iff, IsInt64Text]

theorem Decimal.IsOptSign.isFloatChar {sign : List Char} {negative : Bool}
    (h : IsOptSign sign negative) : ∀ c ∈ sign, isFloatChar c = true := by
  cases h with
  | absent => exact nofun
  | plus | minus => exact List.forall_mem_singleton.mpr (by decide)

theorem Decimal.IsOptSign.not_mem_of_isDigit {sign : List Char} {negative : Bool} {d : Char}
    (h : IsOptSign sign negative) (hd : d.isDigit = true) : d ∉ sign := by
  have hne : d ≠ '+' ∧ d ≠ '-' := by
    constructor
    · rintro rfl
      exact absurd hd (by decide)
    · rintro rfl
      exact absurd hd (by decide)
  cases h with
  | absent => exact List.not_mem_nil
  | plus => exact fun hmem => hne.1 (List.mem_singleton.mp hmem)
  | minus => exact fun hmem => hne.2 (List.mem_singleton.mp hmem)

theorem isFloatChar_of_isDigit {c : Char} (h : c.isDigit = true) : isFloatChar c = true := by
  simp [isFloatChar, h]

theorem Decimal.IsDigits.exists_mem {ds : List Char} (h : IsDigits ds) :
    ∃ d ∈ ds, d.isDigit = true := by
  obtain ⟨d, hmem⟩ := List.exists_mem_of_ne_nil _ h.nonempty
  exact ⟨d, hmem, h.digits d hmem⟩

/-- Digits are characters of a float. -/
theorem forall_isFloatChar {ds : List Char} (h : ∀ d ∈ ds, d.isDigit = true) :
    ∀ c ∈ ds, isFloatChar c = true := fun c hc => isFloatChar_of_isDigit (h c hc)

theorem Decimal.IsExponent.isFloatChar {e : Int} (h : IsExponent cs e) :
    ∀ c ∈ cs, isFloatChar c = true := by
  cases h with
  | absent => exact nofun
  | written hc h =>
    obtain ⟨hs, hd⟩ := h
    refine List.forall_mem_cons.mpr ⟨by rcases hc with rfl | rfl <;> rfl, ?_⟩
    exact List.forall_mem_append.mpr ⟨hs.isFloatChar, forall_isFloatChar hd.digits⟩

/-- A mantissa has digits, and is written with the characters of a float alone. -/
theorem Decimal.IsMantissa.chars {whole fraction : List Char} (h : IsMantissa cs whole fraction) :
    (∀ c ∈ cs, isFloatChar c = true) ∧ ∃ d ∈ cs, d.isDigit = true := by
  cases h with
  | whole hd => exact ⟨forall_isFloatChar hd.digits, hd.exists_mem⟩
  | point hd hf =>
    obtain ⟨d, hmem, hdigit⟩ := hd.exists_mem
    refine ⟨List.forall_mem_append.mpr ⟨forall_isFloatChar hd.digits,
      List.forall_mem_cons.mpr ⟨rfl, forall_isFloatChar hf⟩⟩, d, ?_, hdigit⟩
    exact List.mem_append_left _ hmem
  | fraction hf =>
    obtain ⟨d, hmem, hdigit⟩ := hf.exists_mem
    exact ⟨List.forall_mem_cons.mpr ⟨rfl, forall_isFloatChar hf.digits⟩, d,
      List.mem_cons_of_mem _ hmem, hdigit⟩

/-- A numeral has digits, and is written with the characters of a float alone. -/
theorem Decimal.IsNumeral.chars {n : Numeral} (h : IsNumeral cs n) :
    cs.all isFloatChar = true ∧ cs.any Char.isDigit = true := by
  obtain ⟨hs, hm, hx⟩ := h
  obtain ⟨hms, d, hmem, hd⟩ := hm.chars
  rw [List.all_eq_true, List.any_eq_true]
  refine ⟨List.forall_mem_append.mpr ⟨hs.isFloatChar,
    List.forall_mem_append.mpr ⟨hms, hx.isFloatChar⟩⟩, d, ?_, hd⟩
  exact List.mem_append_right _ (List.mem_append_left _ hmem)

/-- The words for infinity and for what is no number have no digits. -/
theorem Decimal.Binary64.ofWord_of_mem {negative : Bool} {d : Char} (hmem : d ∈ cs)
    (hd : d.isDigit = true) : Binary64.ofWord negative (String.ofList cs) = none := by
  have hword (w : String) (hw : w.toList.any Char.isDigit = false) : String.ofList cs ≠ w := by
    rintro rfl
    rw [String.toList_ofList, List.any_eq_false] at hw
    exact hw d hmem hd
  unfold Binary64.ofWord
  rw [if_neg, if_neg (hword "nan" (by decide))]
  exact not_or.mpr ⟨hword "inf" (by decide), hword "infinity" (by decide)⟩

theorem toLower_of_isDigit {d : Char} (hd : d.isDigit = true) : d.toLower = d := by
  have hnat : 48 ≤ d.toNat ∧ d.toNat ≤ 57 := Char.isDigit_iff_toNat.mp hd
  unfold Char.toLower
  rw [dif_neg]
  rintro ⟨h, -⟩
  have hupper : 65 ≤ d.toNat := UInt32.le_iff_toNat_le.mp h
  omega

/-- A text with a digit that is no numeral is no word for a float either. -/
theorem Decimal.Binary64.read_of_isDigit {d : Char} (hmem : d ∈ cs) (hd : d.isDigit = true)
    (hnone : Numeral.read cs = none) : Binary64.read cs = none := by
  obtain ⟨sign, hs, hcs⟩ := exists_isOptSign cs
  have hsign : d ∉ sign := hs.not_mem_of_isDigit hd
  have hbody : d ∈ (readSign cs).2 := (List.mem_append.mp (hcs ▸ hmem)).resolve_left hsign
  rw [Binary64.read, Binary64.readWith, hnone]
  exact ofWord_of_mem (List.mem_map.mpr ⟨d, hbody, toLower_of_isDigit hd⟩) hd

/-- **The floats that are read are the numerals.** -/
theorem readFloat_eq_some_iff {x : Binary64} :
    readFloat cs = some x ↔ (∃ n, IsNumeral cs n) ∧ Binary64.read cs = some x := by
  constructor
  · intro h
    unfold readFloat at h
    split at h
    · next hchars =>
      refine ⟨?_, h⟩
      obtain ⟨d, hmem, hd⟩ := List.any_eq_true.mp (Bool.and_eq_true_iff.mp hchars).2
      cases hread : Numeral.read cs with
      | some n => exact ⟨n, Numeral.read_eq_some_iff.mp hread⟩
      | none =>
        exact absurd (h.symm.trans (Binary64.read_of_isDigit hmem hd hread)) nofun
    · cases h
  · rintro ⟨⟨n, hn⟩, hx⟩
    rw [readFloat, hn.chars.1, hn.chars.2]
    exact hx

theorem readInt64_eq_none_iff : readInt64 cs = none ↔ ∀ n, ¬IsInt64Text cs n := by
  simp only [Option.eq_none_iff_forall_ne_some, ne_eq, readInt64_eq_some_iff]

theorem readFloat_eq_none_iff : readFloat cs = none ↔ ∀ n, ¬IsNumeral cs n := by
  rw [Option.eq_none_iff_forall_ne_some]
  constructor
  · intro h n hn
    exact h _ (readFloat_eq_some_iff.mpr ⟨⟨n, hn⟩, Binary64.read_of_isNumeral hn⟩)
  · intro h x hx
    obtain ⟨⟨n, hn⟩, -⟩ := readFloat_eq_some_iff.mp hx
    exact h n hn

/-- What is read as neither an integer nor a float is no number. -/
theorem not_isNumberText_iff : ¬IsNumberText cs ↔ readInt64 cs = none ∧ readFloat cs = none := by
  rw [readInt64_eq_none_iff, readFloat_eq_none_iff, IsNumberText, not_or, not_exists, not_exists]

/-- No number has a hyphen behind a digit. -/
theorem IsNumberText.keepsHyphensInFront (h : IsNumberText cs) : KeepsHyphensInFront cs := by
  rcases h with ⟨n, hn⟩ | ⟨n, hn⟩
  · exact hn.1.keepsHyphensInFront
  · exact hn.keepsHyphensInFront

/-! ### Values -/

namespace Value

variable {zone : Zone} {raw : String}

/-- **A value is inferred as `Infers` says.** -/
theorem infer_eq_iff {v : Value} : infer zone raw = v ↔ Infers zone raw v := by
  constructor
  · rintro rfl
    simp only [infer]
    cases hint : readInt64 raw.toList with
    | some n => exact .integer (readInt64_eq_some_iff.mp hint)
    | none =>
      cases hfloat : readFloat raw.toList with
      | some x =>
        obtain ⟨⟨n, hn⟩, hx⟩ := readFloat_eq_some_iff.mp hfloat
        exact .float (readInt64_eq_none_iff.mp hint) hn hx
      | none =>
        have hnot := not_isNumberText_iff.mpr ⟨hint, hfloat⟩
        cases htime : ZonedTime.read zone raw.toList with
        | some t => exact .time hnot htime
        | none => exact .text hnot htime
  · unfold infer
    rintro (h | ⟨hint, hn, hx⟩ | ⟨hnot, h⟩ | ⟨hnot, h⟩)
    · simp only [readInt64_eq_some_iff.mpr h]
    · simp only [readInt64_eq_none_iff.mpr hint, readFloat_eq_some_iff.mpr ⟨⟨_, hn⟩, hx⟩]
    · obtain ⟨hint, hfloat⟩ := not_isNumberText_iff.mp hnot
      simp only [hint, hfloat, h]
    · obtain ⟨hint, hfloat⟩ := not_isNumberText_iff.mp hnot
      simp only [hint, hfloat, h]

/-- **A text with a hyphen behind a digit is a time or itself.** -/
theorem infer_of_hyphen (h : ¬KeepsHyphensInFront raw.toList) :
    infer zone raw = (ZonedTime.read zone raw.toList).elim (.text raw) .time := by
  have hnot : ¬IsNumberText raw.toList := fun hn => h hn.keepsHyphensInFront
  rw [infer_eq_iff]
  cases htime : ZonedTime.read zone raw.toList with
  | none => exact .text hnot htime
  | some t => exact .time hnot htime

/-- A text that starts with a date of a year of four digits is a time or itself. -/
theorem infer_dateText (zone : Zone) {d : Date} (hy : 0 ≤ d.year ∧ d.year ≤ 9999)
    (cs : List Char) :
    infer zone (String.ofList (dateText d ++ cs)) =
      (ZonedTime.read zone (dateText d ++ cs)).elim (.text (String.ofList (dateText d ++ cs)))
        .time := by
  have hyear := isDigits_zeroPadded 4 d.year.toNat
  have hraw : (String.ofList (dateText d ++ cs)).toList =
      [] ++ (zeroPadded 4 d.year.toNat ++
        '-' :: (twoDigits d.month ++ '-' :: twoDigits d.day ++ cs)) := by
    rw [String.toList_ofList, dateText_eq hy]
    simp
  rw [infer_of_hyphen (by rw [hraw]; exact hyear.not_keepsHyphensInFront [] _),
    String.toList_ofList]

end Value

end PathTemplate
