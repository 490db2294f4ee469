/-
# Every text stands for one kind of value

Whatever is read as a time starts with a date, and in a date a hyphen follows
the digits of the year. No number has a hyphen there, so no text is both, in
whatever zone, and it does not matter which of the two is tried first. The
words for infinity and for what is no number have no digits, so they are
neither.

Key definitions: `EndsInDigits`.
Key theorems: `not_keepsHyphensInFront_of_read`, `Value.infer_exact`.
-/
import PathTemplate.Proofs.Value.Inference

namespace PathTemplate

open Decimal Text Text.Reader Time

variable {cs rest : List Char}

/-- Whether digits stand in a text where it goes on with `rest`. -/
def EndsInDigits (cs rest : List Char) : Prop :=
  ∃ front ds, cs = front ++ (ds ++ rest) ∧ IsDigits ds

theorem EndsInDigits.prepend (h : EndsInDigits cs rest) (front : List Char) :
    EndsInDigits (front ++ cs) rest := by
  obtain ⟨lead, ds, rfl, hd⟩ := h
  exact ⟨front ++ lead, ds, (List.append_assoc ..).symm, hd⟩

theorem EndsInDigits.not_keepsHyphensInFront (h : EndsInDigits cs ('-' :: rest)) :
    ¬KeepsHyphensInFront cs := by
  obtain ⟨front, ds, rfl, hd⟩ := h
  exact hd.not_keepsHyphensInFront front rest

namespace Time.Reading

/-! ### The year in front of a date -/

theorem endsInDigits_of_digits {least most n : Nat} (hleast : 0 < least)
    (h : digits least most cs = some (n, rest)) : EndsInDigits cs rest := by
  obtain ⟨ds, rfl, hlen, hds⟩ := exists_of_digits h
  exact ⟨[], ds, rfl, List.ne_nil_of_length_pos (hleast.trans_le hlen), hds⟩

theorem endsInDigits_of_signed {g : Nat → Int} {most : Nat} {y : Int}
    (h : (digits 1 most >>= fun n => pure (g n)) cs = some (y, rest)) : EndsInDigits cs rest := by
  obtain ⟨n, _, hn, hpure⟩ := bind_eq_some_iff.mp h
  cases hpure
  exact endsInDigits_of_digits Nat.one_pos hn

/-- Blanks and a sign may stand in front of a year, and nothing behind its digits. -/
theorem endsInDigits_of_year {y : Int} (h : year cs = some (y, rest)) : EndsInDigits cs rest := by
  obtain ⟨_, text, hblanks, h⟩ := bind_eq_some_iff.mp h
  obtain ⟨-, rfl⟩ := Prod.mk.inj (Option.some.inj hblanks)
  rw [← leading_append_trimStart cs]
  refine EndsInDigits.prepend ?_ _
  generalize trimStart cs = text at h
  rw [get_bind_eq] at h
  split at h
  · rw [set_bind_eq] at h
    exact (endsInDigits_of_signed h).prepend ['-']
  · rw [set_bind_eq] at h
    exact (endsInDigits_of_signed h).prepend ['+']
  · exact endsInDigits_of_signed h

/-! ### Dates -/

/-- A hyphen follows the digits in front of it. -/
theorem not_keepsHyphensInFront_of_hyphen {α β : Type} {r : Reader α} {f : α → Reader β}
    {p : β × List Char} (hr : ∀ a rest, r cs = some (a, rest) → EndsInDigits cs rest)
    (h : (r >>= fun a => char '-' >>= fun _ => f a) cs = some p) : ¬KeepsHyphensInFront cs := by
  obtain ⟨a, text, ha, h⟩ := bind_eq_some_iff.mp h
  obtain ⟨_, more, hhyphen, -⟩ := bind_eq_some_iff.mp h
  obtain rfl := eq_cons_of_char hhyphen
  exact (hr a _ ha).not_keepsHyphensInFront

theorem not_keepsHyphensInFront_of_localDate {p : Calendar.Date × List Char}
    (h : localDate cs = some p) : ¬KeepsHyphensInFront cs :=
  not_keepsHyphensInFront_of_hyphen (fun _ _ => endsInDigits_of_year) h

theorem not_keepsHyphensInFront_of_standard {p : Instant × List Char}
    (h : standard cs = some p) : ¬KeepsHyphensInFront cs :=
  not_keepsHyphensInFront_of_hyphen (fun _ _ => endsInDigits_of_digits (by decide)) h

/-- A local time is read behind its date, or as a date. -/
theorem not_keepsHyphensInFront_of_readLocal {l : LocalTime} (h : readLocal cs = some l) :
    ¬KeepsHyphensInFront cs := by
  have hdate {β : Type} {f : Calendar.Date → Reader β} {b : β}
      (h : (localDate >>= f).whole cs = some b) : ¬KeepsHyphensInFront cs := by
    obtain ⟨d, text, hd, -⟩ := bind_eq_some_iff.mp (whole_eq_some_iff.mp h)
    exact not_keepsHyphensInFront_of_localDate hd
  rw [readLocal, Option.orElse_eq_some, Option.orElse_eq_some] at h
  rcases h with h | ⟨-, h | ⟨-, h⟩⟩
  · exact hdate h
  · exact hdate h
  · exact hdate h

end Time.Reading

/-- **What is read as a time has a hyphen behind a digit.** -/
theorem not_keepsHyphensInFront_of_read {zone : Zone} {t : ZonedTime}
    (h : ZonedTime.read zone cs = some t) : ¬KeepsHyphensInFront cs := by
  unfold ZonedTime.read at h
  split at h
  · next i hstandard =>
    exact Reading.not_keepsHyphensInFront_of_standard (whole_eq_some_iff.mp hstandard)
  · obtain ⟨l, hlocal, -⟩ := Option.bind_eq_some_iff.mp h
    exact Reading.not_keepsHyphensInFront_of_readLocal hlocal

namespace Value

variable {zone : Zone} {raw : String}

/-- A text without digits is neither a number nor a time. -/
theorem infer_of_no_digit (h : raw.toList.any Char.isDigit = false) :
    infer zone raw = .text raw := by
  have hnumeral : ∀ n, ¬IsNumeral raw.toList n := fun n hn => by
    rw [hn.chars.2] at h
    cases h
  refine infer_eq_iff.mpr (.text ?_ (Option.eq_none_iff_forall_ne_some.mpr fun t ht => ?_))
  · rintro (⟨n, hn⟩ | ⟨n, hn⟩)
    · obtain ⟨m, hm⟩ := hn.1.exists_isNumeral
      exact hnumeral m hm
    · exact hnumeral n hn
  · exact not_keepsHyphensInFront_of_read ht (keepsHyphensInFront_of_no_digit h)

/-- In the words for infinity and for what is no number there are no digits, in capitals or not. -/
theorem no_digit_of_word {sign word : String} (hsign : sign ∈ ["", "+", "-"])
    (hword : word ∈ ["inf", "infinity", "nan"])
    (h : cs.map Char.toLower = sign.toList ++ word.toList) : cs.any Char.isDigit = false := by
  have hnone : ∀ sign ∈ ["", "+", "-"], ∀ word ∈ ["inf", "infinity", "nan"],
      (sign.toList ++ word.toList).any Char.isDigit = false := by decide
  refine List.any_eq_false.mpr fun d hmem hd => ?_
  have hlower : d ∈ cs.map Char.toLower := List.mem_map.mpr ⟨d, hmem, toLower_of_isDigit hd⟩
  rw [h] at hlower
  exact List.any_eq_false.mp (hnone sign hsign word hword) d hlower hd

/-- **Every text stands for one kind of value.** It is an integer, a float, a time or itself as its
form says. No text that is read as a time, in whatever zone, writes a number, so the order in which
the two are tried does not matter; and the words that stand for values without digits are texts. -/
theorem infer_exact (zone : Zone) (raw : String) :
    (∀ v, infer zone raw = v ↔ Infers zone raw v) ∧
      (∀ zone' t, ZonedTime.read zone' raw.toList = some t → ¬IsNumberText raw.toList) ∧
      ∀ sign ∈ ["", "+", "-"], ∀ word ∈ ["inf", "infinity", "nan"],
        raw.toList.map Char.toLower = sign.toList ++ word.toList → infer zone raw = .text raw :=
  ⟨fun _ => infer_eq_iff,
    fun _ _ ht hn => not_keepsHyphensInFront_of_read ht hn.keepsHyphensInFront,
    fun _ hsign _ hword h => infer_of_no_digit (no_digit_of_word hsign hword h)⟩

/-- The least integer that 64 bits hold and the next below it, a date of the year -5, and the word
for what lies below them all. -/
theorem infer_exact_belowZero :
    infer Zone.utc "-9223372036854775808" = .integer (-9223372036854775808) ∧
      (∃ x, infer Zone.utc "-9223372036854775809" = .float x) ∧
      (∃ t, infer Zone.utc "-5-1-1" = .time t) ∧ infer Zone.utc "-iNF" = .text "-iNF" := by
  have hleast : IsInt64Text "-9223372036854775808".toList (-9223372036854775808) :=
    readInt64_eq_some_iff.mp (by decide)
  have hbelow : ∀ n, ¬IsInt64Text "-9223372036854775809".toList n :=
    readInt64_eq_none_iff.mp (by decide)
  have hnumeral : IsNumeral "-9223372036854775809".toList ⟨true, 9223372036854775809, 0⟩ :=
    Numeral.read_eq_some_iff.mp (by decide)
  have hdate : ∃ t, ZonedTime.read Zone.utc "-5-1-1".toList = some t :=
    Option.isSome_iff_exists.mp (by decide)
  obtain ⟨t, ht⟩ := hdate
  refine ⟨((infer_exact Zone.utc _).1 _).mpr (.integer hleast),
    ⟨_, ((infer_exact Zone.utc _).1 _).mpr (.float hbelow hnumeral
      (Binary64.read_of_isNumeral hnumeral))⟩,
    ⟨t, ((infer_exact Zone.utc _).1 _).mpr (.time ((infer_exact Zone.utc _).2.1 _ t ht) ht)⟩,
    (infer_exact Zone.utc "-iNF").2.2 "-" (by decide) "inf" (by decide) (by decide)⟩

end Value

end PathTemplate
