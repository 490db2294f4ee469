/-
# The text of tokens

Longest match looks at a text only up to the first character that a token does
not take. So a text that is cut into some tokens and then others falls apart
into two texts, and each of them is cut into its own tokens as if it stood
alone (`LexesTo.split`). What a single token is cut from says what the token
says (`LexesTo.isTokenText`).

Key definitions: `IsTokenText`.
Key theorems: `Lexeme.first_eq_of_append`, `Head.LexesTo.split`, `Head.LexesTo.isTokenText`.
-/
import PathTemplate.Proofs.Decimal.Numeral
import PathTemplate.Proofs.Head.Lexing
import PathTemplate.Proofs.Placeholder.Grammar

namespace PathTemplate

open Decimal

/-- The texts that a token is written as. -/
inductive IsTokenText : Token → List Char → Prop
  | space {cs} (hne : cs ≠ []) (h : ∀ c ∈ cs, isHeadSpace c = true) : IsTokenText .space cs
  | plus : IsTokenText .plus ['+']
  | minus : IsTokenText .minus ['-']
  | integer {ds} (h : IsDigits ds) : IsTokenText (.integer (digitsValue ds)) ds
  | identifier {w} (hne : w ≠ []) (h : ∀ c ∈ w, isWordChar c = true) :
    IsTokenText (.identifier (String.ofList w)) w

namespace Lexeme

variable {c : Char} {cs tail as bs : List Char} {l : Lexeme}

/-- **The first lexeme does not look behind the characters that follow it.** -/
theorem first_eq_of_append (h : first c (tail ++ (as ++ bs)) = (l, as ++ bs)) :
    first c (tail ++ as) = (l, as) := by
  obtain ⟨hshape, hstop⟩ := first_spec c (tail ++ (as ++ bs))
  have htext := first_text c (tail ++ (as ++ bs))
  rw [h] at hshape hstop htext
  have hl : l.text = c :: tail := by
    refine List.append_cancel_right (htext.trans ?_)
    rw [List.cons_append]
  obtain ⟨d, ds, hcut, hfirst⟩ := first_text_append hshape hstop.of_append
  rw [hl, List.cons_append] at hcut
  obtain ⟨rfl, rfl⟩ := List.cons.inj hcut
  exact hfirst

/-- A lexeme that reads as a token is written as the token. -/
theorem isTokenText_first {t : Token} (h : (first c cs).1.reading = .ok t) :
    IsTokenText t (first c cs).1.text := by
  have hshape := (first_spec c cs).1
  generalize (first c cs).1 = l at *
  cases hshape with
  | space hne hrun =>
    cases h
    exact .space hne hrun
  | plus =>
    cases h
    exact .plus
  | minus =>
    cases h
    exact .minus
  | integer hds =>
    cases h
    exact .integer hds
  | identifier hname =>
    cases h
    obtain ⟨⟨c, hc, -⟩, hword⟩ := hname
    exact .identifier (List.ne_nil_of_mem (List.mem_of_mem_head? hc)) hword
  | overflow | stray => cases h

theorem exists_first_text (c : Char) (cs : List Char) :
    ∃ tail, (first c cs).1.text = c :: tail ∧ cs = tail ++ (first c cs).2 := by
  obtain ⟨d, tail, htext⟩ := List.exists_cons_of_ne_nil (first_text_ne_nil c cs)
  have hcs := first_text c cs
  rw [htext] at hcs
  obtain ⟨rfl, hcs⟩ := List.cons.inj hcs
  exact ⟨tail, htext, hcs.symm⟩

end Lexeme

namespace Head

variable {c : Char} {cs : List Char} {offset : Nat} {t : Located Token}
  {ts us : List (Located Token)}

/-! ### Cutting a text -/

theorem LexesTo.eq_nil (h : LexesTo cs offset []) : cs = [] := by
  cases cs with
  | nil => rfl
  | cons c cs =>
    rw [LexesTo, locatedLexemes, lexemes] at h
    cases h

theorem lexesTo_nil (offset : Nat) : LexesTo [] offset [] := by
  rw [LexesTo, locatedLexemes, lexemes]
  rfl

theorem lexesTo_cons_iff :
    LexesTo (c :: cs) offset (t :: ts) ↔
      (Lexeme.first c cs).1.reading = .ok t.node ∧
        t.span = ⟨offset, offset + (Lexeme.first c cs).1.width⟩ ∧
        LexesTo (Lexeme.first c cs).2 (offset + (Lexeme.first c cs).1.width) ts := by
  rw [LexesTo, locatedLexemes, lexemes, layOut, List.map_cons, List.map_cons, List.cons.injEq,
    Prod.mk.injEq, and_assoc]
  exact and_congr_right fun _ => and_congr_left fun _ => eq_comm

/-- The first lexeme of a text, if it is a token, is the first token of every text that goes on
with a part of what follows it. -/
theorem LexesTo.cons {n : Token} {as bs : List Char}
    (hreading : (Lexeme.first c cs).1.reading = .ok n) (hcut : (Lexeme.first c cs).2 = as ++ bs)
    (has : LexesTo as (offset + (Lexeme.first c cs).1.width) ts) :
    LexesTo ((Lexeme.first c cs).1.text ++ as) offset
      (⟨n, offset, offset + (Lexeme.first c cs).1.width⟩ :: ts) := by
  obtain ⟨tail, htail, hcs⟩ := Lexeme.exists_first_text c cs
  rw [hcut] at hcs
  have hwhole : Lexeme.first c (tail ++ (as ++ bs)) = ((Lexeme.first c cs).1, as ++ bs) := by
    rw [← hcs, ← hcut]
  rw [htail, List.cons_append, lexesTo_cons_iff, Lexeme.first_eq_of_append hwhole]
  exact ⟨hreading, rfl, has⟩

/-- **A text that is cut into some tokens and then others** falls apart into their texts. -/
theorem LexesTo.split (h : LexesTo cs offset (ts ++ us)) :
    ∃ as bs, cs = as ++ bs ∧ LexesTo as offset ts ∧ LexesTo bs (offset + utf8Width as) us := by
  induction ts generalizing cs offset with
  | nil => exact ⟨[], cs, rfl, lexesTo_nil offset, h⟩
  | cons t ts ih =>
    cases cs with
    | nil =>
      rw [LexesTo, locatedLexemes, lexemes] at h
      cases h
    | cons c cs =>
      obtain ⟨n, span⟩ := t
      obtain ⟨hreading, rfl, hrest⟩ := lexesTo_cons_iff.mp h
      obtain ⟨as, bs, hcut, has, hbs⟩ := ih hrest
      refine ⟨(Lexeme.first c cs).1.text ++ as, bs, ?_, .cons hreading hcut has, ?_⟩
      · rw [List.append_assoc, ← hcut, Lexeme.first_text]
      · rw [utf8Width_append, ← Nat.add_assoc]
        exact hbs

/-- The text of the first token, and what stands behind it. -/
theorem LexesTo.split_cons (h : LexesTo cs offset (t :: ts)) :
    ∃ as bs, cs = as ++ bs ∧ LexesTo as offset [t] ∧ LexesTo bs (offset + utf8Width as) ts :=
  h.split

/-- **A token says what its text says**, and its place is that of the text. -/
theorem LexesTo.isTokenText (h : LexesTo cs offset [t]) :
    IsTokenText t.node cs ∧ t.span = ⟨offset, offset + utf8Width cs⟩ := by
  cases cs with
  | nil =>
    rw [LexesTo, locatedLexemes, lexemes] at h
    cases h
  | cons c cs =>
    obtain ⟨hreading, hspan, hrest⟩ := lexesTo_cons_iff.mp h
    have htext : (Lexeme.first c cs).1.text = c :: cs := by
      have hcs := Lexeme.first_text c cs
      rwa [hrest.eq_nil, List.append_nil] at hcs
    have htoken := Lexeme.isTokenText_first hreading
    rw [Lexeme.width, htext] at hspan
    rw [htext] at htoken
    exact ⟨htoken, hspan⟩

end Head

end PathTemplate
