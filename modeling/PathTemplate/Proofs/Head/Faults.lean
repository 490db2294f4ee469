/-
# What keeps a head from being cut

A head's text is cut into lexemes to its end, also where a lexeme is no token.
The reader reports the first such lexeme. It is a character that no token holds,
or a run of digits with a value that 64 bits do not hold; all that stands in
front of it is cut into tokens. If every lexeme is a token, the tokens are at
fault.

Key definitions: `Head.IsFirstFault`.
Key theorems: `Head.tokens_eq_error_iff`, `Head.read_eq_error_iff`, `Head.IsFirstFault.shows`.
-/
import PathTemplate.Proofs.Head.Slices
import PathTemplate.Proofs.Head.Viability
import PathTemplate.Proofs.Text.Edges

namespace PathTemplate

open Decimal

namespace Head

/-! ### The first stretch that is no token -/

/-- What is wrong with the first stretch of a text that is no token: either a character that no
token holds, or digits that 64 bits do not hold. All that stands in front of it is tokens. -/
inductive IsFirstFault (cs : List Char) (offset : Nat) : SyntaxError → Prop
  | character {good c rest ts} (hcut : cs = good ++ c :: rest) (hgood : LexesTo good offset ts)
    (hc : isTokenChar c = false) :
    IsFirstFault cs offset ⟨.lexical (.unexpectedCharacter c),
      offset + utf8Width good, offset + utf8Width good + c.utf8Size⟩
  | number {good ds rest ts} (hcut : cs = good ++ (ds ++ rest)) (hgood : LexesTo good offset ts)
    (hds : IsDigits ds) (hlarge : twoTo 64 ≤ digitsValue ds)
    (hfront : StopsAt isWordChar good.reverse) (hbehind : StopsAt Char.isDigit rest) :
    IsFirstFault cs offset ⟨.lexical (.integerOverflow (String.ofList ds)),
      offset + utf8Width good, offset + utf8Width good + utf8Width ds⟩

variable {c : Char} {cs good rest : List Char} {offset : Nat} {ts : List (Located Token)}
  {e : SyntaxError}

/-- A lexeme that is no token is a character that no token holds, or digits with too large a
value. -/
theorem first_eq_error {fault : LexFault} (h : (Lexeme.first c cs).1.reading = .error fault) :
    (fault = .unexpectedCharacter c ∧ (Lexeme.first c cs).1.text = [c] ∧ isTokenChar c = false) ∨
      (fault = .integerOverflow (String.ofList (Lexeme.first c cs).1.text) ∧
        IsDigits (Lexeme.first c cs).1.text ∧ twoTo 64 ≤ digitsValue (Lexeme.first c cs).1.text ∧
        StopsAt Char.isDigit (Lexeme.first c cs).2) := by
  obtain ⟨hshape, hstop⟩ := Lexeme.first_spec c cs
  obtain ⟨tail, htext, -⟩ := Lexeme.exists_first_text c cs
  generalize Lexeme.first c cs = p at *
  obtain ⟨l, rest⟩ := p
  cases hshape with
  | overflow hds hlarge =>
    cases h
    exact .inr ⟨rfl, hds, hlarge, hstop⟩
  | stray hc =>
    cases h
    obtain rfl := (List.cons.inj htext).1
    exact .inl ⟨rfl, rfl, hc⟩
  | space | plus | minus | integer | identifier => cases h

/-- What a digit follows without being taken into it ends in no word character. -/
theorem stopsAt_first_text (h : ∃ d ∈ (Lexeme.first c cs).2.head?, d.isDigit = true) :
    StopsAt isWordChar (Lexeme.first c cs).1.text.reverse := by
  obtain ⟨d, hd, hdigit⟩ := h
  obtain ⟨hshape, hstop⟩ := Lexeme.first_spec c cs
  generalize Lexeme.first c cs = p at *
  obtain ⟨l, rest⟩ := p
  have htakes := hstop d hd
  intro b hb
  have hmem : b ∈ l.text := List.mem_reverse.mp (List.mem_of_mem_head? hb)
  cases hshape with
  | space hne hrun => exact isWordChar_of_isHeadSpace (hrun b hmem)
  | plus | minus =>
    rw [List.mem_singleton.mp hmem]
    decide
  -- a run that holds digits would have taken this one
  | integer | overflow => exact absurd hdigit (Bool.eq_false_iff.mp htakes)
  | identifier => exact absurd (isWordChar_of_isDigit hdigit) (Bool.eq_false_iff.mp htakes)
  | stray hc =>
    rw [List.mem_singleton.mp hmem]
    exact (of_isTokenChar_eq_false hc).2.2.2

/-- A token in front of the first fault moves it on. -/
theorem IsFirstFault.cons {n : Token} (hreading : (Lexeme.first c cs).1.reading = .ok n)
    (h : IsFirstFault (Lexeme.first c cs).2 (offset + (Lexeme.first c cs).1.width) e) :
    IsFirstFault (c :: cs) offset e := by
  have hplace (good : List Char) : offset + (Lexeme.first c cs).1.width + utf8Width good =
      offset + utf8Width ((Lexeme.first c cs).1.text ++ good) := by
    rw [utf8Width_append, ← Nat.add_assoc]
    rfl
  have hwhole {good rest : List Char} (hcut : (Lexeme.first c cs).2 = good ++ rest) :
      c :: cs = (Lexeme.first c cs).1.text ++ good ++ rest := by
    rw [List.append_assoc, ← hcut, Lexeme.first_text]
  cases h with
  | character hcut hgood hc =>
    rw [hplace]
    exact .character (hwhole hcut) (.cons hreading hcut hgood) hc
  | @number good ds rest ts hcut hgood hds hlarge hfront hbehind =>
    rw [hplace]
    refine .number (hwhole hcut) (.cons hreading hcut hgood) hds hlarge ?_ hbehind
    rw [List.reverse_append]
    refine hfront.append fun hnil => stopsAt_first_text ?_
    obtain ⟨d, tail, rfl⟩ := List.exists_cons_of_ne_nil hds.nonempty
    rw [hcut, List.reverse_eq_nil_iff.mp hnil]
    exact ⟨d, rfl, hds.digits d List.mem_cons_self⟩

theorem tokens_append_error {ls ms : List (Located Lexeme)} (hls : tokens ls = .ok ts)
    (hms : tokens ms = .error e) : tokens (ls ++ ms) = .error e := by
  induction ls generalizing ts with
  | nil => exact hms
  | cons l ls ih =>
    obtain ⟨⟨text, reading⟩, span⟩ := l
    cases reading with
    | error fault => cases hls
    | ok n =>
      obtain ⟨us, hus, -⟩ := bind_eq_ok.mp hls
      simp only [List.cons_append, tokens, ih hus]
      rfl

/-- A text that falls apart into tokens and a text that starts with no token is refused for the
start of the latter. -/
theorem LexesTo.tokens_eq_error {l : Lexeme} {ls : List Lexeme} {fault : LexFault}
    (hgood : LexesTo good offset ts) (happart : MeetApart good rest)
    (hrest : lexemes rest = l :: ls) (hl : l.reading = .error fault) :
    tokens (locatedLexemes (good ++ rest) offset) =
      .error ⟨.lexical fault, offset + utf8Width good, offset + utf8Width good + l.width⟩ := by
  rw [locatedLexemes_append happart]
  refine tokens_append_error (tokens_eq_ok_iff.mpr hgood) ?_
  rw [locatedLexemes, hrest, layOut, tokens, hl]

/-- **The first fault of a head's text** is what keeps it from being cut into tokens. -/
theorem tokens_eq_error_iff :
    tokens (locatedLexemes cs offset) = .error e ↔ IsFirstFault cs offset e := by
  constructor
  · intro h
    induction cs using lexemes.induct generalizing offset with
    | case1 =>
      rw [locatedLexemes, lexemes] at h
      cases h
    | case2 c cs ih =>
      rw [locatedLexemes, lexemes, layOut, tokens] at h
      cases hreading : (Lexeme.first c cs).1.reading with
      | ok n =>
        rw [hreading] at h
        rcases bind_eq_error.mp h with h | ⟨ts, -, h⟩
        · exact (ih h).cons hreading
        · cases h
      | error fault =>
        rw [hreading] at h
        cases h
        have hcut := Lexeme.first_text c cs
        rcases first_eq_error hreading with ⟨rfl, htext, hc⟩ | ⟨rfl, hds, hlarge, hbehind⟩
        · rw [Lexeme.width, htext]
          exact .character rfl (lexesTo_nil offset) hc
        · refine .number hcut.symm (lexesTo_nil offset) hds hlarge ?_ hbehind
          rintro _ ⟨⟩
  · intro h
    cases h with
    | @character good c rest ts hcut hgood hc =>
      rw [hcut]
      exact hgood.tokens_eq_error (meetApart_stray hc good rest) (lexemes_stray hc rest) rfl
    | @number good ds rest ts hcut hgood hds hlarge hfront hbehind =>
      rw [hcut]
      refine hgood.tokens_eq_error (meetApart_digits hfront hds rest)
        (lexemes_integer hds hbehind) ?_
      rw [readInteger, if_neg (Nat.not_lt.mpr hlarge)]

/-- A head is refused for the first stretch of it that is no token, or else for its tokens. -/
theorem read_eq_error_iff : Head.read cs offset = .error e ↔ IsFirstFault cs offset e ∨
    ∃ ts, LexesTo cs offset ts ∧ ofTokens ts (offset + utf8Width cs) = .error e := by
  rw [Head.read, bind_eq_error, tokens_eq_error_iff]
  simp only [tokens_eq_ok_iff, LexesTo]

/-- Tokens have no lexical fault. -/
theorem fault_ne_lexical {stop : Nat} (h : ofTokens ts stop = .error e) (fault : LexFault) :
    e.fault ≠ .lexical fault := by
  intro hfault
  rcases bind_eq_error.mp h with h | ⟨p, -, h⟩
  · obtain ⟨before, t, after, q, -, -, hstep⟩ := run_eq_error_iff.mp h
    cases step_eq_error hstep with
    | unknownUnit => cases hfault
    | unexpected => cases hfault
  · rw [Progress.close] at h
    split at h
    · cases h
    · cases h
      cases hfault

/-- **The error of a lexical fault shows what is wrong**, and its message quotes just that. -/
theorem IsFirstFault.shows (h : IsFirstFault cs offset e) :
    ∃ before quoted, e.span.Shows cs offset before quoted ∧
      (e.fault.text = "Unexpected character '" ++ String.ofList quoted ++ "'" ∨
        e.fault.text = "Number '" ++ String.ofList quoted ++ "' is too large") := by
  cases h with
  | @character good c rest ts hcut hgood hc =>
    exact ⟨good, [c], ⟨⟨rest, hcut⟩, rfl⟩, .inl rfl⟩
  | @number good ds rest ts hcut hgood hds hlarge hfront hbehind =>
    exact ⟨good, ds, ⟨⟨rest, hcut⟩, rfl⟩, .inr rfl⟩

end Head

end PathTemplate
