/-
# Cutting a head into tokens

Longest match, lexeme by lexeme: a run of characters of one class, before a
character of another, is one lexeme, and the rest of the text is cut as if it
stood alone. The first lexeme of a text has one of the shapes of lexemes, and
the text does not go on with it (`Lexeme.first_spec`); from these two it is
found again (`Lexeme.first_text_append`), and what else is said of it follows.

Two texts that no lexeme joins are cut one behind the other (`lexemes_append`);
only two spaces or two word characters can be joined.

Key definitions: `readings`, `IsIdentifier`, `LexemeKind.takes`, `Lexeme.IsShaped`, `joins`,
`MeetApart`.
Key theorems: `Lexeme.first_spec`, `Lexeme.first_text_append`, `lexemes_text_append`,
`readings_spaces`, `readings_sign`, `readings_decimal`, `readings_identifier`,
`Lexeme.first_append`, `lexemes_append`, `readings_respaced`.
-/
import PathTemplate.Proofs.Decimal.Numeral
import PathTemplate.Proofs.Head.Grammar
import PathTemplate.Proofs.Text.Runs

namespace PathTemplate

open Decimal

/-- How the lexemes of a text read. -/
def readings (cs : List Char) : List (Except LexFault Token) := (lexemes cs).map Lexeme.reading

/-- A letter or the underscore, in ASCII. -/
def isNameStart (c : Char) : Bool := c.isAlpha || c == '_'

/-- A name as a head can write it: word characters that start with no digit. -/
def IsIdentifier (name : List Char) : Prop :=
  (∃ c ∈ name.head?, isNameStart c = true) ∧ ∀ c ∈ name, isWordChar c = true

/-- Whether a character may be part of a token. -/
def isTokenChar (c : Char) : Bool := isHeadSpace c || c == '+' || c == '-' || isWordChar c

/-! ### Classes of characters -/

theorem isWordChar_of_isDigit {c : Char} (h : c.isDigit = true) : isWordChar c = true := by
  simp [isWordChar, Char.isAlphanum, h]

theorem isDigit_of_not_isWordChar {c : Char} (h : isWordChar c = false) : c.isDigit = false := by
  by_contra hd
  rw [isWordChar_of_isDigit (eq_true_of_ne_false hd)] at h
  cases h

theorem isWordChar_of_isNameStart {c : Char} (h : isNameStart c = true) : isWordChar c = true := by
  simp only [isNameStart, Bool.or_eq_true] at h
  simp only [isWordChar, Char.isAlphanum, Bool.or_eq_true]
  exact h.imp .inl id

theorem toNat_of_isAlpha {c : Char} (h : c.isAlpha = true) :
    (65 ≤ c.toNat ∧ c.toNat ≤ 90) ∨ (97 ≤ c.toNat ∧ c.toNat ≤ 122) := by
  rcases Bool.or_eq_true_iff.mp h with h | h
  · have hc : 65 ≤ c.val ∧ c.val ≤ 90 := of_decide_eq_true h
    exact .inl (hc.imp UInt32.le_iff_toNat_le.mp UInt32.le_iff_toNat_le.mp)
  · have hc := Bool.and_eq_true_iff.mp h
    exact .inr (hc.imp (UInt32.le_iff_toNat_le.mp ∘ of_decide_eq_true)
      (UInt32.le_iff_toNat_le.mp ∘ of_decide_eq_true))

/-- No digit starts a name. -/
theorem isDigit_of_isNameStart {c : Char} (h : isNameStart c = true) : c.isDigit = false := by
  rw [Bool.eq_false_iff, ne_eq, Char.isDigit_iff_toNat]
  simp only [isNameStart, Bool.or_eq_true, beq_iff_eq] at h
  rcases h with h | rfl
  · have hc := toNat_of_isAlpha h
    intro hd
    have h9 : c.toNat ≤ 57 := hd.2
    omega
  · decide

/-- A word character is no space and no sign. -/
theorem of_isWordChar {c : Char} (h : isWordChar c = true) :
    isHeadSpace c = false ∧ c ≠ '+' ∧ c ≠ '-' := by
  refine ⟨?_, fun e => absurd (e ▸ h) (by decide), fun e => absurd (e ▸ h) (by decide)⟩
  rw [Bool.eq_false_iff]
  intro hs
  simp only [isHeadSpace, Bool.or_eq_true, beq_iff_eq] at hs
  rcases hs with ((rfl | rfl) | rfl) | rfl <;> exact absurd h (by decide)

theorem isWordChar_of_isHeadSpace {c : Char} (h : isHeadSpace c = true) : isWordChar c = false := by
  by_contra hword
  rw [(of_isWordChar (eq_true_of_ne_false hword)).1] at h
  cases h

/-- A word character that is no digit starts a name. -/
theorem isNameStart_of_isWordChar {c : Char} (h : isWordChar c = true) (hd : c.isDigit = false) :
    isNameStart c = true := by
  simpa [isWordChar, isNameStart, Char.isAlphanum, hd] using h

theorem of_isTokenChar_eq_false {c : Char} (h : isTokenChar c = false) :
    isHeadSpace c = false ∧ c ≠ '+' ∧ c ≠ '-' ∧ isWordChar c = false := by
  simpa [isTokenChar, and_assoc] using h

theorem toNat_of_isWordChar {c : Char} (h : isWordChar c = true) :
    48 ≤ c.toNat ∧ c.toNat ≤ 122 := by
  simp only [isWordChar, Char.isAlphanum, Bool.or_eq_true, beq_iff_eq] at h
  rcases h with (h | h) | rfl
  · have hc := toNat_of_isAlpha h
    omega
  · have hc : 48 ≤ c.toNat ∧ c.toNat ≤ 57 := Char.isDigit_iff_toNat.mp h
    omega
  · decide

theorem isBlank_of_isWordChar {c : Char} (h : isWordChar c = true) : Text.isBlank c = false := by
  have := toNat_of_isWordChar h
  simp only [Text.isBlank, Bool.or_eq_false_iff, Bool.and_eq_false_iff, decide_eq_false_iff_not,
    beq_eq_false_iff_ne]
  omega

/-- Every space of a head is a blank. -/
theorem isBlank_of_isHeadSpace {c : Char} (h : isHeadSpace c = true) : Text.isBlank c = true := by
  simp only [isHeadSpace, Bool.or_eq_true, beq_iff_eq] at h
  rcases h with ((rfl | rfl) | rfl) | rfl <;> decide

/-! ### Lexemes -/

/-- The kinds of lexemes. A run of digits is a number, whether or not 64 bits hold its value. -/
inductive LexemeKind
  | space
  | sign
  | number
  | word
  | stray
deriving DecidableEq, Repr

/-- Whether a lexeme of a kind goes on with a character. -/
def LexemeKind.takes : LexemeKind → Char → Bool
  | space, c => isHeadSpace c
  | number, c => c.isDigit
  | word, c => isWordChar c
  | sign, _ | stray, _ => false

namespace Lexeme

/-- The kind of a lexeme, which its reading tells. -/
def kind (l : Lexeme) : LexemeKind :=
  match l.reading with
  | .ok .space => .space
  | .ok .plus | .ok .minus => .sign
  | .ok (.integer _) | .error (.integerOverflow _) => .number
  | .ok (.identifier _) => .word
  | .error (.unexpectedCharacter _) => .stray

/-- What the text of a lexeme is, and how it reads. -/
inductive IsShaped : Lexeme → Prop
  | space {run} (hne : run ≠ []) (hrun : ∀ c ∈ run, isHeadSpace c = true) :
    IsShaped ⟨run, .ok .space⟩
  | plus : IsShaped ⟨['+'], .ok .plus⟩
  | minus : IsShaped ⟨['-'], .ok .minus⟩
  | integer {ds} (hds : IsDigits ds) (hsmall : digitsValue ds < twoTo 64) :
    IsShaped ⟨ds, .ok (.integer (digitsValue ds))⟩
  | overflow {ds} (hds : IsDigits ds) (hlarge : twoTo 64 ≤ digitsValue ds) :
    IsShaped ⟨ds, .error (.integerOverflow (String.ofList ds))⟩
  | identifier {name} (hname : IsIdentifier name) :
    IsShaped ⟨name, .ok (.identifier (String.ofList name))⟩
  | stray {c} (hc : isTokenChar c = false) : IsShaped ⟨[c], .error (.unexpectedCharacter c)⟩

variable {c : Char} {cs rest : List Char} {l : Lexeme}

/-- Digits are a number or too many for one. -/
theorem isShaped_readInteger {ds : List Char} (hds : IsDigits ds) :
    IsShaped ⟨ds, readInteger ds⟩ := by
  unfold readInteger
  split
  · next h => exact .integer hds h
  · next h => exact .overflow hds (Nat.not_lt.mp h)

theorem kind_readInteger (ds : List Char) : kind ⟨ds, readInteger ds⟩ = .number := by
  unfold readInteger
  split
  · rfl
  · rfl

/-- The first lexeme of a text has its shape, and ends before what follows. -/
theorem first_spec (c : Char) (cs : List Char) :
    (first c cs).1.IsShaped ∧ StopsAt (first c cs).1.kind.takes (first c cs).2 := by
  have hrun (p : Char → Bool) (hc : p c = true) : ∀ d ∈ c :: cs.takeWhile p, p d = true :=
    List.forall_mem_cons.mpr ⟨hc, fun _ => List.mem_takeWhile_imp⟩
  have hnone : StopsAt (fun _ => false) cs := fun _ _ => rfl
  unfold first
  split_ifs with hspace hplus hminus hdigit hword
  · exact ⟨.space (List.cons_ne_nil _ _) (hrun _ hspace), stopsAt_dropWhile _ cs⟩
  · exact ⟨hplus ▸ .plus, hnone⟩
  · exact ⟨hminus ▸ .minus, hnone⟩
  · refine ⟨isShaped_readInteger ⟨List.cons_ne_nil _ _, hrun _ hdigit⟩, ?_⟩
    rw [kind_readInteger]
    exact stopsAt_dropWhile _ cs
  · have hname := isNameStart_of_isWordChar hword (eq_false_of_ne_true hdigit)
    exact ⟨.identifier ⟨⟨c, rfl, hname⟩, hrun _ hword⟩, stopsAt_dropWhile _ cs⟩
  · exact ⟨.stray (by simp [isTokenChar, hspace, hplus, hminus, hword]), hnone⟩

theorem first_digits {d : Char} {ds : List Char} (hds : IsDigits (d :: ds))
    (hr : StopsAt Char.isDigit rest) :
    first d (ds ++ rest) = (⟨d :: ds, readInteger (d :: ds)⟩, rest) := by
  obtain ⟨hd, htail⟩ := List.forall_mem_cons.mp hds.digits
  obtain ⟨h1, h2, h3⟩ := of_isWordChar (isWordChar_of_isDigit hd)
  unfold first
  simp only [h1, h2, h3, hd, if_true, if_false, takeWhile_stop htail hr, dropWhile_stop htail hr,
    Bool.false_eq_true]

/-- A lexeme is found again from its shape and from what follows it. -/
theorem first_text_append (hl : l.IsShaped) (hr : StopsAt l.kind.takes rest) :
    ∃ c cs, l.text ++ rest = c :: cs ∧ first c cs = (l, rest) := by
  cases hl with
  | @space run hne hrun =>
    obtain ⟨c, run, rfl⟩ := List.exists_cons_of_ne_nil hne
    obtain ⟨hc, htail⟩ := List.forall_mem_cons.mp hrun
    refine ⟨c, run ++ rest, rfl, ?_⟩
    rw [first, if_pos hc, takeWhile_stop htail hr, dropWhile_stop htail hr]
  | plus => exact ⟨'+', rest, rfl, rfl⟩
  | minus => exact ⟨'-', rest, rfl, rfl⟩
  | @integer ds hds hsmall =>
    obtain ⟨d, ds, rfl⟩ := List.exists_cons_of_ne_nil hds.nonempty
    refine ⟨d, ds ++ rest, rfl, ?_⟩
    rw [first_digits hds hr, readInteger, if_pos hsmall]
  | @overflow ds hds hlarge =>
    obtain ⟨d, ds, rfl⟩ := List.exists_cons_of_ne_nil hds.nonempty
    refine ⟨d, ds ++ rest, rfl, ?_⟩
    rw [first_digits hds hr, readInteger, if_neg (Nat.not_lt.mpr hlarge)]
  | @identifier name hname =>
    obtain ⟨⟨c, hc, hstart⟩, hword⟩ := hname
    obtain ⟨tail, rfl⟩ := List.head?_eq_some_iff.mp hc
    obtain ⟨h, htail⟩ := List.forall_mem_cons.mp hword
    obtain ⟨h1, h2, h3⟩ := of_isWordChar h
    refine ⟨c, tail ++ rest, rfl, ?_⟩
    rw [first, if_neg (by simp [h1]), if_neg h2, if_neg h3,
      if_neg (by simp [isDigit_of_isNameStart hstart]), if_pos h, takeWhile_stop htail hr,
      dropWhile_stop htail hr]
  | @stray c hc =>
    obtain ⟨h1, h2, h3, h4⟩ := of_isTokenChar_eq_false hc
    have hdigit := isDigit_of_not_isWordChar h4
    refine ⟨c, rest, rfl, ?_⟩
    rw [first, if_neg (by simp [h1]), if_neg h2, if_neg h3, if_neg (by simp [hdigit]),
      if_neg (by simp [h4])]

end Lexeme

/-- A text that begins with a lexeme, and does not go on with more of it, is cut behind it. -/
theorem lexemes_text_append {l : Lexeme} {rest : List Char} (hl : l.IsShaped)
    (hr : StopsAt l.kind.takes rest) : lexemes (l.text ++ rest) = l :: lexemes rest := by
  obtain ⟨c, cs, htext, hfirst⟩ := Lexeme.first_text_append hl hr
  rw [htext, lexemes, hfirst]

/-- A run of digits is one lexeme. -/
theorem lexemes_integer {ds rest : List Char} (hds : IsDigits ds) (hr : StopsAt Char.isDigit rest) :
    lexemes (ds ++ rest) = ⟨ds, readInteger ds⟩ :: lexemes rest := by
  refine lexemes_text_append (Lexeme.isShaped_readInteger hds) ?_
  rw [Lexeme.kind_readInteger]
  exact hr

/-- A character that no token holds is a lexeme of its own. -/
theorem lexemes_stray {c : Char} (hc : isTokenChar c = false) (rest : List Char) :
    lexemes (c :: rest) = ⟨[c], .error (.unexpectedCharacter c)⟩ :: lexemes rest :=
  lexemes_text_append (.stray hc) fun _ _ => rfl

/-! ### Readings -/

theorem readings_nil : readings [] = [] := by simp [readings, lexemes]

theorem readings_text_append {l : Lexeme} {rest : List Char} (hl : l.IsShaped)
    (hr : StopsAt l.kind.takes rest) : readings (l.text ++ rest) = l.reading :: readings rest := by
  rw [readings, lexemes_text_append hl hr]
  rfl

/-- A run of spaces is one token, however long it is. -/
theorem readings_spaces {run rest : List Char} (hne : run ≠ [])
    (hrun : ∀ c ∈ run, isHeadSpace c = true) (hr : StopsAt isHeadSpace rest) :
    readings (run ++ rest) = .ok .space :: readings rest :=
  readings_text_append (.space hne hrun) hr

theorem readings_space {rest : List Char} (hr : StopsAt isHeadSpace rest) :
    readings (' ' :: rest) = .ok .space :: readings rest :=
  readings_spaces (List.cons_ne_nil ' ' []) (List.forall_mem_singleton.mpr (by decide)) hr

theorem readings_sign (s : Sign) (rest : List Char) :
    readings (s.char :: rest) = .ok s.token :: readings rest := by
  have hnone : StopsAt (fun _ => false) rest := fun _ _ => rfl
  cases s with
  | plus => exact readings_text_append .plus hnone
  | minus => exact readings_text_append .minus hnone

theorem readings_identifier {name rest : List Char} (hn : IsIdentifier name)
    (hr : StopsAt isWordChar rest) :
    readings (name ++ rest) = .ok (.identifier (String.ofList name)) :: readings rest :=
  readings_text_append (.identifier hn) hr

/-- A number that 64 bits hold reads as itself. -/
theorem readings_decimal {n : Nat} (hn : n < twoTo 64) {rest : List Char}
    (hr : StopsAt Char.isDigit rest) :
    readings (decimal n ++ rest) = .ok (.integer n) :: readings rest := by
  rw [readings, lexemes_integer (isDigits_decimal n) hr, readInteger, digitsValue_decimal, if_pos hn]
  rfl

/-! ### Two texts -/

/-- Whether two characters that stand side by side may be in one lexeme. -/
def joins (a b : Char) : Bool := isHeadSpace a && isHeadSpace b || isWordChar a && isWordChar b

/-- Whether no lexeme reaches from a text into the text behind it. -/
def MeetApart (as bs : List Char) : Prop := ∀ a ∈ as.getLast?, ∀ b ∈ bs.head?, joins a b = false

theorem MeetApart.of_append {as as' bs : List Char} (h : MeetApart (as ++ as') bs) :
    MeetApart as' bs := by
  intro a ha b hb
  refine h a ?_ b hb
  rw [List.getLast?_append, Option.mem_def.mp ha]
  rfl

/-- A lexeme goes on only with what each of its characters joins. -/
theorem Lexeme.IsShaped.joins_eq {l : Lexeme} (hl : l.IsShaped) {a b : Char} (ha : a ∈ l.text)
    (hb : l.kind.takes b = true) : joins a b = true := by
  cases hl with
  | space hne hrun =>
    have hb : isHeadSpace b = true := hb
    simp [joins, hrun a ha, hb]
  | integer hds | overflow hds =>
    have ha := isWordChar_of_isDigit (hds.digits a ha)
    have hb := isWordChar_of_isDigit hb
    simp [joins, ha, hb]
  | identifier hname =>
    have hb : isWordChar b = true := hb
    simp [joins, hname.2 a ha, hb]
  | plus | minus | stray => cases hb

/-- **The first lexeme of a text** is the same in front of a text that it does not join. -/
theorem Lexeme.first_append {c : Char} {cs bs : List Char} (h : MeetApart (c :: cs) bs) :
    first c (cs ++ bs) = ((first c cs).1, (first c cs).2 ++ bs) := by
  obtain ⟨hshape, hstop⟩ := first_spec c cs
  have hends : StopsAt (first c cs).1.kind.takes ((first c cs).2 ++ bs) := by
    refine hstop.append fun hnil b hb => ?_
    -- the lexeme is the whole text, so it would join what it went on with
    have htext : (first c cs).1.text = c :: cs := by
      rw [← first_text c cs, hnil, List.append_nil]
    have hne := List.cons_ne_nil c cs
    have hmem : (c :: cs).getLast hne ∈ (first c cs).1.text := by
      rw [htext]
      exact List.getLast_mem hne
    have happart := h _ (List.getLast?_eq_some_getLast hne) b hb
    by_contra htakes
    have hjoin := hshape.joins_eq hmem (eq_true_of_ne_false htakes)
    rw [happart] at hjoin
    cases hjoin
  obtain ⟨d, ds, htext, hfirst⟩ := first_text_append hshape hends
  rw [← List.append_assoc, first_text] at htext
  obtain ⟨rfl, rfl⟩ := List.cons.inj htext
  exact hfirst

/-- **Texts that no lexeme joins are cut one behind the other.** -/
theorem lexemes_append (as bs : List Char) (h : MeetApart as bs) :
    lexemes (as ++ bs) = lexemes as ++ lexemes bs := by
  induction as using lexemes.induct with
  | case1 => simp [lexemes]
  | case2 c cs ih =>
    have hrest : MeetApart (Lexeme.first c cs).2 bs := by
      have htext := Lexeme.first_text c cs
      rw [← htext] at h
      exact h.of_append
    rw [List.cons_append, lexemes, lexemes, Lexeme.first_append h, List.cons_append, ih hrest]

/-- The lexemes of a text take its bytes. -/
theorem total_lexemes (cs : List Char) :
    total ((lexemes cs).map Lexeme.width) = utf8Width cs := by
  induction cs using lexemes.induct with
  | case1 => simp [lexemes]
  | case2 c cs ih =>
    rw [lexemes, List.map_cons, total_cons, ih, Lexeme.width, ← utf8Width_append,
      Lexeme.first_text]

/-- Texts that no lexeme joins are cut one behind the other, each at its place. -/
theorem locatedLexemes_append {as bs : List Char} (h : MeetApart as bs) (offset : Nat) :
    locatedLexemes (as ++ bs) offset =
      locatedLexemes as offset ++ locatedLexemes bs (offset + utf8Width as) := by
  rw [locatedLexemes, lexemes_append as bs h, layOut_append, total_lexemes]
  rfl

theorem readings_append {as bs : List Char} (h : MeetApart as bs) :
    readings (as ++ bs) = readings as ++ readings bs := by
  rw [readings, lexemes_append as bs h, List.map_append]
  rfl

/-- A space joins nothing but spaces. -/
theorem meetApart_of_stop {as bs : List Char} (ha : StopsAt isHeadSpace as.reverse)
    (hb : ∀ b ∈ bs.head?, isHeadSpace b = true) : MeetApart as bs := by
  intro a hlast b hfirst
  have hspace := ha a (by rwa [List.head?_reverse])
  have hword := isWordChar_of_isHeadSpace (hb b hfirst)
  simp [joins, hspace, hword]

/-- A character that no token holds joins nothing. -/
theorem meetApart_stray {c : Char} (hc : isTokenChar c = false) (as bs : List Char) :
    MeetApart as (c :: bs) := by
  obtain ⟨hspace, -, -, hword⟩ := of_isTokenChar_eq_false hc
  rintro a - _ ⟨⟩
  simp [joins, hspace, hword]

/-- Digits join nothing but word characters. -/
theorem meetApart_digits {as ds : List Char} (ha : StopsAt isWordChar as.reverse)
    (hds : IsDigits ds) (bs : List Char) : MeetApart as (ds ++ bs) := by
  obtain ⟨d, tail, rfl⟩ := List.exists_cons_of_ne_nil hds.nonempty
  have hdigit := isWordChar_of_isDigit (hds.digits d List.mem_cons_self)
  rintro a hlast _ ⟨⟩
  have hword : isWordChar a = false := ha a (by rwa [List.head?_reverse])
  simp [joins, (of_isWordChar hdigit).1, hword]

/-- **A run of spaces can stand for another**, whatever stands around it. -/
theorem readings_respaced {run run' : List Char} (hne : run ≠ []) (hne' : run' ≠ [])
    (hrun : ∀ c ∈ run, isHeadSpace c = true) (hrun' : ∀ c ∈ run', isHeadSpace c = true)
    (as bs : List Char) : readings (as ++ (run ++ bs)) = readings (as ++ (run' ++ bs)) := by
  -- the spaces around the run belong to its token
  obtain ⟨front, gap, rfl, hgap, hstop⟩ := exists_run_behind isHeadSpace as
  have hmore : ∀ c ∈ bs.takeWhile isHeadSpace, isHeadSpace c = true :=
    fun c hc => List.mem_takeWhile_imp hc
  have key : ∀ spaces : List Char, spaces ≠ [] → (∀ c ∈ spaces, isHeadSpace c = true) →
      readings (front ++ gap ++ (spaces ++ bs)) =
        readings front ++ .ok .space :: readings (bs.dropWhile isHeadSpace) := by
    intro spaces hspaces hall
    have hwhole : ∀ c ∈ gap ++ spaces ++ bs.takeWhile isHeadSpace, isHeadSpace c = true :=
      List.forall_mem_append.mpr ⟨List.forall_mem_append.mpr ⟨hgap, hall⟩, hmore⟩
    have hwholeNe : gap ++ spaces ++ bs.takeWhile isHeadSpace ≠ [] := by simp [hspaces]
    have happart : MeetApart front
        (gap ++ spaces ++ bs.takeWhile isHeadSpace ++ bs.dropWhile isHeadSpace) := by
      refine meetApart_of_stop hstop fun b hb => hwhole b ?_
      obtain ⟨c, cs, hcs⟩ := List.exists_cons_of_ne_nil hwholeNe
      rw [hcs] at hb ⊢
      cases hb
      exact List.mem_cons_self
    calc readings (front ++ gap ++ (spaces ++ bs))
      _ = readings (front ++ (gap ++ spaces ++ bs.takeWhile isHeadSpace ++
            bs.dropWhile isHeadSpace)) := by
        simp only [List.append_assoc, List.takeWhile_append_dropWhile]
      _ = readings front ++ .ok .space :: readings (bs.dropWhile isHeadSpace) := by
        rw [readings_append happart,
          readings_spaces hwholeNe hwhole (stopsAt_dropWhile isHeadSpace bs)]
  rw [key run hne hrun, key run' hne' hrun']

end PathTemplate
