/-
# Lexemes tile a head

The lexemes of a text stand one behind the other, without a gap, from its start
to its end. Spaces, digits and names are taken as runs: no space stands behind
a space, no digits behind digits, and neither a name nor digits behind a name.
That is all it takes. A text can be laid out in lexemes that keep to it in one
way only (`isLexing_iff`), since the first character of a lexeme tells whether
the lexeme in front of it would have gone on (`Lexeme.IsShaped.takes_head`).

Faults are lexemes as others are. What stands in front of a lexeme and what
stands behind it is cut as if it stood alone, so the cutting goes on behind a
fault, and the characters that no token holds are just the faults of their
kind, one for each.

Key definitions: `LexemeKind.mayPrecede`, `IsLexing`, `Located.stray?`.
Key theorems: `lexemes_flatMap`, `isLexing_iff`, `strays_locatedLexemes`,
`locatedLexemes_number`, `lexemes_tile`.
-/
import PathTemplate.Proofs.Head.Lexing
import PathTemplate.Proofs.Text.Edges

namespace PathTemplate

open Decimal

/-- Whether a lexeme of one kind may stand right in front of one of another. -/
def LexemeKind.mayPrecede : LexemeKind → LexemeKind → Bool
  | space, space | number, number | word, number | word, word => false
  | _, _ => true

/-- Whether located lexemes lay out a text that starts at byte `place`, in runs as long as can be. -/
structure IsLexing (text : List Char) (place : Nat) (ls : List (Located Lexeme)) : Prop where
  consecutive : AreConsecutive (place + utf8Width text) place (ls.map Located.span)
  shown : ∀ l ∈ ls, ∃ before, l.span.Shows text place before l.node.text
  shaped : ∀ l ∈ ls, l.node.IsShaped
  maximal : (ls.map fun l => l.node.kind).IsChain fun k m => k.mayPrecede m = true

/-- The character that a lexeme is, at its place, if no token holds it. -/
def Located.stray? (l : Located Lexeme) : Option (Located Char) :=
  match l.node.reading with
  | .error (.unexpectedCharacter c) => some ⟨c, l.span⟩
  | _ => none

/-- A number as a lexeme, written with zeros in front up to a width. -/
def Lexeme.number (width n : Nat) : Lexeme :=
  ⟨zeroPadded width n, if n < twoTo 64 then .ok (.integer n)
    else .error (.integerOverflow (String.ofList (zeroPadded width n)))⟩

/-! ### Neighbours -/

namespace Lexeme.IsShaped

variable {l : Lexeme} {c : Char}

theorem text_ne_nil (hl : l.IsShaped) : l.text ≠ [] := by
  cases hl with
  | space hne => exact hne
  | integer hds | overflow hds => exact hds.nonempty
  | identifier hname =>
    obtain ⟨⟨c, hc, -⟩, -⟩ := hname
    exact List.ne_nil_of_mem (List.mem_of_mem_head? hc)
  | plus | minus | stray => exact List.cons_ne_nil _ _

/-- The first character of a lexeme tells its kind. -/
theorem class_head (hl : l.IsShaped) (hc : c ∈ l.text.head?) :
    isHeadSpace c = (l.kind == .space) ∧ c.isDigit = (l.kind == .number) ∧
      isWordChar c = (l.kind == .number || l.kind == .word) := by
  have hmem : c ∈ l.text := List.mem_of_mem_head? hc
  cases hl with
  | space hne hrun =>
    have hspace := hrun c hmem
    have hword := isWordChar_of_isHeadSpace hspace
    exact ⟨hspace, isDigit_of_not_isWordChar hword, hword⟩
  | plus | minus =>
    cases hc
    decide
  | integer hds | overflow hds =>
    have hdigit := hds.digits c hmem
    have hword := isWordChar_of_isDigit hdigit
    exact ⟨(of_isWordChar hword).1, hdigit, hword⟩
  | identifier hname =>
    obtain ⟨⟨d, hd, hstart⟩, -⟩ := hname
    obtain rfl : c = d := Option.mem_unique hc hd
    have hword := isWordChar_of_isNameStart hstart
    exact ⟨(of_isWordChar hword).1, isDigit_of_isNameStart hstart, hword⟩
  | stray hstray =>
    cases hc
    obtain ⟨hspace, -, -, hword⟩ := of_isTokenChar_eq_false hstray
    exact ⟨hspace, isDigit_of_not_isWordChar hword, hword⟩

/-- **A lexeme goes on with the first character of another** exactly if the other may not stand
behind it. -/
theorem takes_head (hl : l.IsShaped) (hc : c ∈ l.text.head?) (k : LexemeKind) :
    k.takes c = !k.mayPrecede l.kind := by
  obtain ⟨hspace, hdigit, hword⟩ := hl.class_head hc
  cases k with
  | space =>
    rw [LexemeKind.takes, hspace]
    cases l.kind <;> rfl
  | number =>
    rw [LexemeKind.takes, hdigit]
    cases l.kind <;> rfl
  | word =>
    rw [LexemeKind.takes, hword]
    cases l.kind <;> rfl
  | sign | stray => cases l.kind <;> rfl

/-- A lexeme ends where lexemes follow it that may stand behind it. -/
theorem stopsAt_iff (hl : l.IsShaped) (k : LexemeKind) (rest : List Char) :
    StopsAt k.takes (l.text ++ rest) ↔ k.mayPrecede l.kind = true := by
  obtain ⟨c, tail, htext⟩ := List.exists_cons_of_ne_nil hl.text_ne_nil
  rw [htext, List.cons_append, stopsAt_cons, hl.takes_head (by rw [htext]; rfl) k]
  simp

end Lexeme.IsShaped

/-! ### One way to cut a text -/

/-- **Lexemes that may stand side by side are cut again** from the text that they make up. -/
theorem lexemes_flatMap {ls : List Lexeme} (hshaped : ∀ l ∈ ls, l.IsShaped)
    (hmaximal : (ls.map Lexeme.kind).IsChain fun k m => k.mayPrecede m = true) :
    lexemes (ls.flatMap Lexeme.text) = ls := by
  induction ls with
  | nil => simp [lexemes]
  | cons l ls ih =>
    obtain ⟨hl, hls⟩ := List.forall_mem_cons.mp hshaped
    have hstop : StopsAt l.kind.takes (ls.flatMap Lexeme.text) := by
      cases ls with
      | nil =>
        intro c hc
        cases hc
      | cons m ls =>
        have hm := hls m List.mem_cons_self
        rw [List.flatMap_cons, hm.stopsAt_iff]
        exact (List.isChain_cons_cons.mp hmaximal).1
    rw [List.flatMap_cons, lexemes_text_append hl hstop, ih hls hmaximal.tail]

theorem forall_isShaped_lexemes (cs : List Char) : ∀ l ∈ lexemes cs, l.IsShaped := by
  induction cs using lexemes.induct with
  | case1 =>
    rw [lexemes]
    exact List.forall_mem_nil _
  | case2 c cs ih =>
    rw [lexemes]
    exact List.forall_mem_cons.mpr ⟨(Lexeme.first_spec c cs).1, ih⟩

/-- Only lexemes that may stand side by side do. -/
theorem isChain_lexemes (cs : List Char) :
    ((lexemes cs).map Lexeme.kind).IsChain fun k m => k.mayPrecede m = true := by
  induction cs using lexemes.induct with
  | case1 =>
    rw [lexemes]
    exact .nil
  | case2 c cs ih =>
    have hstop := (Lexeme.first_spec c cs).2
    rw [lexemes, List.map_cons, List.isChain_cons]
    refine ⟨fun k hk => ?_, ih⟩
    cases hrest : (Lexeme.first c cs).2 with
    | nil =>
      rw [hrest, lexemes] at hk
      cases hk
    | cons d ds =>
      rw [hrest, lexemes] at hk
      cases hk
      rw [hrest, ← Lexeme.first_text d ds] at hstop
      exact ((Lexeme.first_spec d ds).1.stopsAt_iff _ _).mp hstop

variable {text : List Char} {place : Nat} {ls before after : List (Located Lexeme)}
  {l : Located Lexeme}

/-- **The lexemes of a text are the only way to lay it out** in runs as long as can be. -/
theorem isLexing_iff : IsLexing text place ls ↔ ls = locatedLexemes text place := by
  have hwidth (l : Lexeme) : l.width = utf8Width l.text := rfl
  constructor
  · intro h
    have hspans : AreConsecutive (place + utf8Width ([] ++ text)) (place + utf8Width [])
        (ls.map Located.span) := h.consecutive
    obtain ⟨hcover, hlaid⟩ := hspans.eq_layOut hwidth h.shown
    have hshaped : ∀ l ∈ ls.map Located.node, l.IsShaped := List.forall_mem_map.mpr h.shaped
    have hmaximal := h.maximal
    rw [← Function.comp_def, ← List.map_map] at hmaximal
    rw [locatedLexemes, ← hcover, lexemes_flatMap hshaped hmaximal]
    exact hlaid.symm
  · rintro rfl
    have hnodes : (locatedLexemes text place).map Located.node = lexemes text :=
      layOut_map_node Lexeme.width place (lexemes text)
    have hshaped := forall_isShaped_lexemes text
    refine ⟨?_, ?_, ?_, ?_⟩
    · have h := areConsecutive_layOut hwidth place fun l hl => (hshaped l hl).text_ne_nil
      rwa [lexemes_flatMap_text] at h
    · have h := shows_of_mem_layOut hwidth place [] (lexemes text)
      rwa [List.nil_append, lexemes_flatMap_text] at h
    · rw [← hnodes] at hshaped
      exact List.forall_mem_map.mp hshaped
    · have h := isChain_lexemes text
      rwa [← hnodes, List.map_map] at h

/-! ### On either side of a lexeme -/

/-- Lexemes that stand side by side in a text are the lexemes of what they make up. -/
theorem lexemes_of_eq_append {cs : List Char} {as bs : List Lexeme} (h : lexemes cs = as ++ bs) :
    lexemes (as.flatMap Lexeme.text) = as ∧ lexemes (bs.flatMap Lexeme.text) = bs := by
  have hshaped := forall_isShaped_lexemes cs
  have hmaximal := isChain_lexemes cs
  rw [h] at hshaped hmaximal
  rw [List.map_append] at hmaximal
  obtain ⟨has, hbs⟩ := List.forall_mem_append.mp hshaped
  exact ⟨lexemes_flatMap has hmaximal.left_of_append, lexemes_flatMap hbs hmaximal.right_of_append⟩

/-- **What stands on either side of a lexeme is cut as if it stood alone.** -/
theorem exists_cut_of_locatedLexemes (h : locatedLexemes text place = before ++ l :: after) :
    ∃ front rest, text = front ++ (l.node.text ++ rest) ∧
      l.span = ⟨place + utf8Width front, place + utf8Width front + utf8Width l.node.text⟩ ∧
      locatedLexemes front place = before ∧ locatedLexemes rest l.span.stop = after := by
  have hnodes : lexemes text = before.map Located.node ++ l.node :: after.map Located.node := by
    rw [← layOut_map_node Lexeme.width place (lexemes text), ← locatedLexemes, h, List.map_append,
      List.map_cons]
  obtain ⟨hfront, hbehind⟩ := lexemes_of_eq_append hnodes
  rw [← List.singleton_append] at hbehind
  have hrest := (lexemes_of_eq_append hbehind).2
  obtain ⟨hbefore, htail⟩ := layOut_of_eq_append h
  rw [← hfront, total_lexemes, List.map_cons, layOut] at htail
  obtain ⟨hl, hafter⟩ := List.cons.inj htail
  have hspan := congrArg Located.span hl.symm
  refine ⟨(before.map Located.node).flatMap Lexeme.text,
    (after.map Located.node).flatMap Lexeme.text, ?_, hspan, ?_, ?_⟩
  · rw [← List.flatMap_cons, ← List.flatMap_append, ← hnodes, lexemes_flatMap_text]
  · rw [locatedLexemes, hfront]
    exact hbefore
  · rw [locatedLexemes, hrest, hspan]
    exact hafter

/-- **Digits that no word character stands in front of are one lexeme**, whatever zeros they start
with. -/
theorem locatedLexemes_number {front rest : List Char} (hfront : StopsAt isWordChar front.reverse)
    (hrest : StopsAt Char.isDigit rest) (place width n : Nat) :
    locatedLexemes (front ++ ((Lexeme.number width n).text ++ rest)) place =
      locatedLexemes front place ++ ⟨Lexeme.number width n, place + utf8Width front,
        place + utf8Width front + (Lexeme.number width n).width⟩ ::
        locatedLexemes rest (place + utf8Width front + (Lexeme.number width n).width) := by
  have hds := isDigits_zeroPadded width n
  have hnumber : lexemes ((Lexeme.number width n).text ++ rest) =
      Lexeme.number width n :: lexemes rest := by
    refine (lexemes_integer hds hrest).trans ?_
    rw [readInteger, digitsValue_zeroPadded]
    rfl
  have happart : MeetApart front ((Lexeme.number width n).text ++ rest) :=
    meetApart_digits hfront hds rest
  rw [locatedLexemes_append happart]
  congr 1
  rw [locatedLexemes, hnumber]
  rfl

/-! ### Characters that no token holds -/

theorem filter_stray_eq_nil {cs : List Char} (h : ∀ c ∈ cs, isTokenChar c = true) (place : Nat) :
    (layOut Char.utf8Size place cs).filter (fun c => !isTokenChar c.node) = [] := by
  rw [List.filter_eq_nil_iff]
  intro c hc
  have hmem : c.node ∈ cs := by
    rw [← layOut_map_node Char.utf8Size place cs]
    exact List.mem_map_of_mem hc
  simp [h c.node hmem]

/-- A lexeme is a character that no token holds, or holds none. -/
theorem Lexeme.IsShaped.stray?_eq {l : Lexeme} (hl : l.IsShaped) (place : Nat) :
    (Located.stray? ⟨l, place, place + l.width⟩).toList =
      (layOut Char.utf8Size place l.text).filter fun c => !isTokenChar c.node := by
  cases hl with
  | space hne hrun =>
    exact (filter_stray_eq_nil (fun c hc => by simp [isTokenChar, hrun c hc]) place).symm
  | plus | minus => exact (filter_stray_eq_nil (by simp [isTokenChar]) place).symm
  | integer hds | overflow hds =>
    refine (filter_stray_eq_nil (fun c hc => ?_) place).symm
    simp [isTokenChar, isWordChar_of_isDigit (hds.digits c hc)]
  | identifier hname =>
    exact (filter_stray_eq_nil (fun c hc => by simp [isTokenChar, hname.2 c hc]) place).symm
  | stray hc => simp [Located.stray?, layOut, hc, Lexeme.width]

/-- **The characters that no token holds are the faults of their kind**, one for each. -/
theorem strays_locatedLexemes (text : List Char) (place : Nat) :
    (locatedLexemes text place).filterMap Located.stray? =
      (layOut Char.utf8Size place text).filter fun c => !isTokenChar c.node := by
  induction text using lexemes.induct generalizing place with
  | case1 =>
    rw [locatedLexemes, lexemes]
    rfl
  | case2 c cs ih =>
    have hshaped := (Lexeme.first_spec c cs).1
    have hchars := layOut_append Char.utf8Size place (Lexeme.first c cs).1.text
      (Lexeme.first c cs).2
    rw [Lexeme.first_text] at hchars
    have ih := ih (place + (Lexeme.first c cs).1.width)
    rw [locatedLexemes] at ih
    rw [hchars, List.filter_append, ← hshaped.stray?_eq, locatedLexemes, lexemes, layOut,
      List.filterMap_eq_flatMap_toList, List.flatMap_cons, ← List.filterMap_eq_flatMap_toList, ih]
    rfl

/-- **Heads are cut into lexemes by maximal munch, faults included.** The lexemes of a text, at
their places, are the only way to lay it out without a gap in spaces, signs, numbers, names and
characters that no token holds where no space stands behind a space, no number behind a number and
neither a name nor a number behind a name. The characters that no token holds are just the faults of
their kind, one for each, at its place. What stands on either side of a lexeme, be it a fault or not,
is cut as if it stood alone. Digits with no word character in front of them and no digit behind them
are one lexeme: their decimal value if 64 bits hold it, whatever zeros they start with, and else one
fault. -/
theorem lexemes_tile (text : List Char) (place : Nat) :
    (∀ ls, IsLexing text place ls ↔ ls = locatedLexemes text place) ∧
      (locatedLexemes text place).filterMap Located.stray? =
        ((layOut Char.utf8Size place text).filter fun c => !isTokenChar c.node) ∧
      (∀ before l after, locatedLexemes text place = before ++ l :: after →
        ∃ front rest, text = front ++ (l.node.text ++ rest) ∧
          l.span = ⟨place + utf8Width front, place + utf8Width front + utf8Width l.node.text⟩ ∧
          locatedLexemes front place = before ∧ locatedLexemes rest l.span.stop = after) ∧
      ∀ front width n rest, text = front ++ ((Lexeme.number width n).text ++ rest) →
        StopsAt isWordChar front.reverse → StopsAt Char.isDigit rest →
        locatedLexemes text place =
          locatedLexemes front place ++ ⟨Lexeme.number width n, place + utf8Width front,
            place + utf8Width front + (Lexeme.number width n).width⟩ ::
            locatedLexemes rest (place + utf8Width front + (Lexeme.number width n).width) := by
  refine ⟨fun _ => isLexing_iff, strays_locatedLexemes text place,
    fun _ _ _ => exists_cut_of_locatedLexemes, ?_⟩
  rintro front width n rest rfl hfront hrest
  exact locatedLexemes_number hfront hrest place width n

/-- The least number that 64 bits do not hold, with a zero in front, behind a character that no token
holds. -/
theorem lexemes_tile_overflow :
    "x€018446744073709551616 +".toList =
        "x€".toList ++ ((Lexeme.number 21 (twoTo 64)).text ++ " +".toList) ∧
      locatedLexemes "x€018446744073709551616 +".toList 0 =
        locatedLexemes "x€".toList 0 ++ ⟨Lexeme.number 21 (twoTo 64), 4, 25⟩ ::
          locatedLexemes " +".toList 25 := by
  have hcut : "x€018446744073709551616 +".toList =
      "x€".toList ++ ((Lexeme.number 21 (twoTo 64)).text ++ " +".toList) := by decide
  have hfront : StopsAt isWordChar "x€".toList.reverse := stopsAt_cons.mpr (by decide)
  have hrest : StopsAt Char.isDigit " +".toList := stopsAt_cons.mpr (by decide)
  exact ⟨hcut, (lexemes_tile _ 0).2.2.2 _ 21 (twoTo 64) _ hcut hfront hrest⟩

end PathTemplate
