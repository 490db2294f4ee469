/-
# Which fault is reported

An interior is looked at in three stages, and each stage looks only when the
one before it found nothing: first whether the head is cut into tokens, then
whether they are a head, then whether what stands behind the bar is a pattern.
Each stage stops at the first thing that is wrong, so an interior with several
faults has one error (`Placeholder.read_fails_iff_isFaultOf`).

Key definitions: `Placeholder.IsPatternFault`, `Placeholder.IsFaultOf`.
Key theorems: `Placeholder.readPattern_eq_error_iff`, `Placeholder.read_eq_error_iff`,
`Placeholder.read_fails_iff_isFaultOf`.
-/
import PathTemplate.Proofs.Head.Faults
import PathTemplate.Proofs.Placeholder.Layout

namespace PathTemplate

open Text

namespace Placeholder

/-! ### Patterns -/

/-- What is wrong with what stands behind a bar. The bar is byte `bar`, and the text that it
stands in stops at byte `stop`. -/
inductive IsPatternFault (raw : List Char) (bar stop : Nat) : SyntaxError → Prop
  | missing (h : ∀ c ∈ raw, isBlank c = true) :
    IsPatternFault raw bar stop ⟨.missingPattern, bar, stop⟩
  | unterminated {rest} (h : trim raw = '"' :: rest) (hlast : rest.getLast? ≠ some '"') :
    IsPatternFault raw bar stop ⟨.unterminatedQuote, trimmedSpan raw (bar + 1)⟩
  | stray {good c more} (h : trim raw = good ++ c :: more) (hquote : (trim raw).head? ≠ some '"')
    (hgood : ∀ d ∈ good, isBlank d = false ∧ d ≠ '"' ∧ d ≠ '|')
    (hc : isBlank c = true ∨ c = '"' ∨ c = '|') :
    IsPatternFault raw bar stop ⟨if isBlank c then .blankInPattern else .strayInPattern c,
      (trimmedSpan raw (bar + 1)).start + utf8Width good,
      (trimmedSpan raw (bar + 1)).start + utf8Width good + c.utf8Size⟩

theorem needsQuotes_iff {c : Char} :
    needsQuotes c = true ↔ isBlank c = true ∨ c = '"' ∨ c = '|' := by
  simp [needsQuotes, or_assoc]

/-- **A pattern is refused for the first thing that is wrong with it.** -/
theorem readPattern_eq_error_iff {raw : List Char} {bar : Nat} {e : SyntaxError} :
    readPattern raw (bar + 1) = .error e ↔
      IsPatternFault raw bar (bar + 1 + utf8Width raw) e := by
  rw [readPattern]
  simp only
  split
  · next hnil =>
    constructor
    · intro h
      cases h
      exact .missing (trim_eq_nil_iff.mp hnil)
    · intro h
      cases h with
      | missing => rfl
      | unterminated h => simp [hnil] at h
      | stray h => simp [hnil] at h
  · next rest hcons =>
    constructor
    · intro h
      split_ifs at h with hlast
      cases h
      exact .unterminated hcons hlast
    · intro h
      cases h with
      | missing h => simp [trim_eq_nil_iff.mpr h] at hcons
      | unterminated h hlast =>
        obtain ⟨-, rfl⟩ := List.cons.inj (hcons.symm.trans h)
        rw [if_neg hlast]
        rfl
      | stray h hquote => simp [hcons] at hquote
  · next hne hquote =>
    have hcut := List.takeWhile_append_dropWhile (p := (!needsQuotes ·)) (l := trim raw)
    constructor
    · intro h
      split at h
      · cases h
      · next c more hdrop =>
        cases h
        rw [hdrop] at hcut
        have hc : (!needsQuotes c) = false := stopsAt_dropWhile _ (trim raw) c (by rw [hdrop]; rfl)
        refine .stray hcut.symm (fun hhead => ?_) (fun d hd => ?_) ?_
        · obtain ⟨rest, hrest⟩ := List.head?_eq_some_iff.mp hhead
          exact hquote rest hrest
        · have hallowed : (!needsQuotes d) = true := List.mem_takeWhile_imp (p := (!needsQuotes ·)) hd
          exact not_needsQuotes.mp hallowed
        · exact needsQuotes_iff.mp (by simpa using hc)
    · intro h
      cases h with
      | missing h => exact absurd (trim_eq_nil_iff.mpr h) hne
      | unterminated h => exact absurd h (hquote _)
      | @stray good c more h _ hgood hc =>
        have hall : ∀ d ∈ good, (!needsQuotes d) = true :=
          fun d hd => not_needsQuotes.mpr (hgood d hd)
        have hstop : StopsAt (!needsQuotes ·) (c :: more) :=
          stopsAt_cons.mpr (by simp [needsQuotes_iff.mpr hc])
        rw [h, takeWhile_stop hall hstop, dropWhile_stop hall hstop]
        rfl

/-! ### Interiors -/

/-- **The fault of an interior**, the first in the order in which its parts are looked at. -/
inductive IsFaultOf (interior : List Char) (offset : Nat) : SyntaxError → Prop
  /-- The head is not cut into tokens. -/
  | lexical {front back e} (hcut : IsCut (trim interior) front back)
    (hfault : Head.IsFirstFault (trimEnd front) (trimmedSpan interior offset).start e) :
    IsFaultOf interior offset e
  /-- The head is cut into tokens that are no head. -/
  | head {front back ts e} (hcut : IsCut (trim interior) front back)
    (hlex : Head.LexesTo (trimEnd front) (trimmedSpan interior offset).start ts)
    (hrejected : ¬ Head.IsAccepted ts)
    (hfault : Head.ofTokens ts ((trimmedSpan interior offset).start + utf8Width (trimEnd front)) =
      .error e) :
    IsFaultOf interior offset e
  /-- The head is in order, and what stands behind the bar is no pattern. -/
  | pattern {front raw ts e} (hcut : IsCut (trim interior) front (some raw))
    (hlex : Head.LexesTo (trimEnd front) (trimmedSpan interior offset).start ts)
    (haccepted : Head.IsAccepted ts)
    (hfault : IsPatternFault raw ((trimmedSpan interior offset).start + utf8Width front)
      (trimmedSpan interior offset).stop e) :
    IsFaultOf interior offset e

variable {interior front raw : List Char} {back : Option (List Char)} {offset : Nat} {span : Span}
  {e : SyntaxError}

theorem readBehindBar_eq_error_iff {rest : List Char} {place : Nat} :
    readBehindBar rest place = .error e ↔
      ∃ raw, rest.tail? = some raw ∧ readPattern raw (place + 1) = .error e := by
  cases rest with
  | nil => simp [readBehindBar, pure, Except.pure]
  | cons c raw =>
    cases h : readPattern raw (place + 1) with
    | ok l => simp [readBehindBar, h, Functor.map, Except.map]
    | error d => simp [readBehindBar, h, Functor.map, Except.map]

/-- An interior is refused for its head, or else for what stands behind the bar. -/
theorem read_eq_error_iff (hcut : IsCut (trim interior) front back) :
    read interior offset span = .error e ↔
      Head.read (trimEnd front) (trimmedSpan interior offset).start = .error e ∨
        ∃ hd, Head.read (trimEnd front) (trimmedSpan interior offset).start = .ok hd ∧
          ∃ raw, back = some raw ∧ readPattern raw
            ((trimmedSpan interior offset).start + utf8Width front + 1) = .error e := by
  obtain ⟨rfl, rfl⟩ := isCut_iff.mp hcut
  rw [read_eq_bind, bind_eq_error]
  refine or_congr Iff.rfl (exists_congr fun hd => and_congr_right fun _ => ?_)
  rw [bind_eq_error, readBehindBar_eq_error_iff]
  constructor
  · rintro (h | ⟨pattern, -, h⟩)
    · exact h
    · cases h
  · intro h
    exact .inl h

/-- The pattern starts behind the bar and stops where the trimmed interior does. -/
theorem IsCut.stop_eq (hcut : IsCut (trim interior) front (some raw)) :
    (trimmedSpan interior offset).start + utf8Width front + 1 + utf8Width raw =
      (trimmedSpan interior offset).stop := by
  obtain ⟨-, rest, htrim, hrest⟩ := hcut.exists_append
  have hbar : '|'.utf8Size = 1 := rfl
  simp only [trimmedSpan, htrim, hrest raw rfl, utf8Width_append, utf8Width_cons, hbar,
    Nat.add_assoc]

/-- The head of an interior stands in it, behind the blanks that are trimmed away. -/
theorem IsCut.exists_behind (hcut : IsCut (trim interior) front back) :
    ∃ behind, leadingBlanks interior ++ (trimEnd front ++ behind) = interior := by
  obtain ⟨trailing, hinterior⟩ := leading_trim_trailing interior
  obtain ⟨gap, hgap⟩ := exists_trimEnd_append front
  obtain ⟨-, rest, htrim, -⟩ := hcut.exists_append
  refine ⟨gap ++ (rest ++ trailing), ?_⟩
  rw [← List.append_assoc (trimEnd front), hgap, ← List.append_assoc front, ← htrim, hinterior]

theorem read_eq_error_iff_isFaultOf :
    read interior offset span = .error e ↔ IsFaultOf interior offset e := by
  obtain ⟨front, back, hcut⟩ := exists_isCut (trim interior)
  constructor
  · intro h
    rcases (read_eq_error_iff hcut).mp h with hhead | ⟨hd, hhead, raw, rfl, hpattern⟩
    · rcases Head.read_eq_error_iff.mp hhead with hfault | ⟨ts, hlex, hfault⟩
      · exact .lexical hcut hfault
      · refine .head hcut hlex ?_ hfault
        rintro ⟨hd, haccepted⟩
        rw [haccepted.ofTokens_eq] at hfault
        cases hfault
    · obtain ⟨ts, hlex, haccepted⟩ := Head.read_eq_ok_iff.mp hhead
      refine .pattern hcut hlex ⟨hd, haccepted⟩ ?_
      rw [← hcut.stop_eq]
      exact readPattern_eq_error_iff.mp hpattern
  · intro h
    cases h with
    | lexical hcut hfault =>
      exact (read_eq_error_iff hcut).mpr (.inl (Head.read_eq_error_iff.mpr (.inl hfault)))
    | head hcut hlex _ hfault =>
      exact (read_eq_error_iff hcut).mpr (.inl (Head.read_eq_error_iff.mpr (.inr ⟨_, hlex, hfault⟩)))
    | pattern hcut hlex haccepted hfault =>
      obtain ⟨hd, hhead⟩ := haccepted
      rw [← hcut.stop_eq] at hfault
      exact (read_eq_error_iff hcut).mpr
        (.inr ⟨hd, Head.read_eq_ok_iff.mpr ⟨_, hlex, hhead⟩, _, rfl,
          readPattern_eq_error_iff.mpr hfault⟩)

/-- A lexical fault shows in the interior what its message quotes. -/
theorem IsFaultOf.shows (h : IsFaultOf interior offset e) {fault : LexFault}
    (hfault : e.fault = .lexical fault) :
    ∃ before quoted, e.span.Shows interior offset before quoted ∧
      (e.fault.text = "Unexpected character '" ++ String.ofList quoted ++ "'" ∨
        e.fault.text = "Number '" ++ String.ofList quoted ++ "' is too large") := by
  cases h with
  | lexical hcut hfirst =>
    obtain ⟨before, quoted, hshows, htext⟩ := hfirst.shows
    obtain ⟨behind, hinterior⟩ := hcut.exists_behind
    have hplaced := hshows.enclosed behind
    rw [hinterior] at hplaced
    exact ⟨_, quoted, hplaced, htext⟩
  | head _ _ _ hrefused => exact absurd hfault (Head.fault_ne_lexical hrefused fault)
  | pattern _ _ _ hpattern =>
    cases hpattern with
    | missing => cases hfault
    | unterminated => cases hfault
    | stray =>
      split at hfault
      · cases hfault
      · cases hfault

/-- **What stands behind a bar is not looked at** when the head is at fault. -/
theorem read_eq_error_of_head (hbar : '|' ∉ interior) (h : read interior offset span = .error e)
    (raw : List Char) (span' : Span) : read (interior ++ '|' :: raw) offset span' = .error e := by
  have hbar' : '|' ∉ trim interior := fun hmem => hbar (mem_of_mem_trim hmem)
  have hstart : '|' ∉ trimStart interior := fun hmem =>
    hbar ((List.dropWhile_suffix isBlank).subset hmem)
  have hstop : StopsAt isBlank ('|' :: raw) := stopsAt_cons.mpr (by decide)
  have hlead : leadingBlanks (interior ++ '|' :: raw) = leadingBlanks interior :=
    hstop.takeWhile_append interior
  have hcut : IsCut (trim (interior ++ '|' :: raw)) (trimStart interior) (some (trimEnd raw)) := by
    rw [trim_append_cons (by decide)]
    exact .atBar hstart
  rcases (read_eq_error_iff (.whole hbar')).mp h with h | ⟨hd, -, raw, hraw, -⟩
  · refine (read_eq_error_iff hcut).mpr (.inl ?_)
    rw [trim, trimEnd_trimEnd] at h
    rw [trimmedSpan, hlead]
    exact h
  · cases hraw

/-- **An interior is refused for its first fault**, and for nothing else. If that is a lexical
fault, its place shows what its message quotes. If the head is at fault, whatever stands behind a
bar is not looked at. -/
theorem read_fails_iff_isFaultOf (interior : List Char) (offset : Nat) (span : Span) :
    (∀ e, read interior offset span = .error e ↔ IsFaultOf interior offset e) ∧
      (∀ e fault, read interior offset span = .error e → e.fault = .lexical fault →
        ∃ before quoted, e.span.Shows interior offset before quoted ∧
          (e.fault.text = "Unexpected character '" ++ String.ofList quoted ++ "'" ∨
            e.fault.text = "Number '" ++ String.ofList quoted ++ "' is too large")) ∧
      ∀ e, '|' ∉ interior → read interior offset span = .error e →
        ∀ raw span', read (interior ++ '|' :: raw) offset span' = .error e :=
  ⟨fun _ => read_eq_error_iff_isFaultOf,
    fun _ _ h hfault => (read_eq_error_iff_isFaultOf.mp h).shows hfault,
    fun _ hbar h => read_eq_error_of_head hbar h⟩

/-- Digits with too large a value, then a character that no token holds, then a blank in a pattern:
the digits are at fault. -/
theorem read_fails_iff_isFaultOf_digits :
    ∃ e, read "\u3000x 18446744073709551616 #|a b".toList 2 ⟨0, 34⟩ = .error e ∧
      IsFaultOf "\u3000x 18446744073709551616 #|a b".toList 2 e ∧ e.span = ⟨7, 27⟩ ∧
      e.fault.text = "Number '18446744073709551616' is too large" ∧
      ∃ before quoted, e.span.Shows "\u3000x 18446744073709551616 #|a b".toList 2 before quoted ∧
        (e.fault.text = "Unexpected character '" ++ String.ofList quoted ++ "'" ∨
          e.fault.text = "Number '" ++ String.ofList quoted ++ "' is too large") := by
  have hread : read "\u3000x 18446744073709551616 #".toList 2 ⟨0, 30⟩ =
      .error ⟨.lexical (.integerOverflow "18446744073709551616"), 7, 27⟩ := by decide +kernel
  have hread' : read "\u3000x 18446744073709551616 #|a b".toList 2 ⟨0, 34⟩ =
      .error ⟨.lexical (.integerOverflow "18446744073709551616"), 7, 27⟩ :=
    (read_fails_iff_isFaultOf "\u3000x 18446744073709551616 #".toList 2 ⟨0, 30⟩).2.2 _ (by decide)
      hread "a b".toList ⟨0, 34⟩
  obtain ⟨hfault, hshows, -⟩ :=
    read_fails_iff_isFaultOf "\u3000x 18446744073709551616 #|a b".toList 2 ⟨0, 34⟩
  exact ⟨_, hread', (hfault _).mp hread', rfl, by decide, hshows _ _ hread' rfl⟩

end Placeholder

end PathTemplate
