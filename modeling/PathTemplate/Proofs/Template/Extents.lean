/-
# The extents of what a placeholder says

The place of a placeholder shows the whole of it, and the place of each part of
it shows what the part was read from: a name or digits, a shift through the word
for its unit, a pattern with its quotes. A reference that is not written has the
place of the whole. Places are counted in bytes and go through two cuts and three
trims; blanks that take several bytes are counted as what they are.

The shifts stand one behind the other, behind the reference if one is written and
in front of the first bar; the pattern stands behind it.

Key definitions: `Placeholder.IsFaithful`.
Key theorems: `Placeholder.Derives.isFaithful`, `Segment.isFaithful_ofPiece`,
`Template.spans_faithful`.
-/
import PathTemplate.Proofs.Head.Extents
import PathTemplate.Proofs.Template.Segmentation

namespace PathTemplate

open Decimal Text

namespace Placeholder

/-- Whether the places of what a placeholder says show it in the text of the placeholder. -/
structure IsFaithful (p : Placeholder) (cs : List Char) (place : Nat) : Prop where
  reference : (∃ before text, p.reference.span.Shows cs place before text ∧
      p.reference.node.IsWrittenAs text) ∨
    p.reference = ⟨.implicit, place, place + utf8Width cs⟩
  shifts : ∀ l ∈ p.shifts, ∃ before text, l.span.Shows cs place before text ∧
    IsWrittenShift l before text ∧ '|' ∉ before ++ text
  ordered : p.shifts.Pairwise fun l m => l.span.stop ≤ m.span.start
  behind : p.reference.node ≠ .implicit → ∀ l ∈ p.shifts, p.reference.span.stop ≤ l.span.start
  pattern : ∀ l ∈ p.pattern, ∃ before text, l.span.Shows cs place before text ∧ '|' ∈ before ∧
    (text = l.node.toList ∨ text = '"' :: (l.node.toList ++ ['"']))

variable {place : Nat} {span : Span} {p : Placeholder}

/-- A pattern is its text, or stands between quotes. -/
theorem IsPattern.text_eq {cs : List Char} {pattern : String} (h : IsPattern cs pattern) :
    cs = pattern.toList ∨ cs = '"' :: (pattern.toList ++ ['"']) := by
  cases h with
  | bare => exact .inl String.toList_ofList.symm
  | quoted cs => exact .inr (by rw [String.toList_ofList])

/-- The place of a trimmed text shows it between the blanks around it. -/
theorem trimmedSpan_shows (raw : List Char) (place : Nat) :
    (trimmedSpan raw place).Shows raw place (leadingBlanks raw) (trim raw) := by
  obtain ⟨trailing, hraw⟩ := leading_trim_trailing raw
  exact ⟨⟨trailing, hraw.symm⟩, rfl⟩

theorem bar_not_mem_leadingBlanks (cs : List Char) : '|' ∉ leadingBlanks cs :=
  fun h => absurd (List.mem_takeWhile_imp h) (by decide)

/-- A head in a text without a bar in front of its end makes a placeholder with a pattern. -/
theorem isFaithful_of_head {as cs more : List Char} {head : Head} {pattern : Option (Located String)}
    (hbar : '|' ∉ as ++ cs) (hhead : head.IsFaithful cs (place + utf8Width as))
    (hpattern : ∀ l ∈ pattern, ∃ before text, l.span.Shows (as ++ (cs ++ more)) place before text ∧
      '|' ∈ before ∧ (text = l.node.toList ∨ text = '"' :: (l.node.toList ++ ['"']))) :
    IsFaithful ⟨head.reference.getD ⟨.implicit, place, place + utf8Width (as ++ (cs ++ more))⟩,
      head.shifts, pattern⟩ (as ++ (cs ++ more)) place := by
  obtain ⟨hreference, pos, hshifts, hpos⟩ := hhead
  refine ⟨?_, fun l hl => ?_, hshifts.ordered, ?_, hpattern⟩
  · cases hr : head.reference with
    | none => exact .inr rfl
    | some r =>
      obtain ⟨before, text, hshows, hwritten⟩ := hreference r hr
      exact .inl ⟨as ++ before, text, hshows.enclosed more, hwritten⟩
  · obtain ⟨before, text, hshows, hwritten⟩ := hshifts.written l hl
    refine ⟨as ++ before, text, hshows.enclosed more, hwritten.append_left as, fun hmem => hbar ?_⟩
    obtain ⟨after, rfl⟩ := hshows.cut
    rw [← List.append_assoc before, ← List.append_assoc as, ← List.append_assoc as]
    exact List.mem_append_left _ hmem
  · cases hr : head.reference with
    | none => exact fun hne => absurd rfl hne
    | some r => exact fun _ l hl => Nat.le_trans (hpos r hr) (hshifts.behind l hl)

/-- The pattern behind a bar stands there as it is, or between quotes. -/
theorem IsPatternPart.shows {as raw more : List Char} {pattern : Option (Located String)}
    (h : IsPatternPart (.some raw) (place + utf8Width as + 1) pattern) :
    ∀ l ∈ pattern, ∃ before text,
      l.span.Shows (as ++ ('|' :: raw ++ more)) place before text ∧ '|' ∈ before ∧
        (text = l.node.toList ∨ text = '"' :: (l.node.toList ++ ['"'])) := by
  obtain _ | ⟨_, hpattern⟩ := h
  rintro _ ⟨⟩
  have hplace : place + utf8Width as + 1 = place + utf8Width (as ++ ['|']) := by
    rw [utf8Width_append, ← Nat.add_assoc]
    rfl
  have hshows := trimmedSpan_shows raw (place + utf8Width (as ++ ['|']))
  refine ⟨as ++ ['|'] ++ leadingBlanks raw, trim raw, ?_, by simp, hpattern.text_eq⟩
  have henclosed := hshows.enclosed more
  rw [List.append_assoc as] at henclosed
  rw [hplace]
  exact henclosed

/-- **The places of what a placeholder says show it.** -/
theorem Derives.isFaithful {interior : List Char}
    (h : Derives interior (place + 2)
      ⟨place, place + utf8Width ('$' :: '{' :: (interior ++ ['}']))⟩ p) :
    p.IsFaithful ('$' :: '{' :: (interior ++ ['}'])) place := by
  obtain @⟨front, back, ts, head, pattern, hcut, hlex, hhead, hpat⟩ := h
  -- the text is `${` and blanks, the head, blanks, the bar with the pattern, blanks, and the brace
  obtain ⟨trailing, hinterior⟩ := leading_trim_trailing interior
  obtain ⟨hbar, rest, hcontent, hrest⟩ := hcut.exists_append
  obtain ⟨gap, hgap⟩ := exists_trimEnd_append front
  generalize hlead : '$' :: '{' :: leadingBlanks interior = lead at *
  have hcs : '$' :: '{' :: (interior ++ ['}']) =
      lead ++ (trimEnd front ++ (gap ++ (rest ++ (trailing ++ ['}'])))) := by
    rw [← hlead, ← List.append_assoc (trimEnd front), hgap, ← List.append_assoc front, ← hcontent]
    conv_lhs => rw [← hinterior]
    simp only [List.cons_append, List.append_assoc]
  have hstart : (trimmedSpan interior (place + 2)).start = place + utf8Width lead := by
    rw [← hlead, utf8Width_cons, utf8Width_cons, ← Nat.add_assoc, ← Nat.add_assoc]
    rfl
  rw [hstart] at hlex hpat
  rw [hcs]
  refine isFaithful_of_head ?_ (hhead.isFaithful hlex) ?_
  · rw [← hlead]
    have hhead : '|' ∉ trimEnd front := fun hmem => hbar (hgap ▸ List.mem_append_left gap hmem)
    simp [bar_not_mem_leadingBlanks, hhead]
  · cases back with
    | none =>
      cases hpat
      exact nofun
    | some raw =>
      rw [hrest raw rfl, ← List.append_assoc (trimEnd front), hgap, ← List.append_assoc lead]
      rw [Nat.add_assoc place, ← utf8Width_append] at hpat
      exact hpat.shows

/-- The place of a name behind a dollar sign shows the name. -/
theorem isFaithful_ofName (name : List Char) (place : Nat) :
    (ofName name ⟨place + 1, place + utf8Width ('$' :: name)⟩).IsFaithful ('$' :: name) place := by
  refine ⟨.inl ⟨['$'], name, ⟨⟨[], by simp⟩, ?_⟩, String.toList_ofList.symm⟩, nofun, .nil, nofun,
    nofun⟩
  rw [utf8Width_cons, ← Nat.add_assoc]
  rfl

end Placeholder

namespace Segment

/-- **A placeholder that a piece is read as** has the place of the piece and shows what it says. -/
theorem isFaithful_ofPiece {piece : Piece} {place : Nat} {p : Located Placeholder}
    (h : ofPiece ⟨piece, place, place + piece.width⟩ = .placeholder p) :
    p.span = ⟨place, place + utf8Width piece.text⟩ ∧ p.node.IsFaithful piece.text place ∧
      ((∃ name, piece = .bare name) ∨ ∃ interior, piece = .braced interior) := by
  cases piece with
  | literal | dollar | unterminated => cases h
  | bare name =>
    cases h
    exact ⟨rfl, Placeholder.isFaithful_ofName name place, .inl ⟨name, rfl⟩⟩
  | braced interior =>
    simp only [ofPiece] at h
    split at h
    · next q hread =>
      cases h
      exact ⟨rfl, (Placeholder.derives_of_read hread).isFaithful, .inr ⟨interior, rfl⟩⟩
    · cases h

end Segment

/-- **The places in a template are faithful.** -/
theorem Template.spans_faithful {source : String} {p : Located Placeholder}
    (h : .placeholder p ∈ (Template.parse source).segments) :
    ∃ front part back, source.toList = front ++ (part ++ back) ∧
      p.span = ⟨utf8Width front, utf8Width front + utf8Width part⟩ ∧
      (IsBareName part back ∨ ∃ interior, '}' ∉ interior ∧
        part = '$' :: '{' :: (interior ++ ['}'])) ∧
      p.node.IsFaithful part (utf8Width front) := by
  rw [segments_parse] at h
  obtain ⟨before, after, hcut⟩ := List.append_of_mem h
  obtain ⟨front, piece, back, hsource, hshape, hpiece, halone⟩ := exists_piece_of_segment 0 rfl hcut
  rw [Nat.zero_add] at hpiece
  obtain ⟨hspan, hfaithful, hkind⟩ := Segment.isFaithful_ofPiece hpiece
  refine ⟨front, piece.text, back, hsource, hspan, ?_, hfaithful⟩
  rcases hkind with ⟨name, rfl⟩ | ⟨interior, rfl⟩
  · rcases halone.reaches with hname | hbrace
    · exact .inl hname
    · -- a brace would be a word character
      have hopen : '{' ∈ name := by
        obtain ⟨interior, -, hpart | ⟨hpart, -⟩⟩ := hbrace
        · exact (List.cons.inj hpart).2 ▸ List.mem_cons_self
        · exact (List.cons.inj hpart).2 ▸ List.mem_cons_self
      exact absurd (hshape.2 _ hopen) (by decide)
  · exact .inr ⟨interior, forall_ne_iff.mp hshape, rfl⟩

/-- A placeholder with blanks of three bytes at every edge, behind a letter of two. -/
def widePlaceholder : Located Placeholder :=
  ⟨⟨⟨.named "x", 7, 8⟩, [⟨⟨.plus, 1, .day⟩, 9, 15⟩, ⟨⟨.plus, 2, .hour⟩, 16, 23⟩],
    some ⟨"a b", 30, 35⟩⟩, 2, 36⟩

/-- Blanks of several bytes move no place away from what it shows. -/
theorem Template.spans_faithful_wide :
    .placeholder widePlaceholder ∈
        (parse "é$\x7b\u3000x +1 day 2 hours\u3000|\u3000\"a b\"\x7d").segments ∧
      ∃ front part back, "é$\x7b\u3000x +1 day 2 hours\u3000|\u3000\"a b\"\x7d".toList =
          front ++ (part ++ back) ∧
        widePlaceholder.span = ⟨utf8Width front, utf8Width front + utf8Width part⟩ ∧
        widePlaceholder.node.IsFaithful part (utf8Width front) := by
  have hmem : .placeholder widePlaceholder ∈
      (parse "é$\x7b\u3000x +1 day 2 hours\u3000|\u3000\"a b\"\x7d").segments := by decide +kernel
  obtain ⟨front, part, back, hcut, hspan, -, hfaithful⟩ := spans_faithful hmem
  exact ⟨hmem, front, part, back, hcut, hspan, hfaithful⟩

end PathTemplate
