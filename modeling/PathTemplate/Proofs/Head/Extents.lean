/-
# The extents of what a head says

The place of a reference in a head shows its name or its digits. The place of a
shift shows the whole of it: its sign if one is written there, else its first
digit, through the word for its unit; and that text alone is cut into just the
tokens that the shift was read from.

The shifts are followed from left to right. What stands in front of a term that
has no sign of its own ends with a word and spaces, that of the term before it,
so no sign stands there for it. The terms before it have been passed when it
starts, so no two of them overlap.

Key definitions: `IsTermText`, `IsShiftText`, `IsWrittenShift`, `ShiftsStand`, `Head.IsFaithful`.
Key theorems: `Head.IsTerm.isTermText`, `Head.AreLaterTerms.stand`, `Head.AreShifts.stand`,
`Head.IsHead.isFaithful`.
-/
import PathTemplate.Proofs.Head.Slices
import PathTemplate.Proofs.Text.Edges

namespace PathTemplate

open Decimal

/-! ### Texts -/

/-- The texts that a reference is written as. -/
def Reference.IsWrittenAs (text : List Char) : Reference → Prop
  | named name => text = name.toList
  | indexed n => IsDigits text ∧ digitsValue text = n
  | implicit => False

/-- `term = digits [spaces] unit` -/
inductive IsTermText : Nat → TimeUnit → List Char → Prop
  | mk {ds gap w u} (hd : IsDigits ds) (hgap : ∀ c ∈ gap, isHeadSpace c = true) (hne : w ≠ [])
    (hw : ∀ c ∈ w, isWordChar c = true) (hu : TimeUnit.IsNamed u (String.ofList w)) :
    IsTermText (digitsValue ds) u (ds ++ (gap ++ w))

/-- Whether a text ends with a word, spaces aside. -/
def EndsInWord (cs : List Char) : Prop :=
  ∃ ahead c gap, cs = ahead ++ c :: gap ∧ isWordChar c = true ∧ ∀ d ∈ gap, isHeadSpace d = true

/-- `shift = [sign [spaces]] term`: a sign is left out only behind a word, not behind another sign. -/
inductive IsShiftText (before : List Char) : Shift → List Char → Prop
  | signed {s n u gap cs} (hgap : ∀ c ∈ gap, isHeadSpace c = true) (ht : IsTermText n u cs) :
    IsShiftText before ⟨s, n, u⟩ (s.char :: (gap ++ cs))
  | unsigned {s n u cs} (hword : EndsInWord before) (ht : IsTermText n u cs) :
    IsShiftText before ⟨s, n, u⟩ cs

/-- Whether a text, behind `before`, is the whole of a shift that was read there: it is cut into the
tokens of the shift. -/
structure IsWrittenShift (l : Located Shift) (before text : List Char) : Prop where
  spelled : IsShiftText before l.node text
  lexes : ∃ gs ts span, Head.LexesTo text l.span.start (gs ++ ts) ∧
    (gs = [] ∨ Head.IsSign gs l.node.sign l.span.start) ∧
    Head.IsTerm ts l.node.magnitude l.node.unit span

theorem EndsInWord.append_left {cs : List Char} (h : EndsInWord cs) (as : List Char) :
    EndsInWord (as ++ cs) := by
  obtain ⟨ahead, c, gap, rfl, hc, hgap⟩ := h
  exact ⟨as ++ ahead, c, gap, (List.append_assoc ..).symm, hc, hgap⟩

theorem EndsInWord.append_spaces {cs gap : List Char} (h : EndsInWord cs)
    (hgap : ∀ c ∈ gap, isHeadSpace c = true) : EndsInWord (cs ++ gap) := by
  obtain ⟨ahead, c, gap', rfl, hc, hgap'⟩ := h
  refine ⟨ahead, c, gap' ++ gap, ?_, hc, List.forall_mem_append.mpr ⟨hgap', hgap⟩⟩
  rw [List.append_assoc, List.cons_append]

theorem IsTermText.endsInWord {n : Nat} {u : TimeUnit} {cs : List Char} (h : IsTermText n u cs) :
    EndsInWord cs := by
  obtain @⟨ds, gap, w, u, hd, hgap, hne, hw, hu⟩ := h
  obtain ⟨init, c, rfl⟩ := (List.eq_nil_or_concat w).resolve_left hne
  refine ⟨ds ++ (gap ++ init), c, [], ?_, hw c (by simp), nofun⟩
  simp

theorem IsShiftText.endsInWord {before cs : List Char} {s : Shift} (h : IsShiftText before s cs) :
    EndsInWord cs := by
  cases h with
  | @signed s _ _ gap cs _ ht => exact ht.endsInWord.append_left (s.char :: gap)
  | unsigned _ ht => exact ht.endsInWord

/-- More text may stand in front of a shift. -/
theorem IsWrittenShift.append_left {l : Located Shift} {before text : List Char}
    (h : IsWrittenShift l before text) (as : List Char) : IsWrittenShift l (as ++ before) text := by
  refine ⟨?_, h.lexes⟩
  obtain ⟨⟨s, n, u⟩, span⟩ := l
  cases h.spelled with
  | signed hgap ht => exact .signed hgap ht
  | unsigned hword ht => exact .unsigned (hword.append_left as) ht

namespace Head

variable {cs front : List Char} {place : Nat} {ts gs : List (Located Token)}

/-! ### The texts of tokens -/

theorem OptSpace.forall_isHeadSpace (h : OptSpace ts) (hlex : LexesTo cs place ts) :
    ∀ c ∈ cs, isHeadSpace c = true := by
  cases h with
  | absent =>
    rw [hlex.eq_nil]
    exact nofun
  | present a =>
    obtain _ | h := hlex.isTokenText.1
    assumption

theorem IsSign.exists_text {s : Sign} {start : Nat} (h : IsSign gs s start)
    (hlex : LexesTo cs place gs) :
    start = place ∧ ∃ gap, cs = s.char :: gap ∧ ∀ c ∈ gap, isHeadSpace c = true := by
  obtain ⟨s, a, hsp⟩ := h
  obtain ⟨as, gap, rfl, has, hgap⟩ := hlex.split_cons
  obtain ⟨htoken, hspan⟩ := has.isTokenText
  have htext : as = [s.char] := by
    cases s with
    | plus =>
      cases htoken
      rfl
    | minus =>
      cases htoken
      rfl
  refine ⟨congrArg Span.start hspan, gap, ?_, hsp.forall_isHeadSpace hgap⟩
  rw [htext]
  rfl

/-- **A term is written as its digits and the word for its unit.** -/
theorem IsTerm.isTermText {n : Nat} {u : TimeUnit} {span : Span} (h : IsTerm ts n u span)
    (hlex : LexesTo cs place ts) :
    IsTermText n u cs ∧ span = ⟨place, place + utf8Width cs⟩ := by
  obtain ⟨n, a, b, hsp, hu⟩ := h
  obtain ⟨ds, rest, rfl, hds, hrest⟩ := hlex.split_cons
  obtain ⟨gap, w, rfl, hgap, hw⟩ := hrest.split
  obtain ⟨hn, ha⟩ := hds.isTokenText
  obtain ⟨hunit, hb⟩ := hw.isTokenText
  cases hn with
  | integer hd =>
    cases hunit with
    | identifier hne hword =>
      refine ⟨.mk hd (hsp.forall_isHeadSpace hgap) hne hword hu, ?_⟩
      simp only at ha hb
      rw [Span.through, ha, hb]
      simp only [utf8Width_append, Nat.add_assoc]

/-- A term with a sign is the whole of a shift. -/
theorem isWrittenShift_signed {s : Sign} {start n : Nat} {u : TimeUnit} {span : Span}
    (hg : IsSign gs s start) (ht : IsTerm ts n u span) (hlex : LexesTo cs place (gs ++ ts))
    (before : List Char) :
    start = place ∧ span.stop = place + utf8Width cs ∧
      IsWrittenShift ⟨⟨s, n, u⟩, start, span.stop⟩ before cs := by
  obtain ⟨as, bs, rfl, has, hbs⟩ := hlex.split
  obtain ⟨rfl, gap, rfl, hgap⟩ := hg.exists_text has
  obtain ⟨htext, rfl⟩ := ht.isTermText hbs
  refine ⟨rfl, ?_, .signed hgap htext, gs, ts, _, hlex, .inr hg, ht⟩
  rw [utf8Width_append, Nat.add_assoc]

/-! ### Shifts one behind the other -/

/-- Whether shifts stand in a text one behind the other, from byte `pos` on. -/
structure ShiftsStand (cs : List Char) (place pos : Nat) (ls : List (Located Shift)) : Prop where
  written : ∀ l ∈ ls, ∃ before text, l.span.Shows cs place before text ∧
    IsWrittenShift l before text
  ordered : ls.Pairwise fun l m => l.span.stop ≤ m.span.start
  behind : ∀ l ∈ ls, pos ≤ l.span.start

theorem shiftsStand_nil (cs : List Char) (place pos : Nat) : ShiftsStand cs place pos [] :=
  ⟨nofun, .nil, nofun⟩

/-- A shift may stand in front of others that stand behind its end. -/
theorem ShiftsStand.cons {l : Located Shift} {ls : List (Located Shift)} {pos : Nat}
    {before text rest : List Char} (hl : IsWrittenShift l before text)
    (hspan : l.span = ⟨place + utf8Width before, place + utf8Width before + utf8Width text⟩)
    (hpos : pos ≤ place + utf8Width before)
    (hls : ShiftsStand (before ++ text ++ rest) place (place + utf8Width (before ++ text)) ls) :
    ShiftsStand (before ++ (text ++ rest)) place pos (l :: ls) := by
  have hstop : place + utf8Width (before ++ text) = l.span.stop := by
    rw [hspan, utf8Width_append, Nat.add_assoc]
  have hstart : pos ≤ l.span.start ∧ l.span.start ≤ l.span.stop := by
    rw [hspan]
    exact ⟨hpos, Nat.le_add_right _ _⟩
  rw [List.append_assoc, hstop] at hls
  refine ⟨List.forall_mem_cons.mpr ⟨⟨before, text, ⟨⟨rest, rfl⟩, hspan⟩, hl⟩, hls.written⟩,
    List.pairwise_cons.mpr ⟨hls.behind, hls.ordered⟩,
    List.forall_mem_cons.mpr ⟨hstart.1, fun m hm => ?_⟩⟩
  exact Nat.le_trans hstart.1 (Nat.le_trans hstart.2 (hls.behind m hm))

/-- What stands behind a space, and what comes after that. -/
theorem LexesTo.behind_space {us : List (Located Token)} {a : Span}
    (h : LexesTo cs (place + utf8Width front) (⟨.space, a⟩ :: (ts ++ us))) :
    ∃ gap text rest, cs = gap ++ (text ++ rest) ∧ (∀ c ∈ gap, isHeadSpace c = true) ∧
      LexesTo text (place + utf8Width (front ++ gap)) ts ∧
      LexesTo rest (place + utf8Width (front ++ gap ++ text)) us := by
  obtain ⟨gap, rest, rfl, hgap, hrest⟩ := h.split_cons
  rw [Nat.add_assoc place, ← utf8Width_append] at hrest
  obtain ⟨text, rest, rfl, htext, hrest⟩ := hrest.split
  rw [Nat.add_assoc place, ← utf8Width_append] at hrest
  exact ⟨gap, text, rest, rfl, (OptSpace.present a).forall_isHeadSpace hgap, htext, hrest⟩

/-- **Later terms stand one behind the other**, each behind a word. -/
theorem AreLaterTerms.stand {s : Sign} {ls : List (Located Shift)} (h : AreLaterTerms s ts ls)
    (hfront : EndsInWord front) (hlex : LexesTo cs (place + utf8Width front) ts) :
    ShiftsStand (front ++ cs) place (place + utf8Width front) ls := by
  have hpos (front gap : List Char) : place + utf8Width front ≤ place + utf8Width (front ++ gap) := by
    rw [utf8Width_append]
    omega
  -- the text in front grows by a space and a term at a time
  induction h generalizing front cs with
  | none s => exact shiftsStand_nil _ _ _
  | @unsigned s ts n u span us ls a ht hl ih =>
    obtain ⟨gap, text, rest, rfl, hgap, htext, hrest⟩ := hlex.behind_space
    obtain ⟨hterm, rfl⟩ := ht.isTermText htext
    have hwritten : IsWrittenShift ⟨⟨s, n, u⟩, ⟨place + utf8Width (front ++ gap),
        place + utf8Width (front ++ gap) + utf8Width text⟩⟩ (front ++ gap) text :=
      ⟨.unsigned (hfront.append_spaces hgap) hterm, [], ts, _, htext, .inl rfl, ht⟩
    rw [← List.append_assoc]
    exact .cons hwritten rfl (hpos _ _) (ih (hwritten.spelled.endsInWord.append_left _) hrest)
  | @signed s gs s' start ts n u span us ls a hg ht hl ih =>
    obtain ⟨gap, text, rest, rfl, hgap, htext, hrest⟩ := hlex.behind_space
    obtain ⟨rfl, hstop, hwritten⟩ := isWrittenShift_signed hg ht htext (front ++ gap)
    rw [← List.append_assoc]
    exact .cons hwritten (by rw [hstop]) (hpos _ _)
      (ih (hwritten.spelled.endsInWord.append_left _) hrest)

/-- **Shifts stand one behind the other.** -/
theorem AreShifts.stand {ls : List (Located Shift)} (h : AreShifts ts ls)
    (hlex : LexesTo cs (place + utf8Width front) ts) :
    ShiftsStand (front ++ cs) place (place + utf8Width front) ls := by
  obtain ⟨hg, ht, hl⟩ := h
  obtain ⟨text, rest, rfl, htext, hrest⟩ := hlex.split
  obtain ⟨rfl, hstop, hwritten⟩ := isWrittenShift_signed hg ht htext front
  rw [Nat.add_assoc place, ← utf8Width_append] at hrest
  exact .cons hwritten (by rw [hstop]) (Nat.le_refl _)
    (hl.stand (hwritten.spelled.endsInWord.append_left front) hrest)

/-! ### Heads -/

/-- Whether the places of what a head says show it. -/
structure IsFaithful (h : Head) (cs : List Char) (place : Nat) : Prop where
  reference : ∀ r ∈ h.reference, ∃ before text, r.span.Shows cs place before text ∧
    r.node.IsWrittenAs text
  shifts : ∃ pos, ShiftsStand cs place pos h.shifts ∧ ∀ r ∈ h.reference, r.span.stop ≤ pos

theorem IsReference.isWrittenAs {r : Located Reference} (h : IsReference ts r)
    (hlex : LexesTo cs place ts) :
    r.node.IsWrittenAs cs ∧ r.span = ⟨place, place + utf8Width cs⟩ := by
  cases h with
  | named w a =>
    obtain ⟨htoken, hspan⟩ := hlex.isTokenText
    cases htoken with
    | identifier => exact ⟨String.toList_ofList.symm, hspan⟩
  | indexed n a =>
    obtain ⟨htoken, hspan⟩ := hlex.isTokenText
    cases htoken with
    | integer hd => exact ⟨⟨hd, rfl⟩, hspan⟩

/-- **The places of what a head says show it.** -/
theorem IsHead.isFaithful {h : Head} (hh : IsHead ts h) (hlex : LexesTo cs place ts) :
    h.IsFaithful cs place := by
  cases hh with
  | empty => exact ⟨nofun, place, shiftsStand_nil _ _ _, nofun⟩
  | @reference ts r hr =>
    obtain ⟨hwritten, hspan⟩ := hr.isWrittenAs hlex
    refine ⟨?_, r.span.stop, shiftsStand_nil _ _ _, ?_⟩
    · rintro _ ⟨⟩
      exact ⟨[], cs, ⟨⟨[], by simp⟩, hspan⟩, hwritten⟩
    · rintro _ ⟨⟩
      exact Nat.le_refl _
  | @shifted ts r us ls a hr hs =>
    obtain ⟨name, rest, rfl, hname, hrest⟩ := hlex.split
    obtain ⟨gap, rest, rfl, hgap, hrest⟩ := hrest.split_cons
    obtain ⟨hwritten, hspan⟩ := hr.isWrittenAs hname
    rw [Nat.add_assoc place, ← utf8Width_append] at hrest
    have hstand := hs.stand hrest
    rw [List.append_assoc] at hstand
    refine ⟨?_, _, hstand, ?_⟩
    · rintro _ ⟨⟩
      exact ⟨[], name, ⟨⟨gap ++ rest, rfl⟩, hspan⟩, hwritten⟩
    · rintro _ ⟨⟩
      rw [hspan, utf8Width_append, ← Nat.add_assoc]
      exact Nat.le_add_right _ _
  | @shifts ts ls hs =>
    have hstand : ShiftsStand ([] ++ cs) place place ls := hs.stand hlex
    exact ⟨nofun, place, hstand, nofun⟩

end Head

end PathTemplate
