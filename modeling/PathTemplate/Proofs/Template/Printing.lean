/-
# Written placeholders

A placeholder can be written from what it says: the reference (nothing for an
implicit one), each shift behind a space, and the pattern between quotes
behind a bar. Such a text reads back as one placeholder that says the same
(`parse_written`), for every name, every number that 64 bits hold and every
pattern without a closing brace: no part of it can leak into another.

The head reads back token by token (`readings_writtenShifts`), then the
interior is cut at its bar (`derives_written`), then the braces enclose it.

Key definitions: `Reference.written`, `writtenShifts`, `Placeholder.written`.
Key theorems: `derives_written`, `parse_written`.
-/
import PathTemplate.Proofs.Head.Lexing
import PathTemplate.Proofs.Placeholder.Grammar
import PathTemplate.Proofs.Template.Pieces
import PathTemplate.Template

namespace PathTemplate

open Decimal Text

/-! ### What is written -/

/-- A reference as a placeholder writes it. -/
def Reference.written : Reference → List Char
  | implicit => []
  | r => r.shown.toList

/-- Whether a placeholder can write a reference. -/
def Reference.IsWritable : Reference → Prop
  | named name => IsIdentifier name.toList
  | indexed index => index < twoTo 64
  | implicit => True

/-- Some shifts as a placeholder writes them. -/
def writtenShifts (ss : List Shift) : List Char := ss.flatMap fun s => ' ' :: s.shown.toList

/-- A pattern as a placeholder writes it. -/
def writtenPattern : Option String → List Char
  | none => []
  | some text => ' ' :: '|' :: ' ' :: '"' :: (text.toList ++ ['"'])

/-- A placeholder as its interior is written. -/
def writtenInterior (r : Reference) (ss : List Shift) (pattern : Option String) : List Char :=
  r.written ++ writtenShifts ss ++ writtenPattern pattern

/-- A placeholder as a template writes it. -/
def Placeholder.written (r : Reference) (ss : List Shift) (pattern : Option String) : String :=
  String.ofList ('$' :: '{' :: (writtenInterior r ss pattern ++ ['}']))

/-! ### The tokens of a written head -/

/-- The word that a shift is shown with. -/
def Shift.unitWord (s : Shift) : String := s.unit.word ++ (if s.magnitude = 1 then "" else "s")

theorem Shift.toList_shown (s : Shift) :
    s.shown.toList = s.sign.char :: (decimal s.magnitude ++ ' ' :: s.unitWord.toList) := by
  simp [Shift.shown, Shift.unitWord, decimal]

theorem Shift.isNamed_unitWord (s : Shift) : s.unit.IsNamed s.unitWord := by
  unfold unitWord TimeUnit.IsNamed
  split <;> simp

theorem TimeUnit.isIdentifier_word (u : TimeUnit) :
    IsIdentifier u.word.toList ∧ IsIdentifier (u.word ++ "s").toList := by
  cases u <;> exact ⟨⟨⟨_, rfl, by decide⟩, List.all_eq_true.mp (by decide)⟩,
    ⟨⟨_, rfl, by decide⟩, List.all_eq_true.mp (by decide)⟩⟩

theorem Shift.isIdentifier_unitWord (s : Shift) : IsIdentifier s.unitWord.toList := by
  unfold unitWord
  split
  · simpa using s.unit.isIdentifier_word.1
  · exact s.unit.isIdentifier_word.2

/-- The tokens of a shift. -/
def Shift.tokens (s : Shift) : List Token :=
  [s.sign.token, .integer s.magnitude, .space, .identifier s.unitWord]

theorem IsIdentifier.stopsAt {name : List Char} (h : IsIdentifier name) {p : Char → Bool}
    (hp : ∀ c, isWordChar c = true → p c = false) (rest : List Char) : StopsAt p (name ++ rest) := by
  obtain ⟨⟨c, hc, hs⟩, -⟩ := h
  cases name with
  | nil => cases hc
  | cons d cs =>
    cases hc
    rintro _ ⟨⟩
    exact hp c (isWordChar_of_isNameStart hs)

theorem readings_shown {s : Shift} (hs : s.magnitude < twoTo 64) {rest : List Char}
    (hr : StopsAt isWordChar rest) :
    readings (s.shown.toList ++ rest) = s.tokens.map .ok ++ readings rest := by
  have hspace : StopsAt isHeadSpace (s.unitWord.toList ++ rest) :=
    s.isIdentifier_unitWord.stopsAt (fun _ h => (of_isWordChar h).1) rest
  calc readings (s.shown.toList ++ rest)
    _ = .ok s.sign.token ::
        readings (decimal s.magnitude ++ (' ' :: (s.unitWord.toList ++ rest))) := by
      rw [s.toList_shown, List.cons_append, readings_sign, List.append_assoc, List.cons_append]
    _ = .ok s.sign.token :: .ok (.integer s.magnitude) ::
        readings (' ' :: (s.unitWord.toList ++ rest)) := by
      rw [readings_decimal hs (by rintro _ ⟨⟩; decide)]
    _ = s.tokens.map .ok ++ readings rest := by
      rw [readings_space hspace, readings_identifier s.isIdentifier_unitWord hr,
        String.ofList_toList]
      rfl

theorem stopsAt_writtenShifts {p : Char → Bool} (hp : p ' ' = false) (ss : List Shift) :
    StopsAt p (writtenShifts ss) := by
  cases ss with
  | nil => nofun
  | cons s ss => rintro _ ⟨⟩; exact hp

theorem readings_writtenShifts : ∀ {ss : List Shift}, (∀ s ∈ ss, s.magnitude < twoTo 64) →
    readings (writtenShifts ss) = (ss.flatMap fun s => .space :: s.tokens).map .ok
  | [], _ => readings_nil
  | s :: ss, h => by
    have hsign : StopsAt isHeadSpace (s.shown.toList ++ writtenShifts ss) := by
      rw [s.toList_shown]
      rintro _ ⟨⟩
      cases s.sign <;> decide
    have ih := readings_writtenShifts fun s hs => h s (List.mem_cons_of_mem _ hs)
    calc readings (writtenShifts (s :: ss))
      _ = readings (' ' :: (s.shown.toList ++ writtenShifts ss)) := rfl
      _ = .ok .space :: (s.tokens.map .ok ++ readings (writtenShifts ss)) := by
        rw [readings_space hsign, readings_shown (h s List.mem_cons_self)
          (stopsAt_writtenShifts (by decide) ss)]
      _ = _ := by rw [ih]; simp

/-! ### The head of a written placeholder -/

/-- The text of a written head, without the space in front of shifts that stand alone. -/
def writtenHead : Reference → List Shift → List Char
  | .implicit, [] => []
  | .implicit, s :: ss => s.shown.toList ++ writtenShifts ss
  | r, ss => r.written ++ writtenShifts ss

/-- The tokens of a written head. -/
def headTokens : Reference → List Shift → List Token
  | .implicit, [] => []
  | .implicit, s :: ss => s.tokens ++ ss.flatMap fun s => .space :: s.tokens
  | .named name, ss => .identifier name :: ss.flatMap fun s => .space :: s.tokens
  | .indexed index, ss => .integer index :: ss.flatMap fun s => .space :: s.tokens

theorem readings_writtenHead {r : Reference} {ss : List Shift} (hr : r.IsWritable)
    (hs : ∀ s ∈ ss, s.magnitude < twoTo 64) :
    readings (writtenHead r ss) = (headTokens r ss).map .ok := by
  cases r with
  | named name =>
    calc readings (name.toList ++ writtenShifts ss)
      _ = .ok (.identifier (String.ofList name.toList)) :: readings (writtenShifts ss) :=
        readings_identifier hr (stopsAt_writtenShifts (by decide) ss)
      _ = _ := by rw [readings_writtenShifts hs, String.ofList_toList]; rfl
  | indexed index =>
    calc readings ((toString index).toList ++ writtenShifts ss)
      _ = readings (decimal index ++ writtenShifts ss) := by simp [decimal]
      _ = .ok (.integer index) :: readings (writtenShifts ss) :=
        readings_decimal hr (stopsAt_writtenShifts (by decide) ss)
      _ = _ := by rw [readings_writtenShifts hs]; rfl
  | implicit =>
    cases ss with
    | nil => exact readings_nil
    | cons s ss =>
      calc readings (s.shown.toList ++ writtenShifts ss)
        _ = s.tokens.map .ok ++ readings (writtenShifts ss) :=
          readings_shown (hs s List.mem_cons_self) (stopsAt_writtenShifts (by decide) ss)
        _ = _ := by
          rw [readings_writtenShifts fun s h => hs s (List.mem_cons_of_mem _ h)]
          simp [headTokens]

/-! ### The edges and the characters of a written head -/

theorem Shift.isTrimmed_shown (s : Shift) : IsTrimmed s.shown.toList := by
  have hword := isTrimmed_of_forall fun c hc => isBlank_of_isWordChar (s.isIdentifier_unitWord.2 c hc)
  have hne : s.unitWord.toList.reverse ≠ [] := fun h => by
    obtain ⟨⟨c, hc, -⟩, -⟩ := s.isIdentifier_unitWord
    simp [List.reverse_eq_nil_iff.mp h] at hc
  rw [s.toList_shown]
  constructor
  · rw [stopsAt_cons]
    cases s.sign <;> decide
  · rw [List.reverse_cons, List.reverse_append, List.reverse_cons, List.append_assoc,
      List.append_assoc]
    exact hword.stop.append fun h => absurd h hne

theorem stopsAt_reverse_writtenShifts : ∀ ss : List Shift,
    StopsAt isBlank (writtenShifts ss).reverse
  | [] => nofun
  | s :: ss => by
    have hne : s.shown.toList.reverse ≠ [] := by simp [s.toList_shown]
    rw [writtenShifts, List.flatMap_cons, List.reverse_append, List.reverse_cons]
    refine (stopsAt_reverse_writtenShifts ss).append fun _ => ?_
    exact s.isTrimmed_shown.stop.append fun h => absurd h hne

theorem IsIdentifier.ne_nil {name : List Char} (h : IsIdentifier name) : name ≠ [] := by
  obtain ⟨⟨c, hc, -⟩, -⟩ := h
  rintro rfl
  cases hc

theorem Reference.forall_isWordChar {r : Reference} (hr : r.IsWritable) :
    ∀ c ∈ r.written, isWordChar c = true := by
  cases r with
  | named name => exact hr.2
  | indexed index =>
    intro c hc
    refine isWordChar_of_isDigit (isDigit_of_mem_decimal (n := index) ?_)
    simpa [written, shown, decimal] using hc
  | implicit => nofun

theorem isTrimmed_writtenHead {r : Reference} (hr : r.IsWritable) (ss : List Shift) :
    IsTrimmed (writtenHead r ss) := by
  have refer : ∀ cs : List Char, cs ≠ [] → IsTrimmed cs → IsTrimmed (cs ++ writtenShifts ss) :=
    fun cs hne hcs => hcs.append (stopsAt_reverse_writtenShifts ss) fun h => absurd h hne
  have hword := isTrimmed_of_forall fun c hc =>
    isBlank_of_isWordChar (Reference.forall_isWordChar hr c hc)
  cases r with
  | named name => exact refer _ hr.ne_nil hword
  | indexed index => exact refer _ (by simp [Reference.written, Reference.shown]) hword
  | implicit =>
    cases ss with
    | nil => exact isTrimmed_of_forall nofun
    | cons s ss =>
      refine s.isTrimmed_shown.append (stopsAt_reverse_writtenShifts ss) fun h => ?_
      simp [s.toList_shown] at h

/-- The characters that a written head is made of. -/
def isHeadChar (c : Char) : Bool := isWordChar c || c == ' ' || c == '+' || c == '-'

theorem Shift.forall_isHeadChar (s : Shift) : ∀ c ∈ s.shown.toList, isHeadChar c = true := by
  intro c hc
  have word : isWordChar c = true → isHeadChar c = true := fun h => by simp [isHeadChar, h]
  simp only [s.toList_shown, List.mem_cons, List.mem_append] at hc
  rcases hc with rfl | hc | rfl | hc
  · cases s.sign <;> decide
  · exact word (isWordChar_of_isDigit (isDigit_of_mem_decimal hc))
  · decide
  · exact word (s.isIdentifier_unitWord.2 c hc)

theorem forall_isHeadChar_written {r : Reference} (hr : r.IsWritable) (ss : List Shift) :
    ∀ c ∈ r.written ++ writtenShifts ss, isHeadChar c = true := by
  intro c hc
  rcases List.mem_append.mp hc with hc | hc
  · simp [isHeadChar, Reference.forall_isWordChar hr c hc]
  · obtain ⟨s, -, hc⟩ := List.mem_flatMap.mp hc
    rcases List.mem_cons.mp hc with rfl | hc
    · decide
    · exact s.forall_isHeadChar c hc

theorem forall_isBlank_space : ∀ c ∈ [' '], isBlank c = true :=
  List.forall_mem_singleton.mpr (by decide)

/-- A head is written with a space in front of shifts that stand alone. -/
theorem written_eq_append (r : Reference) (ss : List Shift) :
    ∃ gap : List Char, (∀ c ∈ gap, isBlank c = true) ∧
      r.written ++ writtenShifts ss = gap ++ writtenHead r ss := by
  cases r with
  | named | indexed => exact ⟨[], nofun, by simp [writtenHead]⟩
  | implicit =>
    cases ss with
    | nil => exact ⟨[], nofun, rfl⟩
    | cons s ss =>
      exact ⟨[' '], forall_isBlank_space, by simp [Reference.written, writtenShifts, writtenHead]⟩

open Head in
/-- The tokens of a shift, wherever they stand, are a sign and a term. -/
theorem isTerm_of_tokens {s : Shift} {ts : List (Located Token)}
    (h : ts.map Located.node = s.tokens) :
    ∃ gs us start span, ts = gs ++ us ∧ IsSign gs s.sign start ∧
      IsTerm us s.magnitude s.unit span := by
  simp only [Shift.tokens, List.map_eq_cons_iff, List.map_eq_nil_iff] at h
  obtain ⟨⟨_, a⟩, _, rfl, rfl, ⟨_, b⟩, _, rfl, rfl, ⟨_, c⟩, _, rfl, rfl, ⟨_, d⟩, _, rfl, rfl, rfl⟩ := h
  exact ⟨_, _, _, _, rfl, .mk s.sign a .absent, .mk s.magnitude b d (.present c) s.isNamed_unitWord⟩

open Head in
theorem areLaterTerms_of_tokens : ∀ {ss : List Shift} {ts : List (Located Token)} (s : Sign),
    ts.map Located.node = (ss.flatMap fun s => .space :: s.tokens) →
      ∃ ls, AreLaterTerms s ts ls ∧ ls.map Located.node = ss
  | [], ts, s, h => by
    cases List.map_eq_nil_iff.mp h
    exact ⟨[], .none s, rfl⟩
  | x :: ss, ts, s, h => by
    rw [List.flatMap_cons, List.cons_append, List.map_eq_cons_iff] at h
    obtain ⟨⟨_, a⟩, _, rfl, rfl, h⟩ := h
    obtain ⟨xs, us, rfl, hx, hu⟩ := List.map_eq_append_iff.mp h
    obtain ⟨gs, vs, start, span, rfl, hg, ht⟩ := isTerm_of_tokens hx
    obtain ⟨ls, hl, rfl⟩ := areLaterTerms_of_tokens x.sign hu
    exact ⟨_, .signed a hg ht hl, rfl⟩

open Head in
theorem areShifts_of_tokens {s : Shift} {ss : List Shift} {ts : List (Located Token)}
    (h : ts.map Located.node = s.tokens ++ ss.flatMap fun s => .space :: s.tokens) :
    ∃ ls, AreShifts ts ls ∧ ls.map Located.node = s :: ss := by
  obtain ⟨xs, us, rfl, hx, hu⟩ := List.map_eq_append_iff.mp h
  obtain ⟨gs, vs, start, span, rfl, hg, ht⟩ := isTerm_of_tokens hx
  obtain ⟨ls, hl, rfl⟩ := areLaterTerms_of_tokens s.sign hu
  exact ⟨_, ⟨hg, ht, hl⟩, rfl⟩

/-- What a head says, its places left out. -/
def Head.says (h : Head) (r : Reference) (ss : List Shift) : Prop :=
  (∀ span, (h.reference.getD ⟨.implicit, span⟩).node = r) ∧ h.shifts.map Located.node = ss

open Head in
theorem isHead_of_tokens {r : Reference} {ss : List Shift} {ts : List (Located Token)}
    (h : ts.map Located.node = headTokens r ss) : ∃ hd, IsHead ts hd ∧ hd.says r ss := by
  have refer : ∀ {us : List (Located Token)} {lr : Located Reference}, IsReference us lr →
      ∀ {vs : List (Located Token)}, vs.map Located.node = (ss.flatMap fun s => .space :: s.tokens) →
        ∃ hd, IsHead (us ++ vs) hd ∧ hd.says lr.node ss := by
    intro us lr hr vs hv
    cases ss with
    | nil =>
      cases List.map_eq_nil_iff.mp hv
      exact ⟨_, by simpa using IsHead.reference hr, fun _ => rfl, rfl⟩
    | cons s ss =>
      rw [List.flatMap_cons, List.cons_append, List.map_eq_cons_iff] at hv
      obtain ⟨⟨_, a⟩, _, rfl, rfl, hv⟩ := hv
      obtain ⟨ls, hl, hn⟩ := areShifts_of_tokens hv
      exact ⟨_, .shifted a hr hl, fun _ => rfl, hn⟩
  cases r with
  | named name =>
    obtain ⟨⟨_, a⟩, vs, rfl, rfl, hv⟩ := List.map_eq_cons_iff.mp h
    exact refer (.named name a) hv
  | indexed index =>
    obtain ⟨⟨_, a⟩, vs, rfl, rfl, hv⟩ := List.map_eq_cons_iff.mp h
    exact refer (.indexed index a) hv
  | implicit =>
    cases ss with
    | nil =>
      cases List.map_eq_nil_iff.mp h
      exact ⟨_, .empty, fun _ => rfl, rfl⟩
    | cons s ss =>
      obtain ⟨ls, hl, hn⟩ := areShifts_of_tokens h
      exact ⟨_, .shifts hl, fun _ => rfl, hn⟩

/-! ### The interior, and the whole placeholder -/

/-- What a placeholder says, its places left out. -/
def Placeholder.says (p : Placeholder) (r : Reference) (ss : List Shift) (pattern : Option String) :
    Prop :=
  p.reference.node = r ∧ p.shifts.map Located.node = ss ∧ p.pattern.map Located.node = pattern

theorem isTrimmed_quoted (text : List Char) : IsTrimmed ('"' :: (text ++ ['"'])) := by
  constructor
  · exact stopsAt_cons.mpr (by decide)
  · rw [List.reverse_cons, List.reverse_concat, List.cons_append]
    exact stopsAt_cons.mpr (by decide)

/-- The text of a written pattern behind its bar. -/
def quotedTail (text : String) : List Char := ' ' :: '"' :: (text.toList ++ ['"'])

theorem trim_quotedTail (text : String) :
    trim (quotedTail text) = '"' :: (text.toList ++ ['"']) := by
  rw [quotedTail, ← List.singleton_append]
  exact (isTrimmed_quoted _).trim_append forall_isBlank_space

/-- A bar and a written pattern end with no blank, and nor does anything in front of them. -/
theorem isTrimmed_append_tail (text : String) {cs : List Char} (hcs : StopsAt isBlank cs) :
    IsTrimmed (cs ++ '|' :: quotedTail text) := by
  have hq : ('|' :: quotedTail text).reverse = '"' :: (quotedTail text).reverse.tail ++ ['|'] := by
    simp [quotedTail]
  refine ⟨hcs.append fun _ => stopsAt_cons.mpr (by decide), ?_⟩
  rw [List.reverse_append, hq]
  exact stopsAt_cons.mpr (by decide)

theorem trim_writtenInterior (r : Reference) (ss : List Shift) (text : String)
    (hh : IsTrimmed (writtenHead r ss)) :
    ∃ gap : List Char, (∀ c ∈ gap, isBlank c = true) ∧ '|' ∉ gap ∧
      trim (writtenInterior r ss (some text)) =
        (writtenHead r ss ++ gap) ++ '|' :: quotedTail text := by
  obtain ⟨lead, hlead, hw⟩ := written_eq_append r ss
  have hi : writtenInterior r ss (some text) =
      lead ++ (writtenHead r ss ++ ' ' :: '|' :: quotedTail text) := by
    rw [writtenInterior, hw, List.append_assoc]
    rfl
  rw [hi]
  cases hhead : writtenHead r ss with
  | nil =>
    -- nothing is written before the bar, so the space in front of it goes too
    refine ⟨[], nofun, nofun, ?_⟩
    have hlead' : ∀ c ∈ lead ++ [' '], isBlank c = true :=
      List.forall_mem_append.mpr ⟨hlead, forall_isBlank_space⟩
    have hbar : IsTrimmed ([] ++ '|' :: quotedTail text) := isTrimmed_append_tail text nofun
    simpa using hbar.trim_append hlead'
  | cons c cs =>
    refine ⟨[' '], forall_isBlank_space, by decide, ?_⟩
    have hstart : StopsAt isBlank (c :: cs ++ [' ']) := (hhead ▸ hh.start).append nofun
    simpa using (isTrimmed_append_tail text hstart).trim_append hlead

theorem derives_written {r : Reference} {ss : List Shift} (hr : r.IsWritable)
    (hs : ∀ s ∈ ss, s.magnitude < twoTo 64) (pattern : Option String) (offset : Nat) (span : Span) :
    ∃ p, Placeholder.Derives (writtenInterior r ss pattern) offset span p ∧
      p.says r ss pattern := by
  have hh := isTrimmed_writtenHead hr ss
  have hbar : '|' ∉ writtenHead r ss := fun h => by
    obtain ⟨lead, -, hw⟩ := written_eq_append r ss
    have := forall_isHeadChar_written hr ss '|' (hw ▸ List.mem_append_right lead h)
    exact absurd this (by decide)
  obtain ⟨ts, hlex, hts⟩ := Head.exists_lexesTo (readings_writtenHead hr hs)
    (Placeholder.trimmedSpan (writtenInterior r ss pattern) offset).start
  obtain ⟨hd, hhead, href, hshifts⟩ := isHead_of_tokens hts
  cases pattern with
  | none =>
    have htrim : trim (writtenInterior r ss none) = writtenHead r ss := by
      obtain ⟨lead, hlead, hw⟩ := written_eq_append r ss
      rw [writtenInterior, hw, writtenPattern, List.append_nil]
      exact hh.trim_append hlead
    have hcut : Placeholder.IsCut (trim (writtenInterior r ss none)) (writtenHead r ss) none := by
      rw [htrim]
      exact .whole hbar
    exact ⟨_, .mk hcut (hh.trimEnd_eq.symm ▸ hlex) hhead (.none _), href span, hshifts, rfl⟩
  | some text =>
    obtain ⟨gap, hgap, hgbar, htrim⟩ := trim_writtenInterior r ss text hh
    have hcut : Placeholder.IsCut (trim (writtenInterior r ss (some text))) (writtenHead r ss ++ gap)
        (some (quotedTail text)) := by
      rw [htrim]
      exact .atBar fun h => (List.mem_append.mp h).elim hbar hgbar
    have hfront : trimEnd (writtenHead r ss ++ gap) = writtenHead r ss := trimEnd_append hh.stop hgap
    have hpat : Placeholder.IsPattern (trim (quotedTail text)) text := by
      rw [trim_quotedTail]
      simpa using Placeholder.IsPattern.quoted text.toList
    exact ⟨_, .mk hcut (hfront.symm ▸ hlex) hhead (.some _ hpat), href span, hshifts, rfl⟩

/-- A braced text without a closing brace inside is one piece. -/
theorem pieces_braced {cs : List Char} (h : '}' ∉ cs) :
    pieces ('$' :: '{' :: (cs ++ ['}'])) = [.braced cs] := by
  have hshape : (Piece.braced cs).IsShaped := forall_ne_iff.mpr h
  have hpieces : pieces ((Piece.braced cs).text ++ []) = [.braced cs] := by
    rw [pieces_text_append hshape trivial, pieces]
  rw [← hpieces]
  simp [Piece.text]

/-- **A written placeholder reads back.** It is the only segment, and says what was written. -/
theorem parse_written {r : Reference} {ss : List Shift} {pattern : Option String}
    (hr : r.IsWritable) (hs : ∀ s ∈ ss, s.magnitude < twoTo 64)
    (hp : ∀ text ∈ pattern, '}' ∉ text.toList) :
    ∃ p span, (Template.parse (Placeholder.written r ss pattern)).segments =
      [.placeholder ⟨p, span⟩] ∧ p.says r ss pattern := by
  have hbrace : '}' ∉ writtenInterior r ss pattern := fun h => by
    rcases List.mem_append.mp h with h | h
    · exact absurd (forall_isHeadChar_written hr ss '}' h) (by decide)
    · cases pattern with
      | none => cases h
      | some text => simp [writtenPattern, hp text rfl] at h
  set span : Span := ⟨0, Piece.width (.braced (writtenInterior r ss pattern))⟩ with hspan
  obtain ⟨p, hd, hsays⟩ := derives_written hr hs pattern 2 span
  refine ⟨p, span, ?_, hsays⟩
  have hseg : Segment.ofPiece ⟨.braced (writtenInterior r ss pattern), span⟩ = .placeholder ⟨p, span⟩ := by
    simp only [Segment.ofPiece, hspan, Nat.zero_add]
    rw [← hspan, hd.read_eq]
  rw [Template.parse, Placeholder.written, String.toList_ofList, locatedPieces, pieces_braced hbrace]
  simp only [layOut, List.foldr_cons, List.foldr_nil, Nat.zero_add]
  rw [← hspan, hseg]
  rfl

/-- Signs, bars, quotes, blanks and opening braces in a pattern stay in it. -/
theorem parse_written_hostile :
    (Reference.named "day_1").IsWritable ∧
      (∀ s ∈ [⟨.plus, 1, .day⟩, (⟨.minus, 18446744073709551615, .second⟩ : Shift)],
        s.magnitude < twoTo 64) ∧
      (∀ text ∈ some "|\" $\x7b +1 day", '}' ∉ text.toList) ∧
      ∃ p span, (Template.parse (Placeholder.written (.named "day_1")
          [⟨.plus, 1, .day⟩, ⟨.minus, 18446744073709551615, .second⟩]
          (some "|\" $\x7b +1 day"))).segments = [.placeholder ⟨p, span⟩] ∧
        p.says (.named "day_1") [⟨.plus, 1, .day⟩, ⟨.minus, 18446744073709551615, .second⟩]
          (some "|\" $\x7b +1 day") := by
  have hr : (Reference.named "day_1").IsWritable :=
    ⟨⟨'d', rfl, rfl⟩, List.all_eq_true.mp (by decide)⟩
  have hs : ∀ s ∈ [⟨.plus, 1, .day⟩, (⟨.minus, 18446744073709551615, .second⟩ : Shift)],
      s.magnitude < twoTo 64 := by decide
  have hp : ∀ text ∈ some "|\" $\x7b +1 day", '}' ∉ text.toList := by
    rintro _ ⟨⟩
    decide
  exact ⟨hr, hs, hp, parse_written hr hs hp⟩

end PathTemplate
