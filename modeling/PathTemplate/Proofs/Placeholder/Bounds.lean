/-
# Reading stays in the text

Every place that the reader of placeholders gives lies in the text that it
reads: the place of each thing that it finds, or else the place of the fault.
For a head this is carried from token to token. At each stage the term that is
being read has started at an edge of the text, and no later than the tokens
read so far end; so a whole term begins where some token begins, ends where one
that is no earlier ends, and begins before the terms behind it end. A place may
be empty, but a closing brace or a character of its own stands behind its start.

Key definitions: `StaysIn`, `Head.LiesIn`, `Head.Progress.LiesIn`, `Placeholder.LiesIn`,
`Segment.LiesIn`, `Segment.StartsBefore`.
Key theorems: `StaysIn.bind`, `Head.Progress.staysIn_step`, `Head.staysIn_read`,
`Placeholder.staysIn_readPattern`, `Placeholder.staysIn_read`, `Segment.liesIn_ofPiece`,
`Segment.startsBefore_ofPiece`.
-/
import PathTemplate.Proofs.Head.Grammar
import PathTemplate.Proofs.Text.Edges
import PathTemplate.Template

namespace PathTemplate

open Text

/-- Whether a reading stays in the text `cs`: what it gives is `good`, or its fault lies there. -/
def StaysIn {α : Type} (cs : List Char) (place : Nat) (good : α → Prop) :
    Except SyntaxError α → Prop
  | .ok a => good a
  | .error e => e.span.LiesIn cs place

variable {cs : List Char} {place : Nat}

namespace StaysIn

variable {α β : Type} {good : α → Prop} {x : Except SyntaxError α}

/-- Readings one after the other stay in a text if each of them does. -/
theorem bind {good' : β → Prop} {next : α → Except SyntaxError β} (hx : StaysIn cs place good x)
    (hnext : ∀ a, good a → StaysIn cs place good' (next a)) :
    StaysIn cs place good' (x >>= next) := by
  cases x with
  | error e => exact hx
  | ok a => exact hnext a hx

/-- A reading that stays in a part of a text stays in the text. -/
theorem enclosed {good' : α → Prop} {as : List Char}
    (hx : StaysIn cs (place + utf8Width as) good x) (hgood : ∀ a, good a → good' a)
    (bs : List Char) : StaysIn (as ++ (cs ++ bs)) place good' x := by
  cases x with
  | error e => exact Span.LiesIn.enclosed hx bs
  | ok a => exact hgood a hx

end StaysIn

namespace Head

/-! ### Heads -/

/-- Whether what a head says lies in a text, and its shifts stand there in order. -/
structure LiesIn (h : Head) (cs : List Char) (place : Nat) : Prop where
  reference : ∀ r ∈ h.reference, r.span.LiesIn cs place
  shifts : ∀ s ∈ h.shifts, s.span.LiesIn cs place
  ordered : h.shifts.Pairwise fun s t => s.span.start ≤ t.span.stop

theorem LiesIn.enclosed {h : Head} {as : List Char} (hh : h.LiesIn cs (place + utf8Width as))
    (bs : List Char) : h.LiesIn (as ++ (cs ++ bs)) place :=
  ⟨fun r hr => (hh.reference r hr).enclosed bs, fun s hs => (hh.shifts s hs).enclosed bs,
    hh.ordered⟩

/-- The byte at which the term that is being read has started. -/
def Stage.started : Stage → Option Nat
  | signed _ start _ | counted _ start _ _ => some start
  | _ => none

theorem Stage.started_afterSpace (s : Stage) : s.afterSpace.started = s.started := by
  cases s <;> rfl

namespace Progress

/-- Whether what has been read of a head lies in a text, and ends at byte `pos` at the latest. -/
structure LiesIn (p : Progress) (cs : List Char) (place pos : Nat) : Prop where
  head : p.head.LiesIn cs place
  started : ∀ n ∈ p.stage.started, IsEdge cs place n ∧ n ≤ pos
  passed : ∀ s ∈ p.head.shifts, s.span.stop ≤ pos

theorem liesIn_opening (cs : List Char) (place : Nat) : LiesIn {} cs place place :=
  ⟨⟨nofun, nofun, .nil⟩, nofun, nofun⟩

/-- The fault of a token is where the token is. -/
theorem span_of_step_eq_error {p : Progress} {t : Located Token} {e : SyntaxError}
    (h : p.step t = .error e) : e.span = t.span := by
  cases step_eq_error h with
  | unknownUnit => rfl
  | unexpected => rfl

/-- **A step stays in the text** if the token lies there, behind what has been read. -/
theorem staysIn_step {p : Progress} {t : Located Token} {pos : Nat} (hp : p.LiesIn cs place pos)
    (hpos : pos ≤ t.span.start) (ht : t.span.LiesIn cs place) :
    StaysIn cs place (fun q => q.LiesIn cs place t.span.stop) (p.step t) := by
  have hstop : pos ≤ t.span.stop := Nat.le_trans hpos ht.ordered
  have hpassed : ∀ s ∈ p.head.shifts, s.span.stop ≤ t.span.stop :=
    fun s hs => Nat.le_trans (hp.passed s hs) hstop
  have hstarted : ∀ n ∈ p.stage.started, IsEdge cs place n ∧ n ≤ t.span.stop :=
    fun n hn => ⟨(hp.started n hn).1, Nat.le_trans (hp.started n hn).2 hstop⟩
  cases hstep : p.step t with
  | error e =>
    show e.span.LiesIn cs place
    rw [span_of_step_eq_error hstep]
    exact ht
  | ok q =>
    show q.LiesIn cs place t.span.stop
    cases step_eq_ok hstep with
    | @space st _ a hs =>
      refine ⟨hp.head, ?_, hpassed⟩
      rw [Stage.started_afterSpace]
      exact hstarted
    | sign s a hs =>
      refine ⟨hp.head, ?_, hpassed⟩
      rintro n ⟨⟩
      exact ⟨ht.start, ht.ordered⟩
    | reference hr =>
      refine ⟨⟨?_, hp.head.shifts, hp.head.ordered⟩, nofun, hpassed⟩
      rintro r ⟨⟩
      cases hr
      · exact ht
      · exact ht
    | magnitude s start spaced n a => exact ⟨hp.head, hstarted, hpassed⟩
    | laterMagnitude s n a =>
      refine ⟨hp.head, ?_, hpassed⟩
      rintro n ⟨⟩
      exact ⟨ht.start, ht.ordered⟩
    | unit s start n spaced a hu =>
      obtain ⟨hstart, hle⟩ := hstarted start rfl
      have hterm : (⟨start, a.stop⟩ : Span).LiesIn cs place := ⟨hstart, ht.stop, hle⟩
      refine ⟨⟨hp.head.reference, ?_, ?_⟩, nofun, ?_⟩
      · exact List.forall_mem_append.mpr ⟨hp.head.shifts, List.forall_mem_singleton.mpr hterm⟩
      · refine List.pairwise_append.mpr ⟨hp.head.ordered, List.pairwise_singleton _ _, ?_⟩
        intro s hs t ht
        cases List.mem_singleton.mp ht
        exact Nat.le_trans (hp.head.shifts s hs).ordered (hpassed s hs)
      · exact List.forall_mem_append.mpr ⟨hpassed, List.forall_mem_singleton.mpr (Nat.le_refl _)⟩

/-- A run stays in the text if its tokens follow one another there, behind what has been read. -/
theorem staysIn_run {p : Progress} {pos : Nat} {ts : List (Located Token)}
    (hp : p.LiesIn cs place pos) (hts : FollowIn cs place pos ts) :
    StaysIn cs place (fun q => q.head.LiesIn cs place) (p.run ts) := by
  induction ts generalizing p pos with
  | nil => exact hp.head
  | cons t ts ih =>
    obtain ⟨hpos, ht, hts⟩ := hts
    exact (staysIn_step hp hpos ht).bind fun q hq => ih hq hts

end Progress

/-- The tokens of lexemes that follow one another do so too. -/
theorem staysIn_tokens {pos : Nat} {ls : List (Located Lexeme)} (h : FollowIn cs place pos ls) :
    StaysIn cs place (FollowIn cs place pos) (tokens ls) := by
  induction ls generalizing pos with
  | nil => trivial
  | cons l ls ih =>
    obtain ⟨l, span⟩ := l
    obtain ⟨hpos, hspan, hls⟩ := h
    rw [tokens]
    cases l.reading with
    | error fault => exact hspan
    | ok t => exact (ih hls).bind fun ts hts => ⟨hpos, hspan, hts⟩

/-- **Reading a head stays in its text.** -/
theorem staysIn_read (cs : List Char) (place : Nat) :
    StaysIn cs place (fun h => h.LiesIn cs place) (Head.read cs place) := by
  have hlexemes : FollowIn cs place place (locatedLexemes cs place) := by
    have hwidth : ∀ l : Lexeme, l.width = utf8Width l.text := fun _ => rfl
    have h := followIn_layOut hwidth place [] (lexemes cs)
    rw [lexemes_flatMap_text] at h
    exact h
  refine (staysIn_tokens hlexemes).bind fun ts hts => ?_
  refine (Progress.staysIn_run (Progress.liesIn_opening cs place) hts).bind fun p hp => ?_
  rw [Progress.close]
  split
  · exact hp
  · exact Span.liesIn_end cs place

end Head

namespace Placeholder

/-! ### Patterns -/

/-- **Reading a pattern stays in its text**, the bar in front of it included. -/
theorem staysIn_readPattern (raw : List Char) (place : Nat) :
    StaysIn ('|' :: raw) place (fun l => l.span.LiesIn ('|' :: raw) place)
      (readPattern raw (place + 1)) := by
  obtain ⟨trailing, hraw⟩ := leading_trim_trailing raw
  have hcs : ('|' :: leadingBlanks raw) ++ (trim raw ++ trailing) = '|' :: raw := by
    rw [List.cons_append, hraw]
  have hstart : place + 1 + utf8Width (leadingBlanks raw) =
      place + utf8Width ('|' :: leadingBlanks raw) := by
    rw [utf8Width_cons, ← Nat.add_assoc]
    rfl
  have hwhole : (⟨place, place + 1 + utf8Width raw⟩ : Span).LiesIn ('|' :: raw) place := by
    have h := Span.liesIn_whole ('|' :: raw) place
    rw [utf8Width_cons, ← Nat.add_assoc] at h
    exact h
  have htrim : ∀ as part bs, trim raw = as ++ (part ++ bs) →
      (⟨place + 1 + utf8Width (leadingBlanks raw) + utf8Width as,
        place + 1 + utf8Width (leadingBlanks raw) + utf8Width as + utf8Width part⟩ : Span).LiesIn
        ('|' :: raw) place := by
    intro as part bs h
    rw [← hcs, h, hstart]
    have hpart := Span.liesIn_part as part bs (place + utf8Width ('|' :: leadingBlanks raw))
    exact hpart.enclosed trailing
  rw [readPattern]
  simp only
  have hall := htrim [] (trim raw) [] (List.append_nil _).symm
  rw [utf8Width_nil, Nat.add_zero] at hall
  split
  · exact hwhole
  · split
    · exact hall
    · exact hall
  · split
    · exact hall
    · next c rest hd =>
      have hcut := List.takeWhile_append_dropWhile (p := (!needsQuotes ·)) (l := trim raw)
      rw [hd] at hcut
      have hc := htrim _ [c] rest hcut.symm
      rw [utf8Width_cons, utf8Width_nil, Nat.add_zero] at hc
      exact hc

/-! ### Placeholders -/

/-- Whether what a placeholder says lies in a text, and its shifts stand there in order. -/
structure LiesIn (p : Placeholder) (cs : List Char) (place : Nat) : Prop where
  reference : p.reference.span.LiesIn cs place
  shifts : ∀ s ∈ p.shifts, s.span.LiesIn cs place
  ordered : p.shifts.Pairwise fun s t => s.span.start ≤ t.span.stop
  pattern : ∀ l ∈ p.pattern, l.span.LiesIn cs place

/-- **Reading a placeholder stays in the text** that its interior is a part of. -/
theorem staysIn_read (as interior bs : List Char) {span : Span}
    (hspan : span.LiesIn (as ++ (interior ++ bs)) place) :
    StaysIn (as ++ (interior ++ bs)) place (fun p => p.LiesIn (as ++ (interior ++ bs)) place)
      (read interior (place + utf8Width as) span) := by
  -- the interior is blanks, the head, blanks, the bar with the pattern, and blanks again
  obtain ⟨trailing, hinterior⟩ := leading_trim_trailing interior
  rw [read]
  simp only
  generalize leadingBlanks interior = lead at hinterior ⊢
  generalize trim interior = content at hinterior ⊢
  have hcut := List.takeWhile_append_dropWhile (p := fun c => decide (c ≠ '|')) (l := content)
  have hbar : ∀ c raw, content.dropWhile (fun c => decide (c ≠ '|')) = c :: raw → c = '|' :=
    fun c raw h => by simpa using Piece.dropWhile_ne_head h
  generalize content.takeWhile (fun c => decide (c ≠ '|')) = front at hcut ⊢
  generalize content.dropWhile (fun c => decide (c ≠ '|')) = back at hcut hbar ⊢
  obtain ⟨gap, hgap⟩ := exists_trimEnd_append front
  generalize trimEnd front = head at hgap ⊢
  have hhead : StaysIn (as ++ (interior ++ bs)) place
      (fun h => h.LiesIn (as ++ (interior ++ bs)) place)
      (Head.read head (place + utf8Width as + utf8Width lead)) := by
    have htext : as ++ lead ++ (head ++ (gap ++ (back ++ (trailing ++ bs)))) =
        as ++ (interior ++ bs) := by
      rw [← hinterior, ← hcut, ← hgap]
      simp only [List.append_assoc]
    rw [← htext, Nat.add_assoc, ← utf8Width_append]
    exact (Head.staysIn_read head _).enclosed (fun h hh => hh.enclosed _) _
  refine hhead.bind fun h hh => ?_
  have href : (h.reference.getD ⟨.implicit, span⟩).span.LiesIn (as ++ (interior ++ bs)) place := by
    cases hr : h.reference with
    | none => exact hspan
    | some r => exact hh.reference r hr
  cases back with
  | nil =>
    refine ⟨href, hh.shifts, hh.ordered, ?_⟩
    rintro _ ⟨⟩
  | cons c raw =>
    obtain rfl : c = '|' := hbar c raw rfl
    have hpattern : StaysIn (as ++ (interior ++ bs)) place
        (fun l => l.span.LiesIn (as ++ (interior ++ bs)) place)
        (readPattern raw (place + utf8Width as + utf8Width lead + utf8Width front + 1)) := by
      have htext : as ++ lead ++ front ++ ('|' :: raw ++ (trailing ++ bs)) =
          as ++ (interior ++ bs) := by
        rw [← hinterior, ← hcut]
        simp only [List.append_assoc, List.cons_append]
      have hplace : place + utf8Width as + utf8Width lead + utf8Width front =
          place + utf8Width (as ++ lead ++ front) := by
        simp only [utf8Width_append, Nat.add_assoc]
      rw [← htext, hplace]
      exact (staysIn_readPattern raw _).enclosed (fun l hl => hl.enclosed _) _
    simp only
    cases hr : readPattern raw (place + utf8Width as + utf8Width lead + utf8Width front + 1) with
    | error e =>
      rw [hr] at hpattern
      exact hpattern
    | ok l =>
      rw [hr] at hpattern
      refine ⟨href, hh.shifts, hh.ordered, ?_⟩
      rintro _ ⟨⟩
      exact hpattern

/-- Wherever a placeholder stands, its interior has one fault, or says the same; only a reference
that is not written has the place of the placeholder. -/
theorem read_cases (interior : List Char) (offset : Nat) :
    (∃ e, ∀ span, read interior offset span = .error e) ∨
      ∃ (reference : Option (Located Reference)) (shifts : List (Located Shift))
        (pattern : Option (Located String)), ∀ span,
          read interior offset span = .ok ⟨reference.getD ⟨.implicit, span⟩, shifts, pattern⟩ := by
  simp only [read]
  cases Head.read (trimEnd ((trim interior).takeWhile fun c => decide (c ≠ '|')))
      (offset + utf8Width (leadingBlanks interior)) with
  | error e => exact .inl ⟨e, fun _ => rfl⟩
  | ok head =>
    cases (trim interior).dropWhile fun c => decide (c ≠ '|') with
    | nil => exact .inr ⟨head.reference, head.shifts, none, fun _ => rfl⟩
    | cons bar raw =>
      simp only
      cases readPattern raw (offset + utf8Width (leadingBlanks interior) +
          utf8Width ((trim interior).takeWhile fun c => decide (c ≠ '|')) + 1) with
      | error e => exact .inl ⟨e, fun _ => rfl⟩
      | ok l => exact .inr ⟨head.reference, head.shifts, some l, fun _ => rfl⟩

end Placeholder

namespace Segment

/-! ### Segments -/

/-- Whether what a segment says of its place lies in a text, and a placeholder takes all of it. -/
def LiesIn (cs : List Char) (place : Nat) : Segment → Prop
  | literal _ => True
  | placeholder p => p.span = ⟨place, place + utf8Width cs⟩ ∧ p.node.LiesIn cs place
  | malformed e => ∃ d, e = .malformed d ∧ d.span.LiesIn cs place

/-- **The segment of a piece lies in the text of the piece.** -/
theorem liesIn_ofPiece (p : Piece) (place : Nat) :
    (ofPiece ⟨p, place, place + p.width⟩).LiesIn p.text place := by
  cases p with
  | literal text => trivial
  | dollar => trivial
  | unterminated interior => exact ⟨_, rfl, Span.liesIn_whole _ place⟩
  | bare name =>
    have hname := Span.liesIn_part ['$'] name [] place
    rw [List.append_nil, Nat.add_assoc, ← utf8Width_append] at hname
    exact ⟨rfl, hname, nofun, .nil, nofun⟩
  | braced interior =>
    have hread : StaysIn (Piece.braced interior).text place
        (fun q => q.LiesIn (Piece.braced interior).text place)
        (Placeholder.read interior (place + 2) ⟨place, place + (Piece.braced interior).width⟩) :=
      Placeholder.staysIn_read ['$', '{'] interior ['}'] (Span.liesIn_whole _ place)
    simp only [ofPiece]
    cases hr : Placeholder.read interior (place + 2)
        ⟨place, place + (Piece.braced interior).width⟩ with
    | ok q =>
      rw [hr] at hread
      exact ⟨rfl, hread⟩
    | error d =>
      rw [hr] at hread
      exact ⟨d, rfl, hread⟩

/-- Whether each place that a segment gives starts in front of byte `stop`. -/
def StartsBefore (stop : Nat) : Segment → Prop
  | literal _ => True
  | placeholder p => p.node.reference.span.start < stop ∧
      (∀ s ∈ p.node.shifts, s.span.start < stop) ∧ ∀ l ∈ p.node.pattern, l.span.start < stop
  | malformed e => ∀ span ∈ e.span, span.start < stop

/-- **No place in a segment of a piece starts at the end of the piece**, if the piece is more than a
dollar sign. In front of the closing brace one may. -/
theorem startsBefore_ofPiece {p : Piece} (hp : p.text ≠ ['$']) (place : Nat) :
    (ofPiece ⟨p, place, place + p.width⟩).StartsBefore (place + p.width) := by
  cases p with
  | literal text => trivial
  | dollar => trivial
  | unterminated interior =>
    have hwidth : 0 < (Piece.unterminated interior).width :=
      Nat.lt_of_lt_of_le (Char.utf8Size_pos '$') (Nat.le_add_right _ _)
    rintro _ ⟨⟩
    exact Nat.lt_add_of_pos_right hwidth
  | bare name =>
    obtain ⟨c, cs, rfl⟩ := List.exists_cons_of_ne_nil fun hnil : name = [] => hp (by rw [hnil]; rfl)
    have hwidth : (Piece.bare (c :: cs)).width = 1 + (c.utf8Size + utf8Width cs) := rfl
    have hc := c.utf8Size_pos
    refine ⟨?_, nofun, nofun⟩
    show place + 1 < place + (Piece.bare (c :: cs)).width
    omega
  | braced interior =>
    -- all that is written lies in front of the brace
    have hfront : place + utf8Width ('$' :: '{' :: interior) <
        place + (Piece.braced interior).width := by
      have htext : (Piece.braced interior).text = '$' :: '{' :: interior ++ ['}'] := rfl
      have hbrace : 0 < utf8Width ['}'] := by decide
      rw [Piece.width, htext, utf8Width_append]
      omega
    have hbefore : ∀ s : Span, s.LiesIn ('$' :: '{' :: interior) place →
        s.start < place + (Piece.braced interior).width :=
      fun s hs => Nat.lt_of_le_of_lt hs.start.bounds.2 hfront
    have hread : StaysIn ('$' :: '{' :: interior) place
        (fun q : Placeholder => q.LiesIn ('$' :: '{' :: interior) place)
        (Placeholder.read interior (place + 2)
          ⟨place, place + utf8Width ('$' :: '{' :: interior)⟩) := by
      have h := Placeholder.staysIn_read ['$', '{'] interior []
        (Span.liesIn_whole (['$', '{'] ++ (interior ++ [])) place)
      rwa [List.append_nil] at h
    simp only [ofPiece]
    rcases Placeholder.read_cases interior (place + 2) with
      ⟨d, hparts⟩ | ⟨reference, shifts, pattern, hparts⟩
    · rw [hparts] at hread ⊢
      rintro _ ⟨⟩
      exact hbefore d.span hread
    · rw [hparts] at hread ⊢
      refine ⟨?_, fun s hs => hbefore _ (hread.shifts s hs),
        fun l hl => hbefore _ (hread.pattern l hl)⟩
      cases reference with
      | none => exact Nat.lt_of_le_of_lt (Nat.le_add_right _ _) hfront
      | some r => exact hbefore _ hread.reference

end Segment

end PathTemplate
