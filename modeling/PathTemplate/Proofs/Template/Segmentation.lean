/-
# Templates are cut without loss

The segments of a template come from its text part by part: each part reads as
one segment, the parts follow one another without a gap, and together they are
the text. Literal text is its part, and no placeholder starts in it; a
placeholder knows the place of its part, which is a name behind a dollar sign or
runs from `${` through the next closing brace. So does the part of a placeholder
that cannot be read, unless no brace closes it and it runs to the end. What
stands before and behind a part that is not literal reads as it does alone.

So a fault takes nothing from the text around it. A text in which no placeholder
starts is a single literal segment, and is rendered as it stands.

Key definitions: `opensPlaceholder`, `StartsNone`, `RunsToBrace`, `Segment.Reaches`, `IsCutInto`,
`IsReadAlone`.
Key theorems: `Segment.ofPiece_cases`, `IsCutInto.cons`, `IsCutInto.join`, `exists_isCutInto`,
`exists_piece_of_segment`, `segmentsFrom_of_startsNone`, `Template.parse_lossless`.
-/
import Mathlib.Data.List.Forall2
import Mathlib.Data.List.Infix
import PathTemplate.Proofs.Render.Cursor
import PathTemplate.Proofs.Template.Seam

namespace PathTemplate

/-! ### How far a part reaches -/

/-- Whether a text begins with a dollar sign that starts a placeholder. -/
def opensPlaceholder : List Char → Bool
  | '$' :: c :: _ => Piece.opens c
  | _ => false

/-- Whether no placeholder starts in a text, where `back` follows it. -/
def StartsNone (part back : List Char) : Prop :=
  ∀ rest, rest <:+ part → rest ≠ [] → opensPlaceholder (rest ++ back) = false

/-- Whether a text is a dollar sign with all the word characters behind it. -/
def IsBareName (part back : List Char) : Prop :=
  ∃ name, part = '$' :: name ∧ name ≠ [] ∧ (∀ c ∈ name, isWordChar c = true) ∧
    StopsAt isWordChar back

/-- Whether a text runs from `${` through the next closing brace, or, when none closes it, to the
end: then nothing is left behind it. -/
def RunsToBrace (part back : List Char) : Prop :=
  ∃ interior, '}' ∉ interior ∧
    (part = '$' :: '{' :: (interior ++ ['}']) ∨ part = '$' :: '{' :: interior ∧ back = [])

namespace Segment

/-- Whether a segment is literal text. -/
def isLiteral : Segment → Bool
  | literal _ => true
  | _ => false

/-- Whether the part of a text that a segment was read from ends where it should. -/
def Reaches (part back : List Char) : Segment → Prop
  | literal _ => StartsNone part back
  | placeholder _ => IsBareName part back ∨ RunsToBrace part back
  | malformed _ => RunsToBrace part back

/-- What a segment keeps of the part of the text that it was read from. -/
def IsReadFrom (part : Located (List Char)) : Segment → Prop
  | literal text => text.toList = part.node
  | placeholder p => p.span = part.span
  | malformed e => (∃ d, e = .malformed d) ∧ ∃ rest, part.node = '$' :: '{' :: rest

end Segment

/-- A cut of the text `cs`, which starts at byte `place`, into parts that read as the segments. -/
structure IsCutInto (place : Nat) (cs : List Char) (parts : List (List Char)) (ss : List Segment) :
    Prop where
  /-- The parts make up the text. -/
  covers : parts.flatten = cs
  /-- No part is empty. -/
  nonempty : ∀ part ∈ parts, part ≠ []
  /-- Each part, at its place, reads as one segment. -/
  reads : List.Forall₂ Segment.IsReadFrom (layOut utf8Width place parts) ss
  /-- No two literal segments stand side by side. -/
  merged : ss.IsChain fun s t => ¬(s.isLiteral = true ∧ t.isLiteral = true)
  /-- Each part ends where it should, and the text on either side of one that is not literal reads
  as it does alone. -/
  reaches : ∀ before s after, ss = before ++ s :: after →
    ∃ front part back, parts = front ++ part :: back ∧ front.length = before.length ∧
      s.Reaches part back.flatten ∧
      (s.isLiteral = false → before = segmentsFrom place front.flatten ∧
        after = segmentsFrom (place + utf8Width (front.flatten ++ part)) back.flatten)

/-! ### A piece and its segment -/

/-- Literal text without dollar signs starts no placeholder. -/
theorem startsNone_of_forall_ne_dollar {cs : List Char} (h : ∀ c ∈ cs, decide (c ≠ '$') = true)
    (back : List Char) : StartsNone cs back := by
  intro rest hrest hne
  obtain ⟨c, more, rfl⟩ := List.exists_cons_of_ne_nil hne
  have hc : c ≠ '$' := of_decide_eq_true (h c (hrest.subset List.mem_cons_self))
  unfold opensPlaceholder
  split
  · next heq => exact absurd (List.cons.inj heq).1 hc
  · rfl

/-- Nor does a dollar sign alone. -/
theorem startsNone_dollar {back : List Char} (h : StopsAt Piece.opens back) :
    StartsNone ['$'] back := by
  intro rest hrest hne
  rcases List.suffix_cons_iff.mp hrest with rfl | hnil
  · cases back with
    | nil => rfl
    | cons c back => exact stopsAt_cons.mp h
  · exact absurd (List.suffix_nil.mp hnil) hne

/-- Text in which no placeholder starts may stand in front of more of it. -/
theorem StartsNone.append {as bs back : List Char} (ha : StartsNone as (bs ++ back))
    (hb : StartsNone bs back) : StartsNone (as ++ bs) back := by
  intro rest hrest hne
  obtain ⟨lead, hlead⟩ := hrest
  rcases List.append_eq_append_iff.mp hlead with ⟨front, has, rfl⟩ | ⟨more, -, hbs⟩
  · by_cases hnil : front = []
    · subst hnil
      exact hb bs List.suffix_rfl hne
    · rw [List.append_assoc]
      exact ha front ⟨lead, has.symm⟩ hnil
  · exact hb rest ⟨more, hbs.symm⟩ hne

/-- **What a piece reads as**: literal text, a placeholder at its place, or a fault. -/
theorem Segment.ofPiece_cases {p : Piece} {rest : List Char} (hp : p.IsShaped)
    (he : p.EndsBefore rest) (span : Span) :
    (∃ text, ofPiece ⟨p, span⟩ = literal text ∧ text.toList = p.text ∧ StartsNone p.text rest) ∨
      (∃ q, ofPiece ⟨p, span⟩ = placeholder ⟨q, span⟩ ∧
        (IsBareName p.text rest ∨ RunsToBrace p.text rest)) ∨
      ∃ d, ofPiece ⟨p, span⟩ = malformed (.malformed d) ∧ RunsToBrace p.text rest := by
  cases p with
  | literal text =>
    exact .inl ⟨_, rfl, String.toList_ofList, startsNone_of_forall_ne_dollar hp.2 rest⟩
  | dollar => exact .inl ⟨_, rfl, rfl, startsNone_dollar he⟩
  | unterminated interior =>
    exact .inr (.inr ⟨_, rfl, interior, forall_ne_iff.mp hp, .inr ⟨rfl, he⟩⟩)
  | bare name => exact .inr (.inl ⟨_, rfl, .inl ⟨name, rfl, hp.1, hp.2, he⟩⟩)
  | braced interior =>
    have hrun : RunsToBrace (Piece.braced interior).text rest :=
      ⟨interior, forall_ne_iff.mp hp, .inl rfl⟩
    right
    cases hread : Placeholder.read interior (span.start + 2) span with
    | ok q =>
      refine .inl ⟨q, ?_, .inr hrun⟩
      simp only [ofPiece, hread]
    | error d =>
      refine .inr ⟨d, ?_, hrun⟩
      simp only [ofPiece, hread]

theorem Segment.reaches_ofPiece {p : Piece} {rest : List Char} (hp : p.IsShaped)
    (he : p.EndsBefore rest) (span : Span) : (ofPiece ⟨p, span⟩).Reaches p.text rest := by
  rcases ofPiece_cases hp he span with ⟨text, h, -, hr⟩ | ⟨q, h, hr⟩ | ⟨d, h, hr⟩
  · rw [h]
    exact hr
  · rw [h]
    exact hr
  · rw [h]
    exact hr

theorem Segment.isReadFrom_ofPiece {p : Piece} {rest : List Char} (hp : p.IsShaped)
    (he : p.EndsBefore rest) (span : Span) : (ofPiece ⟨p, span⟩).IsReadFrom ⟨p.text, span⟩ := by
  rcases ofPiece_cases hp he span with ⟨text, h, ht, -⟩ | ⟨q, h, -⟩ | ⟨d, h, hr⟩
  · rw [h]
    exact ht
  · rw [h]
    rfl
  · rw [h]
    obtain ⟨interior, -, hpart | ⟨hpart, -⟩⟩ := hr
    · exact ⟨⟨d, rfl⟩, _, hpart⟩
    · exact ⟨⟨d, rfl⟩, _, hpart⟩

/-! ### One more piece in front -/

theorem Segment.exists_literal_of_isLiteral {s : Segment} (h : s.isLiteral = true) :
    ∃ text, s = literal text := by
  cases s with
  | literal text => exact ⟨text, rfl⟩
  | placeholder | malformed => cases h

/-- A segment stays apart unless it is literal text in front of literal text. -/
theorem Segment.joinTo_of_not {s : Segment} {ss : List Segment}
    (h : ¬(s.isLiteral = true ∧ ∃ t ∈ ss.head?, t.isLiteral = true)) : s.joinTo ss = s :: ss := by
  cases s with
  | placeholder => rfl
  | malformed => rfl
  | literal a =>
    cases ss with
    | nil => rfl
    | cons t ts =>
      cases t with
      | literal b => exact absurd ⟨rfl, _, rfl, rfl⟩ h
      | placeholder => rfl
      | malformed => rfl

/-- What stays apart in front of some segments does so in front of the first of them. -/
theorem Segment.joinTo_of_not_append {s : Segment} {ss us : List Segment}
    (h : ¬(s.isLiteral = true ∧ ∃ t ∈ (ss ++ us).head?, t.isLiteral = true)) :
    s.joinTo ss = s :: ss := by
  refine joinTo_of_not fun hst => h ⟨hst.1, ?_⟩
  obtain ⟨t, ht, hlit⟩ := hst.2
  refine ⟨t, ?_, hlit⟩
  rw [List.head?_append, Option.mem_def.mp ht]
  rfl

/-- A segment that is not literal text is the one put in front, or has been there before. -/
theorem Segment.joinTo_eq_append {s t : Segment} {ss before after : List Segment}
    (hs : s.isLiteral = false) (h : t.joinTo ss = before ++ s :: after) :
    (before = [] ∧ t = s ∧ ss = after) ∨
      ∃ front, ss = front ++ s :: after ∧ t.joinTo front = before := by
  by_cases hjoin : t.isLiteral = true ∧ ∃ u ∈ ss.head?, u.isLiteral = true
  · obtain ⟨ht, u, hu, hulit⟩ := hjoin
    obtain ⟨a, rfl⟩ := exists_literal_of_isLiteral ht
    obtain ⟨b, rfl⟩ := exists_literal_of_isLiteral hulit
    obtain ⟨rest, rfl⟩ := List.head?_eq_some_iff.mp hu
    rcases List.cons_eq_append_iff.mp h with ⟨-, hcut⟩ | ⟨front, hbefore, hrest⟩
    · rw [(List.cons.inj hcut).1] at hs
      cases hs
    · refine .inr ⟨literal b :: front, ?_, hbefore.symm⟩
      rw [hrest, List.cons_append]
  · rw [joinTo_of_not hjoin] at h
    rcases List.cons_eq_append_iff.mp h with ⟨hbefore, hcut⟩ | ⟨front, hbefore, hrest⟩
    · obtain ⟨hst, hss⟩ := List.cons.inj hcut
      exact .inl ⟨hbefore, hst.symm, hss.symm⟩
    · rw [hrest] at hjoin
      exact .inr ⟨front, hrest, hbefore ▸ joinTo_of_not_append hjoin⟩

variable {place : Nat} {p : Piece} {rest : List Char} {parts : List (List Char)}

/-- A piece and the parts up to some other part read alone as they do in front of that part. -/
theorem segmentsFrom_text_flatten (place : Nat) (hp : p.IsShaped) (he : p.EndsBefore rest)
    (hcover : parts.flatten = rest) (hne : ∀ part ∈ parts, part ≠ [])
    {front back : List (List Char)} {part : List Char} (hparts : parts = front ++ part :: back) :
    segmentsFrom place (p.text ++ front.flatten) =
      (Segment.ofPiece ⟨p, place, place + p.width⟩).joinTo
        (segmentsFrom (place + p.width) front.flatten) := by
  have hback : (part :: back).flatten ≠ [] := by
    have hpart : part ≠ [] := hne part (by simp [hparts])
    simp [hpart]
  have hrest : front.flatten ++ (part :: back).flatten = rest := by
    rw [← hcover, hparts, List.flatten_append]
  exact segmentsFrom_text_append hp (Piece.EndsBefore.of_append (hrest ▸ he) hback) place

/-- A piece that does not join the segment behind it is a part of its own. -/
theorem IsCutInto.cons {s : Segment} (hp : p.IsShaped) (he : p.EndsBefore rest)
    (hs : Segment.ofPiece ⟨p, place, place + p.width⟩ = s)
    (h : IsCutInto (place + p.width) rest parts (segmentsFrom (place + p.width) rest))
    (hnot : ¬(s.isLiteral = true ∧
      ∃ t ∈ (segmentsFrom (place + p.width) rest).head?, t.isLiteral = true)) :
    IsCutInto place (p.text ++ rest) (p.text :: parts)
      (s :: segmentsFrom (place + p.width) rest) := by
  have hread : s.IsReadFrom ⟨p.text, place, place + p.width⟩ :=
    hs ▸ Segment.isReadFrom_ofPiece hp he _
  have hreach : s.Reaches p.text rest := hs ▸ Segment.reaches_ofPiece hp he _
  refine ⟨?_, ?_, List.Forall₂.cons hread h.reads, ?_, ?_⟩
  · rw [List.flatten_cons, h.covers]
  · exact List.forall_mem_cons.mpr ⟨hp.text_ne_nil, h.nonempty⟩
  · have hmerged := h.merged
    cases hss : segmentsFrom (place + p.width) rest with
    | nil => exact .singleton s
    | cons t ts =>
      rw [hss] at hnot hmerged
      exact .cons_cons (fun hst => hnot ⟨hst.1, t, rfl, hst.2⟩) hmerged
  · intro before u after hcut
    rcases List.cons_eq_append_iff.mp hcut with ⟨rfl, htail⟩ | ⟨before, rfl, htail⟩
    · -- the segment is the one of the piece
      obtain ⟨rfl, rfl⟩ := List.cons.inj htail
      refine ⟨[], p.text, parts, rfl, rfl, ?_, fun _ => ⟨(segmentsFrom_nil place).symm, ?_⟩⟩
      · rw [h.covers]
        exact hreach
      · rw [h.covers]
        rfl
    · obtain ⟨front, part, back, hparts, hlen, hreach, halone⟩ := h.reaches _ _ _ htail
      refine ⟨p.text :: front, part, back, ?_, ?_, hreach, fun hu => ?_⟩
      · rw [hparts, List.cons_append]
      · rw [List.length_cons, List.length_cons, hlen]
      · obtain ⟨hbefore, hafter⟩ := halone hu
        constructor
        · have hfront := segmentsFrom_text_flatten place hp he h.covers h.nonempty hparts
          rw [List.flatten_cons, hfront, ← hbefore, hs]
          rw [htail] at hnot
          exact (Segment.joinTo_of_not_append hnot).symm
        · rw [hafter, List.flatten_cons, List.append_assoc, utf8Width_append p.text,
            ← Nat.add_assoc]
          rfl

/-- Literal text in front of literal text makes one part with it. -/
theorem IsCutInto.join {a b : String} {ss : List Segment} (hp : p.IsShaped)
    (he : p.EndsBefore rest)
    (hs : Segment.ofPiece ⟨p, place, place + p.width⟩ = .literal a) (ha : a.toList = p.text)
    (h : IsCutInto (place + p.width) rest parts (.literal b :: ss)) :
    ∃ parts', IsCutInto place (p.text ++ rest) parts' (.literal (a ++ b) :: ss) := by
  have hnone : StartsNone p.text rest := by
    have hreach := Segment.reaches_ofPiece hp he ⟨place, place + p.width⟩
    rw [hs] at hreach
    exact hreach
  cases parts with
  | nil => cases h.reads
  | cons part parts =>
    obtain ⟨hb, hreads⟩ := List.forall₂_cons.mp h.reads
    have hb : b.toList = part := hb
    have hwidth : place + utf8Width (p.text ++ part) = place + p.width + utf8Width part := by
      rw [utf8Width_append, ← Nat.add_assoc]
      rfl
    refine ⟨(p.text ++ part) :: parts, ?_, ?_, ?_, ?_, ?_⟩
    · rw [List.flatten_cons, List.append_assoc, ← List.flatten_cons, h.covers]
    · obtain ⟨-, hne⟩ := List.forall_mem_cons.mp h.nonempty
      exact List.forall_mem_cons.mpr
        ⟨List.append_ne_nil_of_left_ne_nil hp.text_ne_nil part, hne⟩
    · refine List.Forall₂.cons ?_ (hwidth ▸ hreads)
      show (a ++ b).toList = p.text ++ part
      rw [String.toList_append, ha, hb]
    · have hmerged := h.merged
      cases ss with
      | nil => exact .singleton _
      | cons t ts =>
        obtain ⟨hbt, hts⟩ := List.isChain_cons_cons.mp hmerged
        exact .cons_cons hbt hts
    · intro before u after hcut
      rcases List.cons_eq_append_iff.mp hcut with ⟨rfl, htail⟩ | ⟨before, rfl, htail⟩
      · -- the joined text reaches as far as the text behind did
        obtain ⟨rfl, rfl⟩ := List.cons.inj htail
        obtain ⟨front, part', back, hparts, hlen, hreach, -⟩ := h.reaches [] _ _ rfl
        obtain rfl : front = [] := List.length_eq_zero_iff.mp hlen
        obtain ⟨rfl, rfl⟩ : part = part' ∧ parts = back := List.cons.inj hparts
        refine ⟨[], p.text ++ part, parts, rfl, rfl, ?_, nofun⟩
        have hrest : part ++ parts.flatten = rest := h.covers
        exact StartsNone.append (hrest ▸ hnone) hreach
      · have hmore := h.reaches (.literal b :: before) u after (by rw [htail, List.cons_append])
        obtain ⟨front, part', back, hparts, hlen, hreach, halone⟩ := hmore
        cases front with
        | nil => cases hlen
        | cons part₀ front =>
          obtain rfl : part = part₀ := (List.cons.inj hparts).1
          have hparts' : parts = front ++ part' :: back := (List.cons.inj hparts).2
          refine ⟨(p.text ++ part) :: front, part', back, ?_, hlen, hreach, fun hu => ?_⟩
          · rw [hparts', List.cons_append]
          · obtain ⟨hbefore, hafter⟩ := halone hu
            constructor
            · have hfront := segmentsFrom_text_flatten place hp he h.covers h.nonempty hparts
              rw [List.flatten_cons, List.append_assoc, ← List.flatten_cons, hfront, ← hbefore, hs]
              rfl
            · rw [hafter]
              congr 1
              simp only [List.flatten_cons, utf8Width_append, Piece.width]
              omega

/-- **Every text is cut into parts that read as its segments.** -/
theorem exists_isCutInto (place : Nat) (cs : List Char) :
    ∃ parts, IsCutInto place cs parts (segmentsFrom place cs) := by
  by_cases hne : cs = []
  · subst hne
    rw [segmentsFrom_nil]
    exact ⟨[], rfl, nofun, .nil, .nil, fun before s after h => by simp at h⟩
  obtain ⟨p, rest, rfl, hp, he, hlt⟩ := exists_text_append_of_ne_nil hne
  obtain ⟨parts, h⟩ := exists_isCutInto (place + p.width) rest
  rw [segmentsFrom_text_append hp he]
  by_cases hjoin : (Segment.ofPiece ⟨p, place, place + p.width⟩).isLiteral = true ∧
      ∃ t ∈ (segmentsFrom (place + p.width) rest).head?, t.isLiteral = true
  · obtain ⟨hlit, t, ht, htlit⟩ := hjoin
    rcases Segment.ofPiece_cases hp he ⟨place, place + p.width⟩ with
      ⟨a, hs, ha, -⟩ | ⟨_, hs, -⟩ | ⟨_, hs, -⟩
    · cases hss : segmentsFrom (place + p.width) rest with
      | nil => simp [hss] at ht
      | cons u us =>
        rw [hss] at ht h
        obtain rfl : u = t := Option.some.inj ht
        cases u with
        | literal b =>
          rw [hs]
          exact h.join hp he hs ha
        | placeholder => cases htlit
        | malformed => cases htlit
    · rw [hs] at hlit
      cases hlit
    · rw [hs] at hlit
      cases hlit
  · rw [Segment.joinTo_of_not hjoin]
    exact ⟨_, h.cons hp he rfl hjoin⟩
termination_by cs.length

/-! ### A segment by itself -/

theorem segmentsFrom_text (hp : p.IsShaped) (place : Nat) :
    segmentsFrom place p.text = [Segment.ofPiece ⟨p, place, place + p.width⟩] := by
  have h := segmentsFrom_text_append hp p.endsBefore_nil place
  rw [List.append_nil, segmentsFrom_nil] at h
  rw [h]
  exact Segment.joinTo_of_not fun hst => by simp at hst

/-- Whether the segment `s` comes from `part` alone, and the segments on either side of it come from
what is on either side of `part`. -/
structure IsReadAlone (place : Nat) (front part back : List Char) (before : List Segment)
    (s : Segment) (after : List Segment) : Prop where
  before : segmentsFrom place front = before
  itself : segmentsFrom (place + utf8Width front) part = [s]
  after : segmentsFrom (place + utf8Width (front ++ part)) back = after
  reaches : s.Reaches part back

/-- **A segment that is not literal text comes from one piece**, and the others from what is on
either side of it. -/
theorem exists_piece_of_segment {cs : List Char} {before after : List Segment} {s : Segment}
    (place : Nat) (hs : s.isLiteral = false) (hcut : segmentsFrom place cs = before ++ s :: after) :
    ∃ front p back, cs = front ++ (Piece.text p ++ back) ∧ p.IsShaped ∧
      Segment.ofPiece ⟨p, place + utf8Width front, place + utf8Width front + p.width⟩ = s ∧
      IsReadAlone place front p.text back before s after := by
  by_cases hne : cs = []
  · subst hne
    rw [segmentsFrom_nil] at hcut
    simp at hcut
  obtain ⟨p, rest, rfl, hp, he, hlt⟩ := exists_text_append_of_ne_nil hne
  rw [segmentsFrom_text_append hp he] at hcut
  rcases Segment.joinTo_eq_append hs hcut with ⟨rfl, rfl, hafter⟩ | ⟨before', hrest, hbefore⟩
  · exact ⟨[], p, rest, rfl, hp, rfl, segmentsFrom_nil place, segmentsFrom_text hp place, hafter,
      Segment.reaches_ofPiece hp he _⟩
  · obtain ⟨front, q, back, rfl, hshape, hq, halone⟩ :=
      exists_piece_of_segment (place + p.width) hs hrest
    have hwidth : ∀ more, place + utf8Width (p.text ++ more) =
        place + p.width + utf8Width more := fun more => by
      rw [utf8Width_append, ← Nat.add_assoc]
      rfl
    have hback : q.text ++ back ≠ [] := by
      intro hnil
      have hself := halone.itself
      rw [(List.append_eq_nil_iff.mp hnil).1, segmentsFrom_nil] at hself
      cases hself
    refine ⟨p.text ++ front, q, back, ?_, hshape, ?_, ?_, ?_, ?_, halone.reaches⟩
    · rw [List.append_assoc]
    · rw [hwidth]
      exact hq
    · rw [segmentsFrom_text_append hp (he.of_append hback), halone.before, hbefore]
    · rw [hwidth]
      exact halone.itself
    · rw [List.append_assoc, hwidth]
      exact halone.after
termination_by cs.length

/-! ### Texts without placeholders -/

theorem opensPlaceholder_append {cs : List Char} (h : opensPlaceholder cs = true)
    (more : List Char) : opensPlaceholder (cs ++ more) = true := by
  unfold opensPlaceholder at h
  split at h
  · exact h
  · cases h

theorem IsBareName.opensPlaceholder_eq {part back : List Char} (h : IsBareName part back) :
    opensPlaceholder part = true := by
  obtain ⟨name, rfl, hne, hname, -⟩ := h
  obtain ⟨c, more, rfl⟩ := List.exists_cons_of_ne_nil hne
  show (isWordChar c || c == '{') = true
  rw [hname c List.mem_cons_self, Bool.true_or]

theorem RunsToBrace.opensPlaceholder_eq {part back : List Char} (h : RunsToBrace part back) :
    opensPlaceholder part = true := by
  obtain ⟨interior, -, rfl | ⟨rfl, -⟩⟩ := h
  · rfl
  · rfl

/-- A text in which no placeholder starts is one literal segment. -/
theorem segmentsFrom_of_startsNone (place : Nat) {cs : List Char} (hne : cs ≠ [])
    (hnone : StartsNone cs []) : segmentsFrom place cs = [.literal (String.ofList cs)] := by
  obtain ⟨p, rest, rfl, hp, he, hlt⟩ := exists_text_append_of_ne_nil hne
  have hopens : opensPlaceholder p.text ≠ true := by
    intro h
    have hfalse := hnone (p.text ++ rest) List.suffix_rfl hne
    rw [List.append_nil, opensPlaceholder_append h rest] at hfalse
    cases hfalse
  rw [segmentsFrom_text_append hp he]
  rcases Segment.ofPiece_cases hp he ⟨place, place + p.width⟩ with
    ⟨text, hs, ht, -⟩ | ⟨_, -, hname | hrun⟩ | ⟨_, -, hrun⟩
  · have htext : String.ofList p.text = text := by rw [← ht, String.ofList_toList]
    by_cases hrest : rest = []
    · subst hrest
      rw [hs, segmentsFrom_nil, List.append_nil, htext]
      rfl
    · have ih := segmentsFrom_of_startsNone (place + p.width) hrest fun more hmore =>
        hnone more (hmore.trans (List.suffix_append p.text rest))
      rw [hs, ih, String.ofList_append, htext]
      rfl
  · exact absurd hname.opensPlaceholder_eq hopens
  · exact absurd hrun.opensPlaceholder_eq hopens
  · exact absurd hrun.opensPlaceholder_eq hopens
termination_by cs.length

/-- **Templates are cut without loss.** The source is cut into parts that follow one another and
are not empty, each of which reads as one segment; a placeholder that cannot be read takes no more
than the text through the next closing brace, and what is on either side of it reads as it does
alone. A source in which no dollar sign starts a placeholder comes back unchanged. -/
theorem Template.parse_lossless (source : String) :
    (∃ parts, IsCutInto 0 source.toList parts (Template.parse source).segments) ∧
      (StartsNone source.toList [] →
        ∀ c, format source c = .ok source ∧
          (Template.parse source).renderLossy c = some source) := by
  refine ⟨exists_isCutInto 0 source.toList, fun hnone c => ?_⟩
  have hsegments :
      (Template.parse source).segments = if source = "" then [] else [.literal source] := by
    split
    · next h =>
      rw [segments_parse, h]
      exact segmentsFrom_nil 0
    · next h =>
      have hne : source.toList ≠ [] := fun hnil => h (String.toList_eq_nil_iff.mp hnil)
      rw [segments_parse, segmentsFrom_of_startsNone 0 hne hnone, String.ofList_toList]
  rw [format, Template.render, Template.renderLossy, hsegments]
  split
  · next h =>
    rw [h]
    exact ⟨rfl, rfl⟩
  · constructor
    · show Except.ok (source ++ "") = .ok source
      rw [String.append_empty]
    · show some (source ++ "") = some source
      rw [String.append_empty]

/-- A price and a dollar sign at the end start nothing. -/
theorem Template.parse_lossless_price :
    StartsNone "5 $, é$".toList [] ∧
      format "5 $, é$" (Context.ofValues []) = .ok "5 $, é$" := by
  have htails : ∀ rest ∈ "5 $, é$".toList.tails, opensPlaceholder (rest ++ []) = false := by decide
  have hnone : StartsNone "5 $, é$".toList [] :=
    fun rest h _ => htails rest ((List.mem_tails rest _).mpr h)
  exact ⟨hnone, ((Template.parse_lossless "5 $, é$").2 hnone _).1⟩

end PathTemplate
