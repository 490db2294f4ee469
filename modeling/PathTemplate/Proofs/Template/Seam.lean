/-
# Templates one behind the other

Two texts meet cleanly when the last piece of the first ends there: it is no
placeholder that still wants its brace, no name that the second goes on with,
and no dollar sign that the second makes a placeholder of. The text that they
make up together then reads as the segments of the first and those of the
second, moved right by the bytes of the first; literal text on both sides of
the seam becomes one segment.

Key definitions: `MeetCleanly`, `Segment.relocate`, `segmentsFrom`.
Key theorems: `segmentsFrom_add`, `segmentsFrom_append`, `segments_parse_append`.
-/
import PathTemplate.Proofs.Placeholder.Places
import PathTemplate.Proofs.Template.Pieces
import PathTemplate.Template

namespace PathTemplate

/-- Whether a piece ends where `rest` follows it. Literal text may go on. -/
def Piece.Meets (rest : List Char) : Piece → Prop
  | literal _ | braced _ => True
  | unterminated _ => False
  | bare _ => StopsAt isWordChar rest
  | dollar => StopsAt opens rest

/-- Whether no placeholder reaches from a text into the text behind it. -/
def MeetCleanly (as bs : List Char) : Prop := ∀ p ∈ (pieces as).getLast?, p.Meets bs

/-! ### Segments at other places -/

/-- A segment at other places. -/
def Segment.relocate (f : Span → Span) : Segment → Segment
  | literal text => literal text
  | placeholder p => placeholder ⟨p.node.relocate f, f p.span⟩
  | malformed e => malformed (e.relocate f)

theorem Segment.ofPiece_move (k : Nat) (p : Located Piece) :
    ofPiece (p.relocate (moveBy k)) = (ofPiece p).relocate (moveBy k) := by
  obtain ⟨piece, span⟩ := p
  cases piece with
  | literal text => rfl
  | dollar => rfl
  | unterminated interior => rfl
  | bare name =>
    simp [ofPiece, Segment.relocate, Located.relocate, Placeholder.ofName, Placeholder.relocate,
      moveBy, Span.shift, Nat.add_right_comm]
  | braced interior =>
    have hread := Placeholder.read_add interior (span.start + 2) k span
    rw [Nat.add_right_comm] at hread
    simp only [ofPiece, Located.relocate, moveBy, Span.shift] at hread ⊢
    rw [hread]
    cases Placeholder.read interior (span.start + 2) span <;> rfl

theorem Segment.joinTo_relocate (f : Span → Span) (s : Segment) (ss : List Segment) :
    (s.relocate f).joinTo (ss.map (Segment.relocate f)) =
      (s.joinTo ss).map (Segment.relocate f) := by
  cases s with
  | placeholder => rfl
  | malformed => rfl
  | literal a =>
    cases ss with
    | nil => rfl
    | cons u us => cases u <;> rfl

/-! ### Joining literal text -/

/-- Literal text joins the text behind it piece by piece. -/
theorem Segment.joinTo_joinTo (a b : String) (ss : List Segment) :
    (literal a).joinTo ((literal b).joinTo ss) = (literal (a ++ b)).joinTo ss := by
  cases ss with
  | nil => rfl
  | cons s ss =>
    cases s with
    | literal c => simp [joinTo, String.append_assoc]
    | placeholder => rfl
    | malformed => rfl

/-- A segment joins what other segments were joined to as it joins these segments. -/
theorem Segment.foldr_joinTo (s : Segment) (ss us : List Segment) :
    (s.joinTo ss).foldr joinTo us = s.joinTo (ss.foldr joinTo us) := by
  cases s with
  | placeholder => rfl
  | malformed => rfl
  | literal a =>
    cases ss with
    | nil => rfl
    | cons u ss =>
      cases u with
      | literal b => exact (joinTo_joinTo a b _).symm
      | placeholder => rfl
      | malformed => rfl

/-! ### The segments of a text -/

/-- The segments of a text that starts at byte `place`. -/
def segmentsFrom (place : Nat) (cs : List Char) : List Segment :=
  (layOut Piece.width place (pieces cs)).foldr (fun p rest => (Segment.ofPiece p).joinTo rest) []

theorem segments_parse (source : String) :
    (Template.parse source).segments = segmentsFrom 0 source.toList := rfl

theorem segmentsFrom_nil (place : Nat) : segmentsFrom place [] = [] := by
  simp [segmentsFrom, pieces, layOut]

theorem segmentsFrom_text_append {p : Piece} {rest : List Char} (hp : p.IsShaped)
    (he : p.EndsBefore rest) (place : Nat) : segmentsFrom place (p.text ++ rest) =
      (Segment.ofPiece ⟨p, place, place + p.width⟩).joinTo
        (segmentsFrom (place + p.width) rest) := by
  rw [segmentsFrom, pieces_text_append hp he]
  rfl

/-- **The segments of a text that starts `k` bytes further on** are the same, `k` bytes further
right. -/
theorem segmentsFrom_add (place k : Nat) (cs : List Char) : segmentsFrom (place + k) cs =
    (segmentsFrom place cs).map (Segment.relocate (moveBy k)) := by
  rw [segmentsFrom, segmentsFrom, layOut_add]
  induction layOut Piece.width place (pieces cs) with
  | nil => rfl
  | cons p ps ih =>
    simp only [List.map_cons, List.foldr_cons] at ih ⊢
    rw [ih, Segment.ofPiece_move, Segment.joinTo_relocate]

/-- Literal text that goes on reads as one segment. -/
theorem segmentsFrom_literal {text cs : List Char} (ht : (Piece.literal text).IsShaped)
    (place : Nat) : segmentsFrom place (text ++ cs) =
      (Segment.literal (String.ofList text)).joinTo (segmentsFrom (place + utf8Width text) cs) := by
  cases cs with
  | nil => exact segmentsFrom_text_append (p := .literal text) ht (show StopsAt _ [] from nofun) place
  | cons c cs =>
    by_cases hc : c = '$'
    · exact segmentsFrom_text_append (p := .literal text) ht
        (stopsAt_cons.mpr (decide_eq_false (not_not_intro hc))) place
    · -- the text behind begins with literal text too, and both make up one piece
      obtain ⟨p, rest, hcs, hshape, hends, -⟩ := exists_text_append_of_ne_nil (List.cons_ne_nil c cs)
      cases p with
      | literal more =>
        have hboth : (Piece.literal (text ++ more)).IsShaped :=
          ⟨fun h => ht.1 (List.append_eq_nil_iff.mp h).1,
            List.forall_mem_append.mpr ⟨ht.2, hshape.2⟩⟩
        have hright := segmentsFrom_text_append hshape hends (place + utf8Width text)
        have hwhole := segmentsFrom_text_append (p := .literal (text ++ more)) hboth hends place
        simp only [Piece.text, Piece.width, Segment.ofPiece] at hcs hright hwhole
        rw [hcs, ← List.append_assoc, hwhole, hright, Segment.joinTo_joinTo, ← String.ofList_append,
          utf8Width_append, Nat.add_assoc]
      | braced => exact absurd (List.cons.inj hcs).1 hc
      | unterminated => exact absurd (List.cons.inj hcs).1 hc
      | bare => exact absurd (List.cons.inj hcs).1 hc
      | dollar => exact absurd (List.cons.inj hcs).1 hc

/-- A piece reads as its segment, and what it meets behind it as the rest. -/
theorem segmentsFrom_of_meets {p : Piece} {cs : List Char} (hp : p.IsShaped) (h : p.Meets cs)
    (place : Nat) : segmentsFrom place (p.text ++ cs) =
      (Segment.ofPiece ⟨p, place, place + p.width⟩).joinTo
        (segmentsFrom (place + p.width) cs) := by
  cases p with
  | literal text => exact segmentsFrom_literal hp place
  | braced interior => exact segmentsFrom_text_append hp trivial place
  | unterminated interior => exact h.elim
  | bare name => exact segmentsFrom_text_append hp h place
  | dollar => exact segmentsFrom_text_append hp h place

/-- **Texts that meet cleanly read one behind the other.** -/
theorem segmentsFrom_append (place : Nat) (as bs : List Char) (h : MeetCleanly as bs) :
    segmentsFrom place (as ++ bs) =
      (segmentsFrom place as).foldr Segment.joinTo (segmentsFrom (place + utf8Width as) bs) := by
  by_cases hne : as = []
  · subst hne
    rw [segmentsFrom_nil]
    rfl
  obtain ⟨p, rest, rfl, hp, he, hlt⟩ := exists_text_append_of_ne_nil hne
  have hplace : place + utf8Width (p.text ++ rest) = place + p.width + utf8Width rest := by
    rw [utf8Width_append, Piece.width, Nat.add_assoc]
  have hpieces := pieces_text_append hp he
  rw [segmentsFrom_text_append hp he, Segment.foldr_joinTo, hplace]
  by_cases hrest : rest = []
  · -- `p` is the last piece
    subst hrest
    have hmeets : p.Meets bs := h p (by rw [hpieces, pieces]; rfl)
    rw [segmentsFrom_nil, List.append_nil, segmentsFrom_of_meets hp hmeets]
    rfl
  · have hlast : MeetCleanly rest bs := fun q hq => h q (by
      obtain ⟨p', ps, hps⟩ := List.exists_cons_of_ne_nil (l := pieces rest) fun hnil => by
        have := pieces_flatMap_text rest
        rw [hnil] at this
        exact hrest this.symm
      rw [hpieces, hps, List.getLast?_cons_cons, ← hps]
      exact hq)
    rw [List.append_assoc, segmentsFrom_text_append hp (he.append hrest bs),
      segmentsFrom_append (place + p.width) rest bs hlast]
termination_by as.length

/-- A template of two texts that meet cleanly holds the segments of both. -/
theorem segments_parse_append {a b : String} (h : MeetCleanly a.toList b.toList) :
    (Template.parse (a ++ b)).segments = (Template.parse a).segments.foldr Segment.joinTo
      ((Template.parse b).segments.map (Segment.relocate (moveBy (utf8Width a.toList)))) := by
  rw [segments_parse, segments_parse, segments_parse, String.toList_append,
    segmentsFrom_append _ _ _ h, segmentsFrom_add]

end PathTemplate
