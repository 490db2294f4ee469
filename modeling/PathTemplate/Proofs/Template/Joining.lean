/-
# Reading two texts as one

The segments of two texts that meet cleanly are those of the first and, moved
right by its bytes, those of the second. No two literal segments stand side by
side in either, so that the only ones that can meet are the two at the seam, and
these become one segment (`foldr_joinTo_eq_weld`). Each placeholder reads the
same wherever it stands.

Key definitions: `Segment.weld`.
Key theorems: `foldr_joinTo_eq_weld`, `Template.parse_append_welds`.
-/
import Mathlib
import PathTemplate.Proofs.Template.Segmentation

namespace PathTemplate

namespace Segment

/-- Some segments in front of others; literal text on both sides of the seam is one segment. -/
def weld (ss us : List Segment) : List Segment :=
  match ss.getLast?, us with
  | some (literal a), literal b :: rest => ss.dropLast ++ literal (a ++ b) :: rest
  | _, _ => ss ++ us

theorem weld_singleton (s : Segment) (us : List Segment) : weld [s] us = s.joinTo us := by
  cases s with
  | placeholder => rfl
  | malformed => rfl
  | literal a =>
    cases us with
    | nil => rfl
    | cons u us => cases u <;> rfl

/-- Only the last segment takes part in a weld. -/
theorem weld_cons_cons (s t : Segment) (ss us : List Segment) :
    weld (s :: t :: ss) us = s :: weld (t :: ss) us := by
  simp only [weld, List.getLast?_cons_cons]
  split <;> rfl

/-- A weld begins with literal text exactly if the first of its segments is literal. -/
theorem isLiteral_head_weld (t : Segment) (ss us : List Segment) :
    ∀ u ∈ (weld (t :: ss) us).head?, u.isLiteral = t.isLiteral := by
  cases ss with
  | cons s ss =>
    rw [weld_cons_cons]
    rintro _ ⟨⟩
    rfl
  | nil =>
    rw [weld_singleton]
    cases t with
    | placeholder =>
      rintro _ ⟨⟩
      rfl
    | malformed =>
      rintro _ ⟨⟩
      rfl
    | literal a =>
      cases us with
      | nil =>
        rintro _ ⟨⟩
        rfl
      | cons u us =>
        cases u with
        | literal | placeholder | malformed =>
          rintro _ ⟨⟩
          rfl

/-- **Segments without literal neighbours are joined to others at the seam alone.** -/
theorem foldr_joinTo_eq_weld {ss : List Segment}
    (h : ss.IsChain fun s t => ¬(s.isLiteral = true ∧ t.isLiteral = true)) (us : List Segment) :
    ss.foldr joinTo us = weld ss us := by
  induction ss with
  | nil => rfl
  | cons s ss ih =>
    cases ss with
    | nil => exact (weld_singleton s us).symm
    | cons t ss =>
      obtain ⟨hst, hss⟩ := List.isChain_cons_cons.mp h
      rw [List.foldr_cons, ih hss, weld_cons_cons]
      refine joinTo_of_not fun hjoin => hst ⟨hjoin.1, ?_⟩
      obtain ⟨u, hu, hlit⟩ := hjoin.2
      rw [← isLiteral_head_weld t ss us u hu]
      exact hlit

end Segment

/-- **Reading respects clean seams.** A text in front of another reads as its own segments and
those of the other, all places of these moved right by its bytes, and literal text on both sides of
the seam is one segment. A placeholder that stands further right reads as the same one with all its
places further right, or fails with the same fault there. -/
theorem Template.parse_append_welds :
    (∀ a b : String, MeetCleanly a.toList b.toList → (parse (a ++ b)).segments =
      Segment.weld (parse a).segments
        ((parse b).segments.map (Segment.relocate (moveBy (utf8Width a.toList))))) ∧
      ∀ (interior : List Char) (offset : Nat) (span : Span) (k : Nat),
        Placeholder.read interior (offset + k) (span.shift k) =
          relocateReading (moveBy k) (Placeholder.relocate (moveBy k))
            (Placeholder.read interior offset span) := by
  refine ⟨fun a b hmeet => ?_, fun interior offset span k =>
    Placeholder.read_add interior offset k span⟩
  obtain ⟨parts, hcut⟩ := exists_isCutInto 0 a.toList
  rw [segments_parse_append hmeet]
  exact Segment.foldr_joinTo_eq_weld hcut.merged _

/-- A slash before text, and a unit that is misspelt 15 bytes from the start. -/
theorem Template.parse_append_welds_slash :
    MeetCleanly "ä$d/".toList "é$\x7bn + 1 dax\x7d".toList ∧
      (parse ("ä$d/" ++ "é$\x7bn + 1 dax\x7d")).segments =
        [.literal "ä", .placeholder ⟨⟨⟨.named "d", 3, 4⟩, [], none⟩, 2, 4⟩, .literal "/é",
          .malformed (.malformed ⟨.unknownUnit "dax", 15, 18⟩)] := by
  have hmeet : MeetCleanly "ä$d/".toList "é$\x7bn + 1 dax\x7d".toList := by
    have hlast : (pieces "ä$d/".toList).getLast? = some (.literal ['/']) := by cbv
    rw [MeetCleanly, hlast]
    rintro _ ⟨⟩
    trivial
  have hfirst : (parse "ä$d/").segments =
      [.literal "ä", .placeholder ⟨⟨⟨.named "d", 3, 4⟩, [], none⟩, 2, 4⟩, .literal "/"] := by
    decide +kernel
  have hsecond : (parse "é$\x7bn + 1 dax\x7d").segments =
      [.literal "é", .malformed (.malformed ⟨.unknownUnit "dax", 10, 13⟩)] := by decide +kernel
  refine ⟨hmeet, ?_⟩
  rw [parse_append_welds.1 _ _ hmeet, hfirst, hsecond]
  rfl

end PathTemplate
