/-
# Rendering templates one behind the other

Rendering looks at places only to say where it fails: segments at other places
are rendered to the same text, or fail with the same error at another place
(`renderAll_relocate`). Without implicit placeholders it does not depend on the
cursor (`renderAll_cursor`). So two texts that meet cleanly, one of them without
implicit placeholders, are rendered one behind the other, and an error of the
second moves right by the bytes of the first (`format_append`).

Key definitions: `KeepsEnds`, `IsExplicit`.
Key theorems: `renderAll_relocate`, `renderAll_joinTo`, `format_append`.
-/
import Mathlib
import PathTemplate.Proofs.Render.Cursor
import PathTemplate.Proofs.Template.Seam

namespace PathTemplate

/-- Whether the place from one place to another changes as these two do. -/
def KeepsEnds (f : Span → Span) : Prop := ∀ s t : Span, f (s.through t) = (f s).through (f t)

theorem keepsEnds_moveBy (k : Nat) : KeepsEnds (moveBy k) := fun _ _ => rfl

variable {f : Span → Span}

/-! ### Rendering at other places -/

theorem Resolver.resolve_relocate (r : Resolver) (ref : Located Reference) :
    r.resolve (ref.relocate f) = (r.resolve ref).mapError (FormatError.relocate f) := by
  have hindex : ∀ index, r.atIndex index (f ref.span) =
      (r.atIndex index ref.span).mapError (FormatError.relocate f) := fun index => by
    simp only [atIndex]
    split <;> rfl
  obtain ⟨ref, span⟩ := ref
  cases ref with
  | named name =>
    simp only [resolve, Located.relocate]
    split <;> rfl
  | indexed index => exact hindex index
  | implicit => exact hindex r.cursor

theorem shiftsSpan_relocate (hf : KeepsEnds f) (ss : List (Located Shift)) :
    shiftsSpan (ss.map (Located.relocate f)) = (shiftsSpan ss).map f := by
  cases ss with
  | nil => rfl
  | cons s ss =>
    have hlast : ((s :: ss).map (Located.relocate f)).getLast (by simp) =
        ((s :: ss).getLast (List.cons_ne_nil s ss)).relocate f := List.getLast_map _
    simp only [List.map_cons] at hlast
    simp only [List.map_cons, shiftsSpan, Option.map_some, hlast, Located.span_relocate, hf _ _]

namespace Placeholder

variable (p : Placeholder)

theorem shiftValue_relocate (hf : KeepsEnds f) (v : Value) : ((p.relocate f).shiftValue v).2 =
    (p.shiftValue v).2.mapError (Halt.map (FormatError.relocate f)) := by
  have hnodes :
      (p.shifts.map (Located.relocate f)).map Located.node = p.shifts.map Located.node := by simp
  rw [shiftValue, shiftValue, relocate, shiftsSpan_relocate hf, hnodes]
  cases shiftsSpan p.shifts with
  | none => rfl
  | some span =>
    simp only [Option.map_some]
    cases (v.shiftTrace (p.shifts.map Located.node)).2 with
    | ok w => rfl
    | error halt => cases halt <;> rfl

theorem renderValue_relocate (span : Span) (v : Value) : (p.relocate f).renderValue (f span) v =
    (p.renderValue span v).mapError (FormatError.relocate f) := by
  obtain ⟨ref, shifts, pattern⟩ := p
  cases pattern <;>
    simp only [renderValue, relocate, Option.map_none, Option.map_some, Located.node_relocate,
      Located.span_relocate] <;>
    cases v.render _ <;> rfl

theorem result_relocate (hf : KeepsEnds f) (span : Span) (r : Resolver) :
    ((p.relocate f).render (f span) r).result =
      (p.render span r).result.mapError (Halt.map (FormatError.relocate f)) := by
  have href : (p.relocate f).reference = p.reference.relocate f := rfl
  simp only [result_render, mapError_bind, mapError_failed, href, Resolver.resolve_relocate,
    p.shiftValue_relocate hf, renderValue_relocate]

end Placeholder

namespace Segment

theorem result_relocate (hf : KeepsEnds f) (s : Segment) (r : Resolver) :
    ((s.relocate f).render r).result =
      (s.render r).result.mapError (Halt.map (FormatError.relocate f)) := by
  cases s with
  | literal text => rfl
  | placeholder p => exact p.node.result_relocate hf p.span r
  | malformed e => rfl

theorem left_relocate (s : Segment) (r : Resolver) :
    ((s.relocate f).render r).left = (s.render r).left := by
  have himplicit : (s.relocate f).isImplicit = s.isImplicit := by cases s <;> rfl
  rw [left_render, left_render, himplicit]

end Segment

/-- **Segments at other places give the same text**, or the same error at another place, or break
off as well. -/
theorem renderAll_relocate (hf : KeepsEnds f) (r : Resolver) (ss : List Segment) :
    renderAll r (ss.map (Segment.relocate f)) =
      (renderAll r ss).mapError (Halt.map (FormatError.relocate f)) := by
  induction ss generalizing r with
  | nil => rfl
  | cons s ss ih =>
    simp only [List.map_cons, renderAll_cons, mapError_bind, s.left_relocate, ih,
      s.result_relocate hf]
    rfl

/-! ### Rendering joined segments -/

/-- A segment is rendered as it stands or joined to those behind it. -/
theorem renderAll_joinTo (r : Resolver) (s : Segment) (ss : List Segment) :
    renderAll r (s.joinTo ss) = renderAll r (s :: ss) := by
  cases s with
  | placeholder => rfl
  | malformed => rfl
  | literal a =>
    cases ss with
    | nil => rfl
    | cons u us =>
      cases u with
      | placeholder => rfl
      | malformed => rfl
      | literal b =>
        simp only [Segment.joinTo, renderAll_cons, Segment.render]
        cases renderAll r us with
        | error e => rfl
        | ok rest => exact congrArg Except.ok String.append_assoc

theorem renderAll_foldr_joinTo (r : Resolver) (ss us : List Segment) :
    renderAll r (ss.foldr Segment.joinTo us) = renderAll r (ss ++ us) := by
  induction ss generalizing r with
  | nil => rfl
  | cons s ss ih =>
    rw [List.foldr_cons, renderAll_joinTo, List.cons_append, renderAll_cons, renderAll_cons, ih]

/-! ### Templates of two texts -/

/-- Whether a text has no placeholder that takes the value at the cursor. -/
def IsExplicit (source : String) : Prop := implicitCount (Template.parse source).segments = 0

/-- **Two texts that meet cleanly are rendered one behind the other**, if one of them is explicit.
An error of the first is the error of both; one of the second moves right by the bytes of the
first. Both break off where the first does, or the second behind a text of the first. -/
theorem format_append {a b : String} (c : Context) (hmeet : MeetCleanly a.toList b.toList)
    (hexp : IsExplicit a ∨ IsExplicit b) :
    (∀ halt, format a c = .error halt → format (a ++ b) c = .error halt) ∧
      (∀ x halt, format a c = .ok x → format b c = .error halt → format (a ++ b) c =
        .error (halt.map (FormatError.relocate (moveBy (utf8Width a.toList))))) ∧
      ∀ x y, format a c = .ok x → format b c = .ok y → format (a ++ b) c = .ok (x ++ y) := by
  have hboth : format (a ++ b) c = (do
      let x ← format a c
      let y ← (format b c).mapError
        (Halt.map (FormatError.relocate (moveBy (utf8Width a.toList))))
      return x ++ y) := by
    have hcursor : renderAll ((Resolver.mk c 0).behind (Template.parse a).segments)
        (Template.parse b).segments = format b c := by
      rcases hexp with ha | hb
      · rw [Resolver.behind_eq, ha]
        rfl
      · rw [Resolver.behind_eq]
        exact renderAll_cursor c hb _ 0
    rw [format, Template.render, segments_parse_append hmeet, renderAll_foldr_joinTo,
      renderAll_append, renderAll_relocate (keepsEnds_moveBy _), hcursor]
    rfl
  rw [hboth]
  refine ⟨fun halt ha => ?_, fun x halt ha hb => ?_, fun x y ha hb => ?_⟩
  · rw [ha]
    rfl
  · rw [ha, hb]
    rfl
  · rw [ha, hb]
    rfl

/-- A folder and a number without a name. -/
def folderContext : Context := ⟨[⟨some "dir", .text "/log"⟩, ⟨none, .integer 7⟩], [("dir", 0)]⟩

/-- A dollar sign before a hyphen, and a name that is missing 17 bytes from the start. -/
theorem format_append_dollar :
    MeetCleanly "é$dir$".toList "-$\x7b|03\x7d/$\x7bday\x7d".toList ∧ IsExplicit "é$dir$" ∧
      format "é$dir$" folderContext = .ok "é/log$" ∧
      format "-$\x7b|03\x7d/$\x7bday\x7d" folderContext =
        .error (.failed (.unknownName "day" ⟨10, 13⟩)) ∧
      format ("é$dir$" ++ "-$\x7b|03\x7d/$\x7bday\x7d") folderContext =
        .error (.failed (.unknownName "day" ⟨17, 20⟩)) := by
  have hmeet : MeetCleanly "é$dir$".toList "-$\x7b|03\x7d/$\x7bday\x7d".toList := by
    have hlast : (pieces "é$dir$".toList).getLast? = some .dollar := by cbv
    rw [MeetCleanly, hlast]
    rintro _ ⟨⟩
    exact stopsAt_cons.mpr (by decide)
  have hexp : IsExplicit "é$dir$" := by cbv
  have ha : format "é$dir$" folderContext = .ok "é/log$" := by cbv
  have hb : format "-$\x7b|03\x7d/$\x7bday\x7d" folderContext =
      .error (.failed (.unknownName "day" ⟨10, 13⟩)) := by cbv
  exact ⟨hmeet, hexp, ha, hb,
    (format_append folderContext hmeet (.inl hexp)).2.1 _ _ ha hb⟩

end PathTemplate
