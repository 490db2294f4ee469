/-
# What an error points at

An error of a template comes from one of its segments, and its place is that of
what is at fault there: the stretch of the text that cannot be read, the
reference whose value is missing, the shifts from the first to the last, or the
pattern. All of these lie in the text of the piece that the segment was read
from, between edges of characters, so an error points into its own placeholder.

Key definitions: `Segment.Raises`, `PointsInto`.
Key theorems: `Segment.raises_of_failsWith`, `Segment.Raises.liesIn`, `pointsInto_of_failsWith`,
`PointsInto.exists_char`, `Template.errors_point_into_placeholders`.
-/
import PathTemplate.Proofs.Placeholder.Bounds
import PathTemplate.Proofs.Render.Failures
import PathTemplate.Proofs.Template.Compile
import PathTemplate.Proofs.Template.Segmentation
import PathTemplate.Proofs.Time.CalendarEnds

namespace PathTemplate

open Decimal Time

/-! ### What is at fault -/

/-- Whether a value refuses to be shifted, and not to follow a pattern. -/
def ValueError.refusesShift : ValueError → Bool
  | invalidPattern _ _ _ => false
  | _ => true

/-- The errors that a segment of a text can raise, each with the place of what is at fault. -/
inductive Segment.Raises : Segment → FormatError → Prop
  /-- What cannot be read raises its own error. -/
  | malformed (d : SyntaxError) : Raises (.malformed (.malformed d)) (.malformed d)
  /-- No value has the name: the reference is at fault. -/
  | unknownName {p : Located Placeholder} {name : String}
    (hname : p.node.reference.node = .named name) :
    Raises (.placeholder p) (.unknownName name p.node.reference.span)
  /-- No value has the position: the reference is at fault. -/
  | indexOutOfRange {p : Located Placeholder} (index count : Nat)
    (hindex : ∀ name, p.node.reference.node ≠ .named name) :
    Raises (.placeholder p) (.indexOutOfRange index count p.node.reference.span)
  /-- The value is not shifted: the shifts are at fault, all of them. -/
  | notShifted {p : Located Placeholder} {first last : Located Shift} {cause : ValueError}
    (hcause : cause.refusesShift = true) (hfirst : p.node.shifts.head? = some first)
    (hlast : p.node.shifts.getLast? = some last) :
    Raises (.placeholder p) (.value cause ⟨first.span.start, last.span.stop⟩)
  /-- The value does not follow the pattern: the pattern is at fault. -/
  | badPattern {p : Located Placeholder} {kind : Kind} {fault : PatternFault}
    {pattern : Located String} (hpattern : p.node.pattern = some pattern) :
    Raises (.placeholder p) (.value (.invalidPattern kind pattern.node fault) pattern.span)

theorem Resolver.resolve_eq_error {r : Resolver} {ref : Located Reference} {e : FormatError}
    (h : r.resolve ref = .error e) :
    (∃ name, ref.node = .named name ∧ e = .unknownName name ref.span) ∨
      (∀ name, ref.node ≠ .named name) ∧
        ∃ index, e = .indexOutOfRange index r.context.size ref.span := by
  have hindex : ∀ index, r.atIndex index ref.span = .error e →
      e = .indexOutOfRange index r.context.size ref.span := by
    intro index h
    rw [atIndex] at h
    split at h
    · cases h
    · cases h
      rfl
  rw [resolve] at h
  split at h
  · next name hname =>
    left
    split at h
    · cases h
    · cases h
      exact ⟨name, hname, rfl⟩
  · next index hnode =>
    exact .inr ⟨fun name hname => by simp [hnode] at hname, index, hindex index h⟩
  · next hnode =>
    exact .inr ⟨fun name hname => by simp [hnode] at hname, r.cursor, hindex r.cursor h⟩

/-- What refuses to be shifted does not speak of a pattern. -/
theorem Value.shiftTrace_eq_error {v : Value} {ss : List Shift} {cause : ValueError}
    (h : (v.shiftTrace ss).2 = .error (.failed cause)) : cause.refusesShift = true := by
  cases v with
  | time t =>
    change Value.time <$> (shiftSteps t ss).2 = .error (.failed cause) at h
    cases hsteps : (shiftSteps t ss).2 with
    | ok u =>
      rw [hsteps] at h
      cases h
    | error halt =>
      rw [hsteps] at h
      cases h
      rcases exists_of_shiftSteps_eq_error hsteps with hbreak | ⟨s, -, hrange⟩
      · cases hbreak
      · cases hrange
        rfl
  | integer | float | text =>
    cases h
    rfl

/-- Whether a refusal is about the pattern that was given, and there was one. -/
def ValueError.IsAbout (pattern : Option String) (cause : ValueError) : Prop :=
  ∃ kind text fault, pattern = some text ∧ cause = .invalidPattern kind text fault

theorem Value.renderTime_eq_error {t : ZonedTime} {pattern : Option String} {cause : ValueError}
    (h : renderTime t pattern = .error cause) : cause.IsAbout pattern := by
  cases pattern with
  | none => cases h
  | some text =>
    rw [renderTime] at h
    split at h
    · cases h
      exact ⟨.time, text, .unknownSpecifier, rfl, rfl⟩
    · split at h
      · cases h
        exact ⟨.time, text, .unwritable, rfl, rfl⟩
      · cases h

theorem Value.renderInteger_eq_error {n : Int} {pattern : Option String} {cause : ValueError}
    (h : renderInteger n pattern = .error cause) : cause.IsAbout pattern := by
  cases pattern with
  | none => cases h
  | some text =>
    rw [renderInteger] at h
    split at h
    · next fault _ =>
      cases h
      exact ⟨.integer, text, fault, rfl, rfl⟩
    · cases h

theorem Value.renderFloat_eq_error {x : Binary64} {pattern : Option String} {cause : ValueError}
    (h : renderFloat x pattern = .error cause) : cause.IsAbout pattern := by
  cases pattern with
  | none => cases h
  | some text =>
    rw [renderFloat] at h
    split at h
    · next fault _ =>
      cases h
      exact ⟨.float, text, fault, rfl, rfl⟩
    · cases h

theorem ofList_map_eq_error {x : Except ValueError (List Char)} {cause : ValueError}
    (h : String.ofList <$> x = .error cause) : x = .error cause := by
  cases x with
  | ok cs => cases h
  | error e =>
    cases h
    rfl

/-- A value that cannot be written was given a pattern, and does not follow it. -/
theorem Value.render_eq_error {v : Value} {pattern : Option String} {cause : ValueError}
    (h : v.render pattern = .error cause) : cause.IsAbout pattern := by
  cases v with
  | time t => exact renderTime_eq_error (ofList_map_eq_error h)
  | integer n => exact renderInteger_eq_error (ofList_map_eq_error h)
  | float x => exact renderFloat_eq_error (ofList_map_eq_error h)
  | text s => cases h

theorem Placeholder.shiftValue_eq_error {p : Located Placeholder} {v : Value} {e : FormatError}
    (h : (p.node.shiftValue v).2 = .error (.failed e)) : (Segment.placeholder p).Raises e := by
  obtain ⟨⟨reference, shifts, pattern⟩, span⟩ := p
  cases shifts with
  | nil => cases h
  | cons first rest =>
    have hlast := List.getLast?_eq_some_getLast (List.cons_ne_nil first rest)
    rw [shiftValue, shiftsSpan] at h
    simp only at h
    cases htrace : (v.shiftTrace ((first :: rest).map Located.node)).2 with
    | ok w =>
      rw [htrace] at h
      cases h
    | error halt =>
      rw [htrace] at h
      cases halt with
      | brokenOff => cases h
      | failed cause =>
        cases h
        exact .notShifted (Value.shiftTrace_eq_error htrace) rfl hlast

theorem Placeholder.renderValue_eq_error {p : Located Placeholder} {v : Value} {e : FormatError}
    (h : p.node.renderValue p.span v = .error e) : (Segment.placeholder p).Raises e := by
  rw [renderValue] at h
  cases hrender : v.render (p.node.pattern.map Located.node) with
  | ok text =>
    rw [hrender] at h
    cases h
  | error cause =>
    rw [hrender] at h
    obtain ⟨kind, text, fault, htext, rfl⟩ := Value.render_eq_error hrender
    obtain ⟨pattern, hpattern, rfl⟩ := Option.map_eq_some_iff.mp htext
    rw [hpattern] at h
    cases h
    exact .badPattern hpattern

/-- **A segment of a text that fails raises one of its errors.** -/
theorem Segment.raises_of_failsWith {s : Segment} {r : Resolver} {e : FormatError}
    {cs : List Char} {place : Nat} (hs : s.LiesIn cs place) (h : s.FailsWith r e) :
    s.Raises e := by
  cases s with
  | literal text => cases h
  | malformed e =>
    obtain ⟨d, rfl, -⟩ := hs
    cases h
    exact .malformed d
  | placeholder p =>
    have h : (p.node.render p.span r).result = .error (.failed e) := h
    rw [Placeholder.result_render] at h
    cases hresolve : r.resolve p.node.reference with
    | error d =>
      rw [hresolve] at h
      cases h
      rcases Resolver.resolve_eq_error hresolve with ⟨name, hname, rfl⟩ | ⟨hnode, index, rfl⟩
      · exact .unknownName hname
      · exact .indexOutOfRange index _ hnode
    | ok v =>
      rw [hresolve] at h
      have h : ((p.node.shiftValue v).2 >>= fun w =>
        (p.node.renderValue p.span w).mapError Halt.failed) = .error (.failed e) := h
      cases hshift : (p.node.shiftValue v).2 with
      | error halt =>
        rw [hshift] at h
        cases h
        exact Placeholder.shiftValue_eq_error hshift
      | ok w =>
        rw [hshift] at h
        have h : (p.node.renderValue p.span w).mapError Halt.failed = .error (.failed e) := h
        cases hrender : p.node.renderValue p.span w with
        | ok text =>
          rw [hrender] at h
          cases h
        | error d =>
          rw [hrender] at h
          cases h
          exact Placeholder.renderValue_eq_error hrender

/-! ### Where it stands -/

/-- The first of some things that stand in order does not stand behind the last. -/
theorem start_le_stop_of_pairwise {first last : Located Shift} {shifts : List (Located Shift)}
    (hself : first.span.start ≤ first.span.stop)
    (hordered : shifts.Pairwise fun s t => s.span.start ≤ t.span.stop)
    (hfirst : shifts.head? = some first) (hlast : shifts.getLast? = some last) :
    first.span.start ≤ last.span.stop := by
  obtain ⟨rest, rfl⟩ := List.head?_eq_some_iff.mp hfirst
  rcases List.mem_cons.mp (List.mem_of_getLast? hlast) with rfl | hrest
  · exact hself
  · exact List.rel_of_pairwise_cons hordered hrest

/-- **What is at fault lies in the text of its segment.** -/
theorem Segment.Raises.liesIn {s : Segment} {e : FormatError} {cs : List Char} {place : Nat}
    (h : s.Raises e) (hs : s.LiesIn cs place) :
    ∃ span, e.span = some span ∧ span.LiesIn cs place := by
  cases h with
  | malformed d =>
    obtain ⟨_, ⟨⟩, hd⟩ := hs
    exact ⟨d.span, rfl, hd⟩
  | unknownName hname => exact ⟨_, rfl, hs.2.reference⟩
  | indexOutOfRange index count hindex => exact ⟨_, rfl, hs.2.reference⟩
  | notShifted hcause hfirst hlast =>
    have hin := hs.2.shifts _ (List.mem_of_mem_head? hfirst)
    have hin' := hs.2.shifts _ (List.mem_of_getLast? hlast)
    have hle := start_le_stop_of_pairwise hin.ordered hs.2.ordered hfirst hlast
    exact ⟨_, rfl, hin.start, hin'.stop, hle⟩
  | badPattern hpattern => exact ⟨_, rfl, hs.2.pattern _ hpattern⟩

/-- What is at fault starts where some place of the segment does. -/
theorem Segment.Raises.start_lt {s : Segment} {e : FormatError} {stop : Nat} {span : Span}
    (h : s.Raises e) (hs : s.StartsBefore stop) (hspan : e.span = some span) :
    span.start < stop := by
  cases h with
  | malformed d => exact hs span hspan
  | unknownName hname =>
    obtain rfl := Option.some.inj hspan
    exact hs.1
  | indexOutOfRange index count hindex =>
    obtain rfl := Option.some.inj hspan
    exact hs.1
  | notShifted hcause hfirst hlast =>
    obtain rfl := Option.some.inj hspan
    exact hs.2.1 _ (List.mem_of_mem_head? hfirst)
  | badPattern hpattern =>
    obtain rfl := Option.some.inj hspan
    exact hs.2.2 _ hpattern

theorem Segment.Raises.not_isLiteral {s : Segment} {e : FormatError} (h : s.Raises e) :
    s.isLiteral = false := by
  cases h with
  | malformed | unknownName | indexOutOfRange | notShifted | badPattern => rfl

/-- Whether the error `e` is one that the segment `s` raises, and lies between edges of characters
in the part of the text that this segment comes from, where the segments `before` and `after` come
from what is on either side of that part. -/
def PointsInto (source : List Char) (before : List Segment) (s : Segment) (after : List Segment)
    (e : FormatError) : Prop :=
  s.Raises e ∧ ∃ front part back span, source = front ++ (part ++ back) ∧
    IsReadAlone 0 front part back before s after ∧ e.span = some span ∧ span.LiesIn source 0 ∧
      utf8Width front ≤ span.start ∧ span.stop ≤ utf8Width front + utf8Width part

/-- Literal text does not fail. -/
theorem Segment.FailsWith.not_isLiteral {s : Segment} {r : Resolver} {e : FormatError}
    (h : s.FailsWith r e) : s.isLiteral = false := by
  cases s with
  | literal text => cases h
  | placeholder | malformed => rfl

/-- **The error of a segment of a text points into the part of the text that it comes from.** -/
theorem pointsInto_of_failsWith {source : List Char} {before after : List Segment} {s : Segment}
    {r : Resolver} {e : FormatError} (hcut : segmentsFrom 0 source = before ++ s :: after)
    (h : s.FailsWith r e) : PointsInto source before s after e := by
  obtain ⟨front, p, back, rfl, -, hs, halone⟩ := exists_piece_of_segment 0 h.not_isLiteral hcut
  have hin : s.LiesIn p.text (0 + utf8Width front) := by
    rw [← hs]
    exact Segment.liesIn_ofPiece p _
  have hraises := Segment.raises_of_failsWith hin h
  obtain ⟨span, hspan, hlies⟩ := hraises.liesIn hin
  have hstart := hlies.start.bounds.1
  have hstop := hlies.stop.bounds.2
  rw [Nat.zero_add] at hstart hstop
  exact ⟨hraises, front, p.text, back, span, rfl, halone, hspan, hlies.enclosed back, hstart,
    hstop⟩

/-- A placeholder is read from more than a dollar sign. -/
theorem Segment.Reaches.ne_dollar {s : Segment} {part back : List Char} (h : s.Reaches part back)
    (hs : s.isLiteral = false) : part ≠ ['$'] := by
  have hrun : RunsToBrace part back → part ≠ ['$'] := by
    rintro ⟨interior, -, rfl | ⟨rfl, -⟩⟩
    · exact nofun
    · exact nofun
  cases s with
  | literal text => cases hs
  | malformed d => exact hrun h
  | placeholder p =>
    rcases h with ⟨name, rfl, hne, -⟩ | h
    · exact fun hcs => hne (List.cons.inj hcs).2
    · exact hrun h

/-- **A character starts where an error points.** -/
theorem PointsInto.exists_char {source : List Char} {before after : List Segment} {s : Segment}
    {e : FormatError} (h : PointsInto source before s after e) :
    ∃ span front d back, e.span = some span ∧ source = front ++ d :: back ∧
      utf8Width front = span.start ∧ span.stop ≤ utf8Width source := by
  obtain ⟨hraises, front, part, back, span, rfl, halone, hspan, hlies, -, -⟩ := h
  have hlit := hraises.not_isLiteral
  have hitself : segmentsFrom (0 + utf8Width front) part = [] ++ s :: [] := halone.itself
  obtain ⟨front', p, back', rfl, -, hs, hself⟩ := exists_piece_of_segment _ hlit hitself
  have hstarts := Segment.startsBefore_ofPiece (hself.reaches.ne_dollar hlit)
    (0 + utf8Width front + utf8Width front')
  rw [hs] at hstarts
  have hlt := hraises.start_lt hstarts hspan
  have hwhole : span.start < 0 + utf8Width (front ++ (front' ++ (p.text ++ back') ++ back)) := by
    have hwidth : p.width = utf8Width p.text := rfl
    simp only [utf8Width_append]
    omega
  obtain ⟨ahead, d, behind, hcut, hstart⟩ := hlies.start.exists_cons hwhole
  refine ⟨span, ahead, d, behind, hspan, hcut, ?_, ?_⟩
  · rw [hstart, Nat.zero_add]
  · have hstop := hlies.stop.bounds.2
    rwa [Nat.zero_add] at hstop

/-- **Every error points into its own placeholder.** The error of compiling is that of the first
placeholder that cannot be read; the error of rendering that of the first segment that fails. Each
of them, and any other that a segment fails with, lies in the part of the source that its segment
comes from, and its place is that of what is at fault. -/
theorem Template.errors_point_into_placeholders (source : String) :
    (∀ e, compile source = .error e → ∃ before d after, e = .malformed d ∧
      (parse source).segments = before ++ .malformed e :: after ∧
        (∀ d', .malformed d' ∉ before) ∧
        PointsInto source.toList before (.malformed e) after e) ∧
      (∀ c e, (parse source).render c = .error (.failed e) → ∃ before s after,
        FirstHalt ⟨c, 0⟩ (parse source).segments before s after (.failed e) ∧
          PointsInto source.toList before s after e) ∧
      ∀ before s after, (parse source).segments = before ++ s :: after →
        ∀ r e, s.FailsWith r e → PointsInto source.toList before s after e := by
  refine ⟨fun e h => ?_, fun c e h => ?_, fun before s after hcut r e h => ?_⟩
  · obtain ⟨before, after, hcut, hbefore⟩ := compile_eq_error_iff.mp h
    have hpoints : PointsInto source.toList before (.malformed e) after e :=
      pointsInto_of_failsWith (r := ⟨Context.ofValues [], 0⟩) hcut rfl
    obtain ⟨d⟩ := hpoints.1
    exact ⟨before, d, after, rfl, hcut, hbefore, hpoints⟩
  · obtain ⟨before, s, after, hfirst⟩ := renderAll_eq_error_iff.mp h
    exact ⟨before, s, after, hfirst, pointsInto_of_failsWith hfirst.cut hfirst.halts⟩
  · exact pointsInto_of_failsWith hcut h

/-- An integer does not follow a pattern of one character, which takes two bytes. -/
theorem Template.errors_point_into_umlaut :
    (parse "é/$\x7b|ö\x7d").render (Context.ofValues [.integer 5]) =
        .error (.failed (.value (.invalidPattern .integer "ö" .notDigits) ⟨6, 8⟩)) ∧
      compile "é$\x7b0|ö ö\x7d" = .error (.malformed ⟨.blankInPattern, 8, 9⟩) ∧
      (∃ before s after, FirstHalt ⟨Context.ofValues [.integer 5], 0⟩
          (parse "é/$\x7b|ö\x7d").segments before s after
          (.failed (.value (.invalidPattern .integer "ö" .notDigits) ⟨6, 8⟩)) ∧
        PointsInto "é/$\x7b|ö\x7d".toList before s after
          (.value (.invalidPattern .integer "ö" .notDigits) ⟨6, 8⟩)) ∧
      ∃ before d after, FormatError.malformed ⟨.blankInPattern, 8, 9⟩ = .malformed d ∧
        (parse "é$\x7b0|ö ö\x7d").segments =
            before ++ .malformed (.malformed ⟨.blankInPattern, 8, 9⟩) :: after ∧
          (∀ d, .malformed d ∉ before) ∧
          PointsInto "é$\x7b0|ö ö\x7d".toList before
            (.malformed (.malformed ⟨.blankInPattern, 8, 9⟩)) after
            (.malformed ⟨.blankInPattern, 8, 9⟩) := by
  have hrender : (parse "é/$\x7b|ö\x7d").render (Context.ofValues [.integer 5]) =
      .error (.failed (.value (.invalidPattern .integer "ö" .notDigits) ⟨6, 8⟩)) := by
    decide +kernel
  have hcompile : compile "é$\x7b0|ö ö\x7d" = .error (.malformed ⟨.blankInPattern, 8, 9⟩) := by
    decide +kernel
  exact ⟨hrender, hcompile, (errors_point_into_placeholders _).2.1 _ _ hrender,
    (errors_point_into_placeholders _).1 _ hcompile⟩

end PathTemplate
