/-
# Strict and lossy rendering

Both renderings walk over the same segments with the same cursor. As long as
nothing fails they write the same text (`renderAllLossy_of_ok`). At the first
segment that fails, strict rendering stops with its error; lossy rendering has
written until then what strict rendering would have, puts the sentinel of the
error there and goes on behind the segment (`FirstHalt.renderAllLossy_eq`).

A segment that breaks off stops both, and lossy rendering has nothing to put in
its place. So the two agree exactly where none does
(`Template.renderingsAgree_exact`).

Key definitions: `Throughout`, `NoneFails`, `NoneBreaksOff`, `FirstHalt`,
`Template.RenderingsAgree`.
Key theorems: `exists_renderAll_eq_ok_iff`, `exists_renderAllLossy_eq_some_iff`,
`renderAll_eq_error_iff`, `Template.renderingsAgree_exact`.
-/
import PathTemplate.Proofs.Render.Cursor
import PathTemplate.Proofs.Time.CalendarEnds

namespace PathTemplate

open Time

/-! ### What becomes of a segment -/

/-- Whether a segment that the resolver has come to gives a text. -/
def Segment.HasText (s : Segment) (r : Resolver) : Prop := ∃ text, (s.render r).result = .ok text

/-- Whether a segment that the resolver has come to fails with an error. -/
def Segment.FailsWith (s : Segment) (r : Resolver) (e : FormatError) : Prop :=
  (s.render r).result = .error (.failed e)

/-- Whether a segment that the resolver has come to breaks off. -/
def Segment.BreaksOff (s : Segment) (r : Resolver) : Prop :=
  (s.render r).result = .error .brokenOff

/-- Whether something is true of each of some segments when the resolver comes to it. -/
def Throughout (P : Segment → Resolver → Prop) (r : Resolver) (ss : List Segment) : Prop :=
  ∀ before s after, ss = before ++ s :: after → P s (r.behind before)

/-- Whether none of some segments fails when the resolver comes to it. -/
def NoneFails (r : Resolver) (ss : List Segment) : Prop :=
  Throughout (fun s r => ∀ e, ¬ s.FailsWith r e) r ss

/-- Whether none of some segments breaks off when the resolver comes to it. -/
def NoneBreaksOff (r : Resolver) (ss : List Segment) : Prop :=
  Throughout (fun s r => ¬ s.BreaksOff r) r ss

/-- Whether the segment `s` between `before` and `after` ends without a text, and is the first to do
so. -/
structure FirstHalt (r : Resolver) (ss before : List Segment) (s : Segment)
    (after : List Segment) (halt : Halt FormatError) : Prop where
  cut : ss = before ++ s :: after
  before_passes : Throughout Segment.HasText r before
  halts : (s.render (r.behind before)).result = .error halt

variable {P : Segment → Resolver → Prop} {r : Resolver} {s : Segment}
  {ss before after : List Segment} {halt : Halt FormatError} {e : FormatError} {text : String}

/-- A segment gives a text if it neither fails nor breaks off. -/
theorem Segment.hasText_iff : s.HasText r ↔ (∀ e, ¬ s.FailsWith r e) ∧ ¬ s.BreaksOff r := by
  unfold HasText FailsWith BreaksOff
  cases (s.render r).result with
  | ok text => simp
  | error halt => cases halt <;> simp

/-- A segment has a lossy text unless it breaks off. -/
theorem Segment.exists_lossy_iff : (∃ text, (s.render r).lossy = some text) ↔ ¬ s.BreaksOff r := by
  unfold BreaksOff Rendering.lossy
  cases (s.render r).result with
  | ok text => simp
  | error halt => cases halt <;> simp

/-- A value breaks off if it is a time that its shifts take off the calendar. -/
theorem Placeholder.shiftValue_eq_brokenOff_iff {p : Placeholder} {v : Value} :
    (p.shiftValue v).2 = .error .brokenOff ↔ ∃ t, v = .time t ∧
      (shiftSteps t (p.shifts.map Located.node)).2 = .error .brokenOff := by
  obtain ⟨reference, shifts, pattern⟩ := p
  cases shifts with
  | nil => simp [shiftValue, shiftsSpan, shiftSteps]
  | cons first rest =>
    simp only [shiftValue, shiftsSpan, mapError_eq_error_iff, Halt.map_eq_brokenOff_iff,
      exists_eq_right]
    cases v with
    | integer | float | text => simp [Value.shiftTrace]
    | time t => simp [Value.shiftTrace, map_eq_error_iff]

/-- Neither the reference nor the pattern of a placeholder breaks off. -/
theorem Placeholder.result_eq_brokenOff_iff {p : Placeholder} {span : Span} :
    (p.render span r).result = .error .brokenOff ↔
      ∃ v, r.resolve p.reference = .ok v ∧ (p.shiftValue v).2 = .error .brokenOff := by
  simp only [result_render, bind_eq_error, mapError_eq_error_iff, mapError_eq_ok_iff, reduceCtorEq,
    and_false, exists_false, false_or, or_false]

/-- **What breaks off is a placeholder** whose value is a time that its shifts take off the
calendar. -/
theorem Segment.breaksOff_iff : s.BreaksOff r ↔ ∃ p t, s = .placeholder p ∧
    r.resolve p.node.reference = .ok (.time t) ∧
      (shiftSteps t (p.node.shifts.map Located.node)).2 = .error .brokenOff := by
  unfold BreaksOff
  cases s with
  | literal text =>
    constructor
    · intro h
      cases h
    · rintro ⟨p, t, hp, -⟩
      cases hp
  | malformed e =>
    constructor
    · intro h
      cases h
    · rintro ⟨p, t, hp, -⟩
      cases hp
  | placeholder p =>
    simp only [Segment.render, Placeholder.result_eq_brokenOff_iff,
      Placeholder.shiftValue_eq_brokenOff_iff, placeholder.injEq]
    constructor
    · rintro ⟨_, hv, t, rfl, ht⟩
      exact ⟨p, t, rfl, hv, ht⟩
    · rintro ⟨_, t, rfl, hv, ht⟩
      exact ⟨_, hv, t, rfl, ht⟩

theorem throughout_nil (P : Segment → Resolver → Prop) (r : Resolver) : Throughout P r [] := by
  intro before s after h
  simp at h

/-- What is true of each of some segments is true of the first, and of the rest behind it. -/
theorem throughout_cons :
    Throughout P r (s :: ss) ↔ P s r ∧ Throughout P (s.render r).left ss := by
  constructor
  · exact fun h => ⟨h [] s ss rfl, fun before u after hcut =>
      h (s :: before) u after (by rw [hcut, List.cons_append])⟩
  · rintro ⟨hs, hss⟩ before u after hcut
    cases before with
    | nil =>
      obtain ⟨rfl, -⟩ := List.cons.inj hcut
      exact hs
    | cons v before =>
      obtain ⟨rfl, hrest⟩ := List.cons.inj hcut
      exact hss before u after hrest

/-! ### Where nothing fails -/

/-- All of some segments give a text if none fails and none breaks off. -/
theorem throughout_hasText_iff :
    Throughout Segment.HasText r ss ↔ NoneFails r ss ∧ NoneBreaksOff r ss := by
  simp only [NoneFails, NoneBreaksOff, Throughout, Segment.hasText_iff, forall_and]

/-- **Strict rendering gives a text exactly if every segment does.** -/
theorem exists_renderAll_eq_ok_iff :
    (∃ text, renderAll r ss = .ok text) ↔ Throughout Segment.HasText r ss := by
  induction ss generalizing r with
  | nil => exact ⟨fun _ => throughout_nil _ r, fun _ => ⟨"", rfl⟩⟩
  | cons s ss ih =>
    simp only [renderAll_cons_eq_ok, throughout_cons, ← ih]
    constructor
    · rintro ⟨_, first, rest, hs, hss, -⟩
      exact ⟨⟨first, hs⟩, rest, hss⟩
    · rintro ⟨⟨first, hs⟩, rest, hss⟩
      exact ⟨_, first, rest, hs, hss, rfl⟩

/-- **Lossy rendering gives a text exactly if no segment breaks off.** -/
theorem exists_renderAllLossy_eq_some_iff :
    (∃ text, renderAllLossy r ss = some text) ↔ NoneBreaksOff r ss := by
  induction ss generalizing r with
  | nil => exact ⟨fun _ => throughout_nil _ r, fun _ => ⟨"", rfl⟩⟩
  | cons s ss ih =>
    rw [NoneBreaksOff, throughout_cons, ← Segment.exists_lossy_iff, ← NoneBreaksOff, ← ih,
      renderAllLossy_cons]
    cases (s.render r).lossy with
    | none => simp
    | some text => cases renderAllLossy (s.render r).left ss <;> simp

theorem renderAllLossy_eq_none (h : ¬ NoneBreaksOff r ss) : renderAllLossy r ss = none := by
  rw [← exists_renderAllLossy_eq_some_iff] at h
  exact Option.eq_none_iff_forall_ne_some.mpr fun text htext => h ⟨text, htext⟩

/-- Lossy rendering gives the same text as strict rendering, if that gives one. -/
theorem renderAllLossy_of_ok (h : renderAll r ss = .ok text) : renderAllLossy r ss = some text := by
  induction ss generalizing r text with
  | nil => exact congrArg some (Except.ok.inj h)
  | cons s ss ih =>
    obtain ⟨first, rest, hs, hss, rfl⟩ := renderAll_cons_eq_ok.mp h
    rw [renderAllLossy_cons, Rendering.lossy, hs, ih hss]
    rfl

/-! ### The first segment without a text -/

theorem FirstHalt.renderAll_eq (h : FirstHalt r ss before s after halt) :
    renderAll r ss = .error halt := by
  obtain ⟨text, htext⟩ := exists_renderAll_eq_ok_iff.mpr h.before_passes
  rw [h.cut, renderAll_append, htext, renderAll_cons, h.halts]
  rfl

theorem exists_firstHalt (h : renderAll r ss = .error halt) :
    ∃ before s after, FirstHalt r ss before s after halt := by
  induction ss generalizing r with
  | nil => cases h
  | cons s ss ih =>
    rcases renderAll_cons_eq_error.mp h with hs | ⟨hs, hss⟩
    · exact ⟨[], s, ss, rfl, throughout_nil _ r, hs⟩
    · obtain ⟨before, u, after, hcut, hbefore, hu⟩ := ih hss
      exact ⟨s :: before, u, after, by rw [hcut, List.cons_append],
        throughout_cons.mpr ⟨hs, hbefore⟩, hu⟩

/-- **Strict rendering ends as the first segment does that has no text.** -/
theorem renderAll_eq_error_iff :
    renderAll r ss = .error halt ↔ ∃ before s after, FirstHalt r ss before s after halt :=
  ⟨exists_firstHalt, fun ⟨_, _, _, h⟩ => h.renderAll_eq⟩

/-- Lossy rendering writes in front of the first failure what strict rendering does, and goes on
behind it. -/
theorem FirstHalt.renderAllLossy_eq (h : FirstHalt r ss before s after (.failed e)) :
    ∃ text, renderAll r before = .ok text ∧ renderAllLossy r ss =
      (text ++ e.sentinel ++ ·) <$> renderAllLossy (r.behind (before ++ [s])) after := by
  obtain ⟨text, htext⟩ := exists_renderAll_eq_ok_iff.mpr h.before_passes
  have hs : (s.render (r.behind before)).lossy = some e.sentinel := by
    rw [Rendering.lossy, h.halts]
  refine ⟨text, htext, ?_⟩
  rw [h.cut, renderAllLossy_append, renderAllLossy_of_ok htext, renderAllLossy_cons, hs,
    Resolver.behind_append, Resolver.behind_cons, Resolver.behind_nil]
  cases renderAllLossy (s.render (r.behind before)).left after with
  | none => rfl
  | some rest => exact congrArg some String.append_assoc.symm

/-! ### Templates -/

/-- Strict and lossy rendering agree: a template has a text if none of its segments fails, and lossy
rendering gives it too. Otherwise the error is that of the first segment that fails, and lossy
rendering writes the text of the segments before it, its sentinel, and the rest with the resolver
that it left behind. The cursor of that one has moved if the segment was implicit. -/
structure Template.RenderingsAgree (t : Template) (c : Context) : Prop where
  ok_iff : (∃ text, t.render c = .ok text) ↔ NoneFails ⟨c, 0⟩ t.segments
  lossy_of_ok : ∀ text, t.render c = .ok text → t.renderLossy c = some text
  otherwise : ¬ NoneFails ⟨c, 0⟩ t.segments → ∃ before s after e,
    FirstHalt ⟨c, 0⟩ t.segments before s after (.failed e) ∧ t.render c = .error (.failed e) ∧
      ∃ text left rest, renderAll ⟨c, 0⟩ before = .ok text ∧
        left = (s.render ((Resolver.mk c 0).behind before)).left ∧
        left.cursor = implicitCount before + (if s.isImplicit then 1 else 0) ∧
        renderAllLossy left after = some rest ∧
        t.renderLossy c = some (text ++ e.sentinel ++ rest)

/-- **Strict and lossy rendering agree exactly where no segment breaks off.** Where one does, lossy
rendering gives nothing, and strict rendering breaks off too, unless a segment in front of it has
failed. What breaks off is a placeholder whose value is a time that its shifts take off the
calendar. -/
theorem Template.renderingsAgree_exact (t : Template) (c : Context) :
    (t.RenderingsAgree c ↔ NoneBreaksOff ⟨c, 0⟩ t.segments) ∧
      (¬ NoneBreaksOff ⟨c, 0⟩ t.segments → t.renderLossy c = none ∧
        ∃ before s after halt, FirstHalt ⟨c, 0⟩ t.segments before s after halt ∧
          t.render c = .error halt) ∧
      ∀ (s : Segment) (r : Resolver), s.BreaksOff r ↔ ∃ p t, s = .placeholder p ∧
        r.resolve p.node.reference = .ok (.time t) ∧
          (shiftSteps t (p.node.shifts.map Located.node)).2 = .error .brokenOff := by
  have hok : (∃ text, t.render c = .ok text) ↔ _ :=
    exists_renderAll_eq_ok_iff.trans throughout_hasText_iff
  have herror : ¬ (NoneFails ⟨c, 0⟩ t.segments ∧ NoneBreaksOff ⟨c, 0⟩ t.segments) →
      ∃ before s after halt, FirstHalt ⟨c, 0⟩ t.segments before s after halt ∧
        t.render c = .error halt := by
    intro hnot
    rw [← hok] at hnot
    cases hrender : t.render c with
    | ok text => exact absurd ⟨text, hrender⟩ hnot
    | error halt =>
      obtain ⟨before, s, after, hfirst⟩ := exists_firstHalt hrender
      exact ⟨before, s, after, halt, hfirst, rfl⟩
  refine ⟨⟨fun h => ?_, fun hnone => ⟨?_, fun _ => renderAllLossy_of_ok, fun hfails => ?_⟩⟩,
    fun hbreaks => ⟨renderAllLossy_eq_none hbreaks, herror fun h => hbreaks h.2⟩,
    fun s r => Segment.breaksOff_iff⟩
  · by_cases hfails : NoneFails ⟨c, 0⟩ t.segments
    · exact (hok.mp (h.ok_iff.mpr hfails)).2
    · obtain ⟨_, _, _, _, -, -, _, _, _, -, -, -, -, hlossy⟩ := h.otherwise hfails
      exact exists_renderAllLossy_eq_some_iff.mp ⟨_, hlossy⟩
  · rw [hok]
    exact and_iff_left hnone
  · obtain ⟨before, s, after, halt, hfirst, hrender⟩ := herror fun h => hfails h.1
    cases halt with
    | brokenOff => exact absurd hfirst.halts (hnone before s after hfirst.cut)
    | failed e =>
      obtain ⟨text, htext, hlossy⟩ := hfirst.renderAllLossy_eq
      obtain ⟨whole, hwhole⟩ := exists_renderAllLossy_eq_some_iff.mpr hnone
      rw [hwhole] at hlossy
      obtain ⟨rest, hrest, rfl⟩ := Option.map_eq_some_iff.mp hlossy.symm
      refine ⟨before, s, after, e, hfirst, hrender, text, _, rest, htext, rfl, ?_, ?_, hwhole⟩
      · rw [s.left_render, Resolver.behind_eq, Nat.zero_add]
      · rw [← hrest, Resolver.behind_append]
        rfl

/-- A day behind 24 hours, at the start of the last day of the calendar: the placeholder breaks off,
and the literal text on either side of it is lost. -/
theorem Template.renderings_disagree_lastMidnight :
    (parse "a/$\x7b + 24 hours + 1 day\x7d/b").render (Context.ofValues [.time .lastMidnight]) =
        .error .brokenOff ∧
      (parse "a/$\x7b + 24 hours + 1 day\x7d/b").renderLossy
        (Context.ofValues [.time .lastMidnight]) = none ∧
      ¬ (parse "a/$\x7b + 24 hours + 1 day\x7d/b").RenderingsAgree
        (Context.ofValues [.time .lastMidnight]) := by
  have hstrict : (parse "a/$\x7b + 24 hours + 1 day\x7d/b").render
      (Context.ofValues [.time .lastMidnight]) = .error .brokenOff := by decide +kernel
  have hlossy : (parse "a/$\x7b + 24 hours + 1 day\x7d/b").renderLossy
      (Context.ofValues [.time .lastMidnight]) = none := by decide +kernel
  refine ⟨hstrict, hlossy, fun h => ?_⟩
  by_cases hfails : NoneFails ⟨Context.ofValues [.time .lastMidnight], 0⟩
      (parse "a/$\x7b + 24 hours + 1 day\x7d/b").segments
  · obtain ⟨text, htext⟩ := h.ok_iff.mpr hfails
    rw [hstrict] at htext
    cases htext
  · obtain ⟨_, _, _, _, -, -, _, _, _, -, -, -, -, hsome⟩ := h.otherwise hfails
    rw [hlossy] at hsome
    cases hsome

end PathTemplate
