/-
# Templates that can be read throughout

A template is compiled exactly when every placeholder in it can be read, and
compiling it then is reading it. Otherwise the error is that of the first
placeholder that cannot be read. A template that can be filled in is compiled.

Key theorems: `Template.compile_eq_ok_iff`, `Template.compile_eq_error_iff`,
`Template.compile_of_format`.
-/
import PathTemplate.Proofs.Render.Failures

namespace PathTemplate

namespace Template

theorem mem_errors {t : Template} {e : FormatError} :
    e ∈ t.errors ↔ .malformed e ∈ t.segments := by
  rw [errors, List.mem_filterMap]
  constructor
  · rintro ⟨s, hs, he⟩
    cases s with
    | literal | placeholder => cases he
    | malformed d =>
      cases he
      exact hs
  · exact fun h => ⟨_, h, rfl⟩

/-- **A template is compiled exactly if all its placeholders can be read.** -/
theorem compile_eq_ok_iff {source : String} {t : Template} :
    compile source = .ok t ↔ t = parse source ∧ ∀ e, .malformed e ∉ (parse source).segments := by
  have hnone : (parse source).errors = [] ↔ ∀ e, .malformed e ∉ (parse source).segments := by
    simp only [List.eq_nil_iff_forall_not_mem, mem_errors]
  rw [← hnone, compile]
  cases (parse source).errors with
  | nil => simp [eq_comm]
  | cons e es => simp

/-- **The error of compiling is that of the first placeholder that cannot be read.** -/
theorem compile_eq_error_iff {source : String} {e : FormatError} :
    compile source = .error e ↔ ∃ before after,
      (parse source).segments = before ++ .malformed e :: after ∧ ∀ d, .malformed d ∉ before := by
  have hfirst : compile source = .error e ↔ ∃ es, (parse source).errors = e :: es := by
    rw [compile]
    cases (parse source).errors with
    | nil => simp
    | cons d ds => simp
  rw [hfirst]
  constructor
  · rintro ⟨es, h⟩
    obtain ⟨before, s, after, hcut, hbefore, hs, -⟩ := List.filterMap_eq_cons_iff.mp h
    refine ⟨before, after, ?_, fun d hd => ?_⟩
    · cases s with
      | literal | placeholder => cases hs
      | malformed d =>
        cases hs
        exact hcut
    · cases hbefore _ hd
  · rintro ⟨before, after, hcut, hbefore⟩
    refine ⟨(⟨after⟩ : Template).errors, List.filterMap_eq_cons_iff.mpr ?_⟩
    refine ⟨before, _, after, hcut, fun s hs => ?_, rfl, rfl⟩
    cases s with
    | literal | placeholder => rfl
    | malformed d => exact absurd hs (hbefore d)

/-- A placeholder that cannot be read is not filled in either. -/
theorem compile_of_format {source text : String} {c : Context} (h : format source c = .ok text) :
    compile source = .ok (parse source) := by
  have hpass : Throughout Segment.HasText ⟨c, 0⟩ (parse source).segments :=
    exists_renderAll_eq_ok_iff.mp ⟨text, h⟩
  refine compile_eq_ok_iff.mpr ⟨rfl, fun e he => ?_⟩
  obtain ⟨before, after, hcut⟩ := List.append_of_mem he
  obtain ⟨_, htext⟩ := hpass before _ after hcut
  cases htext

end Template

end PathTemplate
