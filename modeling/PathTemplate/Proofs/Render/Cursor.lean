/-
# The cursor of a template

Rendering passes one resolver through the segments of a template. An implicit
placeholder moves its cursor by one, whether or not it can be filled in, and
nothing else moves it (`Segment.left_render`). So behind some segments the
cursor stands at the number of implicit placeholders among them
(`Resolver.behind_eq`), the walk over a template can be cut anywhere
(`renderAll_append`, `renderAllLossy_append`), and an implicit reference says
the same as the position it comes to (`Template.render_explicit`).

Key definitions: `implicitCount`, `Resolver.behind`, `Template.explicit`.
Key theorems: `Segment.left_render`, `Resolver.behind_eq`, `renderAll_append`,
`renderAllLossy_append`, `renderAll_explicitFrom`, `renderAll_cursor`, `Template.render_explicit`.
-/
import Mathlib.Data.List.Basic
import PathTemplate.Proofs.Outcome
import PathTemplate.Render

namespace PathTemplate

/-! ### Where the cursor stands -/

/-- Whether a segment is a placeholder that takes the value at the cursor. -/
def Segment.isImplicit : Segment → Bool
  | .placeholder p => p.node.reference.node = .implicit
  | _ => false

/-- The number of implicit placeholders among some segments. -/
def implicitCount (ss : List Segment) : Nat := ss.countP Segment.isImplicit

@[simp] theorem implicitCount_nil : implicitCount [] = 0 := rfl

theorem implicitCount_cons (s : Segment) (ss : List Segment) :
    implicitCount (s :: ss) = (if s.isImplicit then 1 else 0) + implicitCount ss := by
  rw [implicitCount, List.countP_cons, Nat.add_comm]
  rfl

theorem implicitCount_append (ss us : List Segment) :
    implicitCount (ss ++ us) = implicitCount ss + implicitCount us := List.countP_append

/-- A placeholder leaves its resolver as its reference does, whatever becomes of the value. -/
theorem Placeholder.left_render (p : Placeholder) (span : Span) (r : Resolver) :
    (p.render span r).left = r.after p.reference.node := by
  rw [Placeholder.render, Resolver.take]
  cases r.resolve p.reference with
  | error e => rfl
  | ok v =>
    simp only
    cases (p.shiftValue v).2 with
    | error e => rfl
    | ok w =>
      simp only
      cases p.renderValue span w <;> rfl

/-- **Implicit placeholders move the cursor by one**, also where they fail, and nothing else moves
it. -/
theorem Segment.left_render (s : Segment) (r : Resolver) :
    (s.render r).left = { r with cursor := r.cursor + if s.isImplicit then 1 else 0 } := by
  cases s with
  | literal => rfl
  | malformed => rfl
  | placeholder p =>
    rw [Segment.render, Placeholder.left_render]
    obtain ⟨⟨⟨ref, place⟩, shifts, pattern⟩, span⟩ := p
    cases ref <;> rfl

/-- The resolver that some segments leave behind. -/
def Resolver.behind (r : Resolver) (ss : List Segment) : Resolver :=
  ss.foldl (fun r s => (s.render r).left) r

@[simp] theorem Resolver.behind_nil (r : Resolver) : r.behind [] = r := rfl

theorem Resolver.behind_cons (r : Resolver) (s : Segment) (ss : List Segment) :
    r.behind (s :: ss) = (s.render r).left.behind ss := rfl

theorem Resolver.behind_append (r : Resolver) (ss us : List Segment) :
    r.behind (ss ++ us) = (r.behind ss).behind us := List.foldl_append

/-- Behind some segments the cursor has moved by the implicit placeholders among them. -/
theorem Resolver.behind_eq (r : Resolver) (ss : List Segment) :
    r.behind ss = { r with cursor := r.cursor + implicitCount ss } := by
  induction ss generalizing r with
  | nil => rfl
  | cons s ss ih => rw [behind_cons, ih, s.left_render, implicitCount_cons, Nat.add_assoc]

/-! ### Cutting a walk -/

theorem renderAll_cons (r : Resolver) (s : Segment) (ss : List Segment) :
    renderAll r (s :: ss) = do
      let text ← (s.render r).result
      let rest ← renderAll (s.render r).left ss
      return text ++ rest := by
  rw [renderAll]
  cases (s.render r).result with
  | error halt => rfl
  | ok text => cases renderAll (s.render r).left ss <;> rfl

theorem renderAllLossy_cons (r : Resolver) (s : Segment) (ss : List Segment) :
    renderAllLossy r (s :: ss) = do
      let text ← (s.render r).lossy
      let rest ← renderAllLossy (s.render r).left ss
      return text ++ rest := by
  rw [renderAllLossy]
  cases (s.render r).lossy with
  | none => rfl
  | some text => cases renderAllLossy (s.render r).left ss <;> rfl

/-- Strict rendering gets through a segment and the rest, or it does not get through. -/
theorem renderAll_cons_eq_ok {r : Resolver} {s : Segment} {ss : List Segment} {text : String} :
    renderAll r (s :: ss) = .ok text ↔ ∃ first rest, (s.render r).result = .ok first ∧
      renderAll (s.render r).left ss = .ok rest ∧ first ++ rest = text := by
  simp only [renderAll_cons, bind_eq_ok, pure, Except.pure, Except.ok.injEq, exists_and_left]

/-- Strict rendering stops at a segment, or else behind it. -/
theorem renderAll_cons_eq_error {r : Resolver} {s : Segment} {ss : List Segment}
    {halt : Halt FormatError} :
    renderAll r (s :: ss) = .error halt ↔ (s.render r).result = .error halt ∨
      (∃ first, (s.render r).result = .ok first) ∧
        renderAll (s.render r).left ss = .error halt := by
  simp only [renderAll_cons, bind_eq_error, pure, Except.pure, reduceCtorEq, and_false,
    exists_false, or_false, exists_and_right]

/-- Strict rendering goes on behind some segments if it gets through them. -/
theorem renderAll_append (r : Resolver) (ss us : List Segment) :
    renderAll r (ss ++ us) = do
      let text ← renderAll r ss
      let rest ← renderAll (r.behind ss) us
      return text ++ rest := by
  induction ss generalizing r with
  | nil =>
    simp only [List.nil_append, Resolver.behind_nil]
    cases h : renderAll r us <;> simp [renderAll, bind, Except.bind, pure, Except.pure]
  | cons s ss ih =>
    rw [List.cons_append, renderAll_cons, renderAll_cons, ih, Resolver.behind_cons]
    cases (s.render r).result with
    | error e => rfl
    | ok text =>
      cases renderAll (s.render r).left ss with
      | error e => rfl
      | ok more =>
        cases renderAll ((s.render r).left.behind ss) us with
        | error e => rfl
        | ok rest => exact congrArg Except.ok String.append_assoc.symm

/-- Lossy rendering goes on behind some segments if none of them breaks off. -/
theorem renderAllLossy_append (r : Resolver) (ss us : List Segment) :
    renderAllLossy r (ss ++ us) = do
      let text ← renderAllLossy r ss
      let rest ← renderAllLossy (r.behind ss) us
      return text ++ rest := by
  induction ss generalizing r with
  | nil =>
    simp only [List.nil_append, Resolver.behind_nil]
    cases h : renderAllLossy r us <;> simp [renderAllLossy]
  | cons s ss ih =>
    rw [List.cons_append, renderAllLossy_cons, renderAllLossy_cons, ih, Resolver.behind_cons]
    cases (s.render r).lossy with
    | none => rfl
    | some text =>
      cases renderAllLossy (s.render r).left ss with
      | none => rfl
      | some more =>
        cases renderAllLossy ((s.render r).left.behind ss) us with
        | none => rfl
        | some rest => exact congrArg some String.append_assoc.symm

/-! ### Implicit references made explicit -/

/-- What a placeholder looks for, shifts and writes, one after the other. -/
theorem Placeholder.result_render (p : Placeholder) (span : Span) (r : Resolver) :
    (p.render span r).result = (do
      let v ← (r.resolve p.reference).mapError Halt.failed
      let w ← (p.shiftValue v).2
      (p.renderValue span w).mapError Halt.failed) := by
  rw [Placeholder.render, Resolver.take]
  cases r.resolve p.reference with
  | error e => rfl
  | ok v =>
    simp only
    change _ = ((p.shiftValue v).2 >>= fun w => (p.renderValue span w).mapError Halt.failed)
    cases (p.shiftValue v).2 with
    | error halt => rfl
    | ok w =>
      simp only
      change _ = (p.renderValue span w).mapError Halt.failed
      cases p.renderValue span w <;> rfl

namespace Segment

/-- A segment with the position `k` in place of an implicit reference. -/
def explicit (k : Nat) : Segment → Segment
  | placeholder ⟨⟨⟨.implicit, place⟩, shifts, pattern⟩, span⟩ =>
    placeholder ⟨⟨⟨.indexed k, place⟩, shifts, pattern⟩, span⟩
  | s => s

theorem isImplicit_explicit (k : Nat) (s : Segment) : (s.explicit k).isImplicit = false := by
  cases s with
  | literal => rfl
  | malformed => rfl
  | placeholder p =>
    obtain ⟨⟨⟨ref, place⟩, shifts, pattern⟩, span⟩ := p
    cases ref <;> rfl

theorem explicit_of_not_isImplicit {s : Segment} (h : s.isImplicit = false) (k : Nat) :
    s.explicit k = s := by
  cases s with
  | literal => rfl
  | malformed => rfl
  | placeholder p =>
    obtain ⟨⟨⟨ref, place⟩, shifts, pattern⟩, span⟩ := p
    cases ref with
    | named name => rfl
    | indexed index => rfl
    | implicit => cases h

/-- The position at the cursor can stand for an implicit reference. -/
theorem result_explicit (c : Context) (j k : Nat) (s : Segment) :
    ((s.explicit k).render ⟨c, j⟩).result = (s.render ⟨c, k⟩).result := by
  cases s with
  | literal => rfl
  | malformed => rfl
  | placeholder p =>
    obtain ⟨⟨⟨ref, place⟩, shifts, pattern⟩, span⟩ := p
    cases ref <;> simp only [explicit, Segment.render, Placeholder.result_render] <;> rfl

/-- A position does not move the cursor. -/
theorem left_explicit (k : Nat) (s : Segment) (r : Resolver) :
    ((s.explicit k).render r).left = r := by
  rw [Segment.left_render, isImplicit_explicit]
  rfl

end Segment

/-- Some segments with positions in place of their implicit references, counted from `k`. -/
def explicitFrom (k : Nat) (ss : List Segment) : List Segment :=
  ss.mapIdx fun i s => s.explicit (k + implicitCount (ss.take i))

theorem explicitFrom_cons (k : Nat) (s : Segment) (ss : List Segment) :
    explicitFrom k (s :: ss) =
      s.explicit k :: explicitFrom (k + if s.isImplicit then 1 else 0) ss := by
  simp only [explicitFrom, List.mapIdx_cons, List.take_zero, List.take_succ_cons, implicitCount_nil,
    implicitCount_cons, Nat.add_zero, Nat.add_assoc]

/-- Strict rendering with explicit positions needs no cursor. -/
theorem renderAll_explicitFrom (c : Context) (ss : List Segment) (j k : Nat) :
    renderAll ⟨c, j⟩ (explicitFrom k ss) = renderAll ⟨c, k⟩ ss := by
  induction ss generalizing k with
  | nil => rfl
  | cons s ss ih =>
    rw [explicitFrom_cons, renderAll_cons, renderAll_cons, s.left_explicit, s.left_render, ih,
      s.result_explicit]

/-- Lossy rendering with explicit positions needs no cursor. -/
theorem renderAllLossy_explicitFrom (c : Context) (ss : List Segment) (j k : Nat) :
    renderAllLossy ⟨c, j⟩ (explicitFrom k ss) = renderAllLossy ⟨c, k⟩ ss := by
  induction ss generalizing k with
  | nil => rfl
  | cons s ss ih =>
    rw [explicitFrom_cons, renderAllLossy_cons, renderAllLossy_cons, s.left_explicit,
      s.left_render, ih, Rendering.lossy, Rendering.lossy, s.result_explicit]

/-- Without implicit placeholders there is nothing to make explicit. -/
theorem explicitFrom_of_none {ss : List Segment} (h : implicitCount ss = 0) (k : Nat) :
    explicitFrom k ss = ss := by
  have hnone : ∀ s ∈ ss, s.isImplicit = false := fun s hs => by
    simpa using List.countP_eq_zero.mp h s hs
  refine List.ext_getElem (by simp [explicitFrom]) fun i hi hss => ?_
  simp only [explicitFrom, List.getElem_mapIdx]
  exact Segment.explicit_of_not_isImplicit (hnone _ (List.getElem_mem hss)) _

/-- Without implicit placeholders strict rendering does not depend on the cursor. -/
theorem renderAll_cursor (c : Context) {ss : List Segment} (h : implicitCount ss = 0) (j k : Nat) :
    renderAll ⟨c, j⟩ ss = renderAll ⟨c, k⟩ ss := by
  rw [← renderAll_explicitFrom c ss j k, explicitFrom_of_none h]

/-- A template in which the implicit placeholder behind `k` others refers to the position `k`. -/
def Template.explicit (t : Template) : Template := ⟨explicitFrom 0 t.segments⟩

/-- **An implicit reference is the position that it comes to**, counted over the implicit
placeholders alone: with positions in their place strict and lossy rendering give the same texts and
errors, and break off alike. For each of them moves the cursor by one, whatever becomes of it, and
no other segment does. -/
theorem Template.render_explicit (t : Template) (c : Context) :
    t.explicit.render c = t.render c ∧ t.explicit.renderLossy c = t.renderLossy c ∧
      (∀ s ∈ t.explicit.segments, s.isImplicit = false) ∧
      ∀ (s : Segment) (k : Nat),
        (s.render ⟨c, k⟩).left = ⟨c, if s.isImplicit then k + 1 else k⟩ := by
  refine ⟨renderAll_explicitFrom c t.segments 0 0, renderAllLossy_explicitFrom c t.segments 0 0,
    fun s hs => ?_, fun s k => ?_⟩
  · obtain ⟨i, hi, rfl⟩ := List.mem_mapIdx.mp hs
    exact Segment.isImplicit_explicit _ _
  · rw [s.left_render]
    cases s.isImplicit <;> rfl

end PathTemplate
