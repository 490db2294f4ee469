/-
# Places inside a text

A byte of a text is an edge when it is as far from the start as some first
characters of the text take: it splits no character. A span lies in a text when
both its ends are edges and it does not end before it starts. What lies in a
part of a text lies in the text, at the same place.

A span shows what stands there, and what stands in front of it tells how far
from the start that is.

Parts that are laid out one behind the other lie in the text that they make up,
each behind the one before it. Parts that cover a text without a gap, each shown
at its place, are laid out there and make it up.

Key definitions: `IsEdge`, `Span.LiesIn`, `Span.Shows`, `FollowIn`, `AreConsecutive`.
Key theorems: `IsEdge.bounds`, `Span.LiesIn.enclosed`, `Span.liesIn_part`, `Span.Shows.enclosed`,
`followIn_layOut`, `shows_of_mem_layOut`, `AreConsecutive.eq_layOut`, `leading_trim_trailing`.
-/
import PathTemplate.Span
import PathTemplate.Text.Blank

namespace PathTemplate

/-- Whether byte `n` is at the edge of a character of the text `cs`, which starts at byte
`place`. -/
def IsEdge (cs : List Char) (place n : Nat) : Prop :=
  ∃ front back, cs = front ++ back ∧ n = place + utf8Width front

/-- Whether a span is the place of a part of the text `cs`, which starts at byte `place`. -/
structure Span.LiesIn (s : Span) (cs : List Char) (place : Nat) : Prop where
  start : IsEdge cs place s.start
  stop : IsEdge cs place s.stop
  ordered : s.start ≤ s.stop

variable {cs : List Char} {place n : Nat}

/-! ### Edges -/

/-- A text that is not empty takes bytes. -/
theorem utf8Width_pos (h : cs ≠ []) : 0 < utf8Width cs := by
  cases cs with
  | nil => exact absurd rfl h
  | cons c cs =>
    rw [utf8Width_cons]
    exact Nat.lt_of_lt_of_le c.utf8Size_pos (Nat.le_add_right _ _)

theorem eq_nil_of_utf8Width (h : utf8Width cs = 0) : cs = [] :=
  Classical.byContradiction fun hne => Nat.ne_of_gt (utf8Width_pos hne) h

/-- The bytes in front of a place in a text tell where the text is cut there. -/
theorem append_inj_of_utf8Width {as as' bs bs' : List Char} (h : as ++ bs = as' ++ bs')
    (hwidth : utf8Width as = utf8Width as') : as = as' ∧ bs = bs' := by
  -- what one front has more than the other takes no bytes
  rcases List.append_eq_append_iff.mp h with ⟨more, rfl, rfl⟩ | ⟨more, rfl, rfl⟩
  · rw [utf8Width_append] at hwidth
    obtain rfl : more = [] := eq_nil_of_utf8Width (by omega)
    exact ⟨(List.append_nil _).symm, rfl⟩
  · rw [utf8Width_append] at hwidth
    obtain rfl : more = [] := eq_nil_of_utf8Width (by omega)
    exact ⟨List.append_nil _, rfl⟩

theorem isEdge_start (cs : List Char) (place : Nat) : IsEdge cs place place :=
  ⟨[], cs, rfl, rfl⟩

theorem isEdge_stop (cs : List Char) (place : Nat) : IsEdge cs place (place + utf8Width cs) :=
  ⟨cs, [], (List.append_nil cs).symm, rfl⟩

theorem IsEdge.bounds (h : IsEdge cs place n) : place ≤ n ∧ n ≤ place + utf8Width cs := by
  obtain ⟨front, back, rfl, rfl⟩ := h
  rw [utf8Width_append]
  omega

/-- At an edge in front of the end a character starts. -/
theorem IsEdge.exists_cons (h : IsEdge cs place n) (hn : n < place + utf8Width cs) :
    ∃ front d back, cs = front ++ d :: back ∧ n = place + utf8Width front := by
  obtain ⟨front, back, rfl, rfl⟩ := h
  cases back with
  | nil =>
    rw [List.append_nil] at hn
    exact absurd hn (Nat.lt_irrefl _)
  | cons d back => exact ⟨front, d, back, rfl, rfl⟩

/-- An edge of a part of a text is an edge of the text. -/
theorem IsEdge.enclosed {as : List Char} (h : IsEdge cs (place + utf8Width as) n)
    (bs : List Char) : IsEdge (as ++ (cs ++ bs)) place n := by
  obtain ⟨front, back, rfl, rfl⟩ := h
  refine ⟨as ++ front, back ++ bs, ?_, ?_⟩
  · simp only [List.append_assoc]
  · rw [utf8Width_append, Nat.add_assoc]

/-! ### Spans -/

theorem Span.liesIn_whole (cs : List Char) (place : Nat) :
    (⟨place, place + utf8Width cs⟩ : Span).LiesIn cs place :=
  ⟨isEdge_start cs place, isEdge_stop cs place, Nat.le_add_right _ _⟩

/-- At its end a text has an empty place. -/
theorem Span.liesIn_end (cs : List Char) (place : Nat) :
    (⟨place + utf8Width cs, place + utf8Width cs⟩ : Span).LiesIn cs place :=
  ⟨isEdge_stop cs place, isEdge_stop cs place, Nat.le_refl _⟩

/-- What lies in a part of a text lies in the text. -/
theorem Span.LiesIn.enclosed {s : Span} {as : List Char} (h : s.LiesIn cs (place + utf8Width as))
    (bs : List Char) : s.LiesIn (as ++ (cs ++ bs)) place :=
  ⟨h.start.enclosed bs, h.stop.enclosed bs, h.ordered⟩

/-- The place of a part of a text lies in the text. -/
theorem Span.liesIn_part (as part bs : List Char) (place : Nat) :
    (⟨place + utf8Width as, place + utf8Width as + utf8Width part⟩ : Span).LiesIn
      (as ++ (part ++ bs)) place :=
  (Span.liesIn_whole part (place + utf8Width as)).enclosed bs

/-! ### What stands at a span -/

/-- Whether a span is the place of `text` in the text `cs`, which starts at byte `place`, where
`before` stands in front of it. -/
structure Span.Shows (s : Span) (cs : List Char) (place : Nat) (before text : List Char) : Prop where
  cut : ∃ after, cs = before ++ (text ++ after)
  span : s = ⟨place + utf8Width before, place + utf8Width before + utf8Width text⟩

section Shows

variable {s : Span} {before text : List Char}

/-- What a span shows in a part of a text it shows in the text. -/
theorem Span.Shows.enclosed {as : List Char} (h : s.Shows cs (place + utf8Width as) before text)
    (bs : List Char) : s.Shows (as ++ (cs ++ bs)) place (as ++ before) text := by
  obtain ⟨⟨after, rfl⟩, rfl⟩ := h
  refine ⟨⟨after ++ bs, ?_⟩, ?_⟩
  · simp only [List.append_assoc]
  · rw [utf8Width_append, Nat.add_assoc place]

end Shows

/-! ### One behind the other -/

/-- Whether some located things lie in a text one behind the other, from byte `pos` on. -/
def FollowIn {α : Type} (cs : List Char) (place : Nat) : Nat → List (Located α) → Prop
  | _, [] => True
  | pos, x :: xs => pos ≤ x.span.start ∧ x.span.LiesIn cs place ∧ FollowIn cs place x.span.stop xs

/-- Parts that are laid out are laid out on either side of a cut between them. -/
theorem layOut_of_eq_append {α : Type} {width : α → Nat} {xs : List α} {as bs : List (Located α)}
    (h : layOut width place xs = as ++ bs) :
    layOut width place (as.map Located.node) = as ∧
      layOut width (place + total ((as.map Located.node).map width)) (bs.map Located.node) = bs := by
  have hnodes := layOut_map_node width place xs
  have hlen := congrArg List.length (layOut_map_node width place (as.map Located.node))
  rw [h, List.map_append] at hnodes
  rw [← hnodes, layOut_append] at h
  rw [List.length_map, List.length_map] at hlen
  exact List.append_inj h hlen

/-- What is laid out behind `front` lies in the text that it makes up together with that. -/
theorem followIn_layOut {α : Type} {width : α → Nat} {text : α → List Char}
    (hwidth : ∀ x, width x = utf8Width (text x)) (place : Nat) (front : List Char) (xs : List α) :
    FollowIn (front ++ xs.flatMap text) place (place + utf8Width front)
      (layOut width (place + utf8Width front) xs) := by
  induction xs generalizing front with
  | nil => trivial
  | cons x xs ih =>
    rw [layOut, hwidth, List.flatMap_cons]
    refine ⟨Nat.le_refl _, Span.liesIn_part front (text x) (xs.flatMap text) place, ?_⟩
    have ih := ih (front ++ text x)
    rw [utf8Width_append, ← Nat.add_assoc, List.append_assoc] at ih
    exact ih

/-- Each part that is laid out stands at its place in the text that the parts make up. -/
theorem shows_of_mem_layOut {α : Type} {width : α → Nat} {text : α → List Char}
    (hwidth : ∀ x, width x = utf8Width (text x)) (place : Nat) (front : List Char) (xs : List α) :
    ∀ p ∈ layOut width (place + utf8Width front) xs,
      ∃ before, p.span.Shows (front ++ xs.flatMap text) place before (text p.node) := by
  induction xs generalizing front with
  | nil => nofun
  | cons x xs ih =>
    rw [layOut, hwidth, List.flatMap_cons]
    refine List.forall_mem_cons.mpr ⟨⟨front, ⟨xs.flatMap text, rfl⟩, rfl⟩, ?_⟩
    have ih := ih (front ++ text x)
    rw [utf8Width_append, ← Nat.add_assoc, List.append_assoc] at ih
    exact ih

/-- Whether places stand one behind the other without a gap from byte `start` to byte `stop`, none
of them empty. -/
def AreConsecutive (stop : Nat) : Nat → List Span → Prop
  | start, [] => start = stop
  | start, s :: ss => s.start = start ∧ s.start < s.stop ∧ AreConsecutive stop s.stop ss

/-- Parts that are laid out, none of them empty, leave no gap. -/
theorem areConsecutive_layOut {α : Type} {width : α → Nat} {text : α → List Char}
    (hwidth : ∀ x, width x = utf8Width (text x)) (place : Nat) {xs : List α}
    (hne : ∀ x ∈ xs, text x ≠ []) :
    AreConsecutive (place + utf8Width (xs.flatMap text)) place
      ((layOut width place xs).map Located.span) := by
  induction xs generalizing place with
  | nil => rfl
  | cons x xs ih =>
    obtain ⟨hx, hxs⟩ := List.forall_mem_cons.mp hne
    have hpos : 0 < width x := by
      rw [hwidth]
      exact utf8Width_pos hx
    rw [List.flatMap_cons, utf8Width_append, ← hwidth, ← Nat.add_assoc]
    exact ⟨rfl, Nat.lt_add_of_pos_right hpos, ih (place + width x) hxs⟩

/-- Parts that leave no gap behind `done` make up the rest of the text, and are laid out there. -/
theorem AreConsecutive.eq_layOut {α : Type} {width : α → Nat} {text : α → List Char}
    (hwidth : ∀ x, width x = utf8Width (text x)) {done rest : List Char} {xs : List (Located α)}
    (hspans : AreConsecutive (place + utf8Width (done ++ rest)) (place + utf8Width done)
      (xs.map Located.span))
    (hshown : ∀ x ∈ xs, ∃ before, x.span.Shows (done ++ rest) place before (text x.node)) :
    (xs.map Located.node).flatMap text = rest ∧
      layOut width (place + utf8Width done) (xs.map Located.node) = xs := by
  induction xs generalizing done rest with
  | nil =>
    have hend : place + utf8Width done = place + utf8Width (done ++ rest) := hspans
    rw [utf8Width_append, ← Nat.add_assoc] at hend
    obtain rfl := eq_nil_of_utf8Width (Nat.left_eq_add.mp hend)
    exact ⟨rfl, rfl⟩
  | cons x xs ih =>
    obtain ⟨node, span⟩ := x
    obtain ⟨hstart, -, hbehind⟩ := hspans
    obtain ⟨⟨before, ⟨after, hcut⟩, hspan⟩, hxs⟩ := List.forall_mem_cons.mp hshown
    obtain rfl : span = ⟨place + utf8Width before,
      place + utf8Width before + utf8Width (text node)⟩ := hspan
    obtain ⟨rfl, rfl⟩ := append_inj_of_utf8Width hcut (Nat.add_left_cancel hstart).symm
    have hplace : place + utf8Width done + utf8Width (text node) =
        place + utf8Width (done ++ text node) := by
      rw [utf8Width_append, Nat.add_assoc]
    rw [← List.append_assoc] at hbehind hxs
    obtain ⟨hcover, hlaid⟩ := ih (hplace ▸ hbehind) hxs
    constructor
    · rw [List.map_cons, List.flatMap_cons, hcover]
    · rw [List.map_cons, layOut, hwidth, hplace, hlaid]

theorem FollowIn.liesIn {α : Type} {pos : Nat} {xs : List (Located α)}
    (h : FollowIn cs place pos xs) : ∀ x ∈ xs, x.span.LiesIn cs place := by
  induction xs generalizing pos with
  | nil => nofun
  | cons x xs ih => exact List.forall_mem_cons.mpr ⟨h.2.1, ih h.2.2⟩

/-! ### Trimmed texts -/

namespace Text

/-- Trimming an end takes away what stands there. -/
theorem exists_trimEnd_append (cs : List Char) : ∃ trailing, trimEnd cs ++ trailing = cs := by
  refine ⟨(cs.reverse.takeWhile isBlank).reverse, ?_⟩
  rw [trimEnd, ← List.reverse_append, List.takeWhile_append_dropWhile, List.reverse_reverse]

/-- A trimmed text stands between the blanks that are taken from it. -/
theorem leading_trim_trailing (cs : List Char) :
    ∃ trailing, leadingBlanks cs ++ (trim cs ++ trailing) = cs := by
  obtain ⟨trailing, h⟩ := exists_trimEnd_append (trimStart cs)
  refine ⟨trailing, ?_⟩
  rw [trim, h, leading_append_trimStart]

theorem mem_of_mem_trim {c : Char} (h : c ∈ trim cs) : c ∈ cs := by
  obtain ⟨trailing, hcs⟩ := leading_trim_trailing cs
  rw [← hcs]
  exact List.mem_append_right _ (List.mem_append_left _ h)

end Text

end PathTemplate
