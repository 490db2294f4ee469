/-
# Bare names are shorthand

A dollar sign in front of a name says what the name between braces says. Braces
put around every bare name of a text leave its other pieces as they are, since
they change neither the first character of a piece nor what ends the one in front
of it. So the text reads as the same segments at other places, and is rendered
alike.

A name that starts with a digit is left alone: between braces the digits are a
position. Behind a dollar sign they are a name like any other, and are looked up
among the names only.

Key definitions: `Piece.embrace`, `embraceNames`.
Key theorems: `pieces_embrace`, `Segment.ofPiece_embrace`, `Template.bare_names_are_shorthand`.
-/
import PathTemplate.Proofs.Placeholder.Layout
import PathTemplate.Proofs.Render.Concatenation
import PathTemplate.Proofs.Template.Printing
import PathTemplate.Proofs.Template.Segmentation

namespace PathTemplate

open Placeholder

/-! ### Braces around names -/

/-- A piece, with braces around it if it is a bare name that starts with no digit. -/
def Piece.embrace : Piece → Piece
  | bare name => if name.head?.any isNameStart then braced name else bare name
  | p => p

/-- A text with braces around its bare names, those apart that start with a digit. -/
def embraceNames (source : String) : String :=
  String.ofList ((pieces source.toList).flatMap fun p => p.embrace.text)

namespace Piece

variable {p : Piece} {rest rest' : List Char}

theorem head?_embrace (p : Piece) : p.embrace.text.head? = p.text.head? := by
  cases p with
  | bare name =>
    rw [embrace]
    split <;> rfl
  | literal | braced | unterminated | dollar => rfl

theorem IsShaped.embrace (hp : p.IsShaped) : p.embrace.IsShaped := by
  cases p with
  | bare name =>
    rw [Piece.embrace]
    split
    · intro c hc
      apply decide_eq_true
      rintro rfl
      exact absurd (hp.2 _ hc) (by decide)
    · exact hp
  | literal | braced | unterminated | dollar => exact hp

/-- Only the first character behind a piece decides whether it ends there. -/
theorem EndsBefore.congr (h : p.EndsBefore rest) (hhead : rest.head? = rest'.head?) :
    p.EndsBefore rest' := by
  have hstop {q : Char → Bool} (hq : StopsAt q rest) : StopsAt q rest' := by
    intro c hc
    exact hq c (hhead ▸ hc)
  cases p with
  | literal => exact hstop h
  | braced => trivial
  | unterminated =>
    rw [show rest = [] from h] at hhead
    exact List.head?_eq_none_iff.mp hhead.symm
  | bare => exact hstop h
  | dollar => exact hstop h

theorem EndsBefore.embrace (h : p.EndsBefore rest) : p.embrace.EndsBefore rest := by
  cases p with
  | bare name =>
    rw [Piece.embrace]
    split
    · trivial
    · exact h
  | literal | braced | unterminated | dollar => exact h

end Piece

theorem head?_flatMap_embrace (cs : List Char) :
    ((pieces cs).flatMap fun p => p.embrace.text).head? = cs.head? := by
  cases cs with
  | nil => simp [pieces]
  | cons c cs =>
    have htext := Piece.first_text c cs
    obtain ⟨d, ds, hcons⟩ := List.exists_cons_of_ne_nil (Piece.first_text_ne_nil c cs)
    have hhead := Piece.head?_embrace (Piece.first c cs).1
    rw [hcons] at htext hhead
    rw [pieces, List.flatMap_cons, List.head?_append, hhead, ← htext]
    rfl

/-- **Braces around names are braces around pieces**: the text falls into the pieces that it did. -/
theorem pieces_embrace (cs : List Char) :
    pieces ((pieces cs).flatMap fun p => p.embrace.text) = (pieces cs).map Piece.embrace := by
  induction cs using pieces.induct with
  | case1 => simp [pieces]
  | case2 c cs ih =>
    obtain ⟨hshape, hends⟩ := Piece.first_spec c cs
    have hbehind := hends.congr (head?_flatMap_embrace (Piece.first c cs).2).symm
    rw [pieces, List.flatMap_cons, pieces_text_append hshape.embrace hbehind.embrace, ih]
    rfl

/-! ### Segments without their places -/

/-- A name between braces says what it says behind a dollar sign. -/
theorem Placeholder.read_identifier {name : List Char} (h : IsIdentifier name) (offset : Nat)
    (span span' : Span) : relocateReading nowhere (relocate nowhere) (read name offset span) =
      .ok ((ofName name span').relocate nowhere) := by
  have hwritable : (Reference.named (String.ofList name)).IsWritable := by
    rw [Reference.IsWritable, String.toList_ofList]
    exact h
  obtain ⟨p, hderives, href, hshifts, hpattern⟩ :=
    derives_written hwritable (List.forall_mem_nil _) none offset span
  have hinterior : writtenInterior (.named (String.ofList name)) [] none = name := by
    simp [writtenInterior, Reference.written, Reference.shown, writtenShifts, writtenPattern]
  rw [hinterior] at hderives
  obtain ⟨⟨node, place⟩, shifts, pattern⟩ := p
  obtain rfl : shifts = [] := List.map_eq_nil_iff.mp hshifts
  obtain rfl : pattern = none := Option.map_eq_none_iff.mp hpattern
  obtain rfl : node = .named (String.ofList name) := href
  rw [hderives.read_eq]
  rfl

namespace Segment

/-- The segment of what was read at `span`. -/
def ofReading (span : Span) : Except SyntaxError Placeholder → Segment
  | .ok p => placeholder ⟨p, span⟩
  | .error e => malformed (.malformed e)

theorem ofPiece_braced (interior : List Char) (span : Span) :
    ofPiece ⟨.braced interior, span⟩ = ofReading span (read interior (span.start + 2) span) := by
  rw [ofPiece]
  cases read interior (span.start + 2) span <;> rfl

theorem relocate_ofReading (f : Span → Span) (span : Span) (x : Except SyntaxError Placeholder) :
    (ofReading span x).relocate f =
      ofReading (f span) (relocateReading f (Placeholder.relocate f) x) := by
  cases x <;> rfl

/-- A piece reads alike wherever it stands. -/
theorem ofPiece_nowhere (p : Piece) (span span' : Span) :
    (ofPiece ⟨p, span⟩).relocate nowhere = (ofPiece ⟨p, span'⟩).relocate nowhere := by
  cases p with
  | braced interior =>
    rw [ofPiece_braced, ofPiece_braced, relocate_ofReading, relocate_ofReading,
      read_nowhere_congr rfl _ (span'.start + 2) _ span']
    rfl
  | literal | unterminated | bare | dollar => rfl

/-- **A bare name reads as it does between braces.** -/
theorem ofPiece_embrace {p : Piece} (hp : p.IsShaped) (span span' : Span) :
    (ofPiece ⟨p.embrace, span⟩).relocate nowhere = (ofPiece ⟨p, span'⟩).relocate nowhere := by
  cases p with
  | bare name =>
    rw [Piece.embrace]
    split
    · next hstart =>
      have hname : IsIdentifier name := by
        obtain ⟨c, cs, rfl⟩ := List.exists_cons_of_ne_nil hp.1
        exact ⟨⟨c, rfl, hstart⟩, hp.2⟩
      rw [ofPiece_braced, relocate_ofReading, read_identifier hname _ _ span']
      rfl
    · rfl
  | literal | braced | unterminated | dollar => exact ofPiece_nowhere _ span span'

theorem foldr_embrace {ps : List Piece} (hps : ∀ p ∈ ps, p.IsShaped) (place place' : Nat) :
    ((layOut Piece.width place (ps.map Piece.embrace)).foldr
        (fun p rest => (ofPiece p).joinTo rest) []).map (Segment.relocate nowhere) =
      ((layOut Piece.width place' ps).foldr
        (fun p rest => (ofPiece p).joinTo rest) []).map (Segment.relocate nowhere) := by
  induction ps generalizing place place' with
  | nil => rfl
  | cons p ps ih =>
    obtain ⟨hp, hps⟩ := List.forall_mem_cons.mp hps
    simp only [List.map_cons, layOut, List.foldr_cons, ← joinTo_relocate]
    rw [ofPiece_embrace hp, ih hps]

/-! ### Names that stay bare -/

theorem mem_joinTo_self {s : Segment} (hs : s.isLiteral = false) (ss : List Segment) :
    s ∈ s.joinTo ss := by
  rw [joinTo_of_not (fun h => by simp [hs] at h)]
  exact List.mem_cons_self

theorem mem_joinTo_of_mem {s t : Segment} {ss : List Segment} (ht : t.isLiteral = false)
    (h : t ∈ ss) : t ∈ s.joinTo ss := by
  cases s with
  | placeholder => exact List.mem_cons_of_mem _ h
  | malformed => exact List.mem_cons_of_mem _ h
  | literal a =>
    cases ss with
    | nil => cases h
    | cons u us =>
      cases u with
      | placeholder => exact List.mem_cons_of_mem _ h
      | malformed => exact List.mem_cons_of_mem _ h
      | literal b =>
        rcases List.mem_cons.mp h with rfl | h
        · cases ht
        · exact List.mem_cons_of_mem _ h

/-- A piece that is not literal text is a segment of its own. -/
theorem mem_foldr_joinTo {p : Located Piece} {ps : List (Located Piece)}
    (hp : (ofPiece p).isLiteral = false) (h : p ∈ ps) :
    ofPiece p ∈ ps.foldr (fun p rest => (ofPiece p).joinTo rest) [] := by
  induction ps with
  | nil => cases h
  | cons q ps ih =>
    rcases List.mem_cons.mp h with rfl | h
    · exact mem_joinTo_self hp _
    · exact mem_joinTo_of_mem hp (ih h)

end Segment

/-- A name is looked up among the names, and its fault is that none of them is it. -/
theorem Resolver.resolve_ofName (r : Resolver) (name : List Char) (span : Span) :
    (∀ v, r.resolve (ofName name span).reference = .ok v ↔
        r.context.get (String.ofList name) = some v) ∧
      ∀ e, r.resolve (ofName name span).reference = .error e ↔
        r.context.get (String.ofList name) = none ∧ e = .unknownName (String.ofList name) span := by
  simp only [resolve, ofName]
  cases r.context.get (String.ofList name) with
  | some v => simp
  | none => simp [eq_comm]

theorem keepsEnds_nowhere : KeepsEnds nowhere := fun _ _ => rfl

/-- **Bare names are shorthand for names between braces.** With braces around its bare names, those
that start with a digit apart, a text reads as the same segments at other places; in every context
it is rendered to the same text, or fails with the same error at another place. A bare name,
whatever it starts with, reads as a placeholder that refers to a value by that name alone. -/
theorem Template.bare_names_are_shorthand (source : String) :
    (parse (embraceNames source)).segments.map (Segment.relocate nowhere) =
        (parse source).segments.map (Segment.relocate nowhere) ∧
      (∀ c, (∀ text, format (embraceNames source) c = .ok text ↔ format source c = .ok text) ∧
        (format (embraceNames source) c).mapError (Halt.map (FormatError.relocate nowhere)) =
          (format source c).mapError (Halt.map (FormatError.relocate nowhere))) ∧
      ∀ name span, ⟨.bare name, span⟩ ∈ locatedPieces source.toList →
        ∃ p, .placeholder ⟨p, span⟩ ∈ (parse source).segments ∧
          p.reference.node = .named (String.ofList name) ∧ p.shifts = [] ∧ p.pattern = none ∧
          ∀ r : Resolver, (∀ v, r.resolve p.reference = .ok v ↔
              r.context.get (String.ofList name) = some v) ∧
            ∀ e, r.resolve p.reference = .error e ↔ r.context.get (String.ofList name) = none ∧
              e = .unknownName (String.ofList name) p.reference.span := by
  have hsegments : (parse (embraceNames source)).segments.map (Segment.relocate nowhere) =
      (parse source).segments.map (Segment.relocate nowhere) := by
    rw [parse, parse, embraceNames, String.toList_ofList, locatedPieces, pieces_embrace]
    exact Segment.foldr_embrace (forall_isShaped_pieces _) 0 0
  have hformat (c : Context) :
      (format (embraceNames source) c).mapError (Halt.map (FormatError.relocate nowhere)) =
        (format source c).mapError (Halt.map (FormatError.relocate nowhere)) := by
    rw [format, format, render, render, ← renderAll_relocate keepsEnds_nowhere, hsegments,
      renderAll_relocate keepsEnds_nowhere]
  refine ⟨hsegments, fun c => ⟨fun text => ?_, hformat c⟩, fun name span hmem => ?_⟩
  · rw [← mapError_eq_ok_iff, hformat c, mapError_eq_ok_iff]
  · exact ⟨ofName name ⟨span.start + 1, span.stop⟩, Segment.mem_foldr_joinTo rfl hmem, rfl, rfl, rfl,
      fun r => r.resolve_ofName name _⟩

/-- A name behind a literal dollar sign, one in front of a brace, and digits that are a name. -/
theorem Template.bare_names_are_shorthand_digits :
    embraceNames "$$dir\x7d$7" = "$$\x7bdir\x7d\x7d$7" ∧
      (parse "$$\x7bdir\x7d\x7d$7").segments.map (Segment.relocate nowhere) =
        (parse "$$dir\x7d$7").segments.map (Segment.relocate nowhere) ∧
      ∃ p, .placeholder ⟨p, 6, 8⟩ ∈ (parse "$$dir\x7d$7").segments ∧
        p.reference.node = .named "7" ∧ p.reference.node ≠ .indexed 7 := by
  have hembrace : embraceNames "$$dir\x7d$7" = "$$\x7bdir\x7d\x7d$7" := by decide +kernel
  have hmem : ⟨.bare ['7'], 6, 8⟩ ∈ locatedPieces "$$dir\x7d$7".toList := by decide +kernel
  obtain ⟨hsegments, -, hbare⟩ := bare_names_are_shorthand "$$dir\x7d$7"
  rw [hembrace] at hsegments
  obtain ⟨p, hp, href, -⟩ := hbare ['7'] ⟨6, 8⟩ hmem
  exact ⟨hembrace, hsegments, p, hp, href, by rw [href]; decide⟩

end PathTemplate
