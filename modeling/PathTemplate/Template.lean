/-
# Templates

A template is literal text with placeholders in it. Reading one never fails as
a whole: a placeholder that cannot be read stays in it as its error, so that a
caller can stop there or go on.

Key definitions: `Segment`, `Template`, `Template.parse`, `Template.compile`.
-/
import PathTemplate.FormatError
import PathTemplate.Placeholder

namespace PathTemplate

/-- A part of a template. -/
inductive Segment
  /-- Text that is copied as it is. -/
  | literal (text : String)
  /-- A placeholder and its whole place. -/
  | placeholder (p : Located Placeholder)
  /-- A placeholder that cannot be read, as the error that is raised in its place. -/
  | malformed (error : FormatError)
deriving DecidableEq, Repr

namespace Segment

/-- The segment that a piece stands for, literal text apart. -/
def ofPiece : Located Piece → Segment
  | ⟨.literal text, _⟩ => literal (String.ofList text)
  | ⟨.dollar, _⟩ => literal "$"
  | ⟨.bare name, span⟩ =>
    placeholder ⟨Placeholder.ofName name ⟨span.start + 1, span.stop⟩, span⟩
  | ⟨.braced interior, span⟩ =>
    match Placeholder.read interior (span.start + 2) span with
    | .ok p => placeholder ⟨p, span⟩
    | .error e => malformed (.malformed e)
  | ⟨.unterminated _, span⟩ => malformed (.malformed ⟨.unterminatedPlaceholder, span⟩)

/-- A segment in front of others; literal text joins literal text that follows it. -/
def joinTo : Segment → List Segment → List Segment
  | literal a, literal b :: rest => literal (a ++ b) :: rest
  | s, rest => s :: rest

end Segment

/-- A template that has been read. -/
structure Template where
  segments : List Segment
deriving DecidableEq, Repr

namespace Template

/-- Reads a template. No two literal segments stand side by side. -/
def parse (source : String) : Template :=
  ⟨(locatedPieces source.toList).foldr (fun p rest => (Segment.ofPiece p).joinTo rest) []⟩

/-- The errors of the placeholders that cannot be read, in the order of the text. -/
def errors (t : Template) : List FormatError :=
  t.segments.filterMap fun | .malformed e => some e | _ => none

/-- The placeholders that can be read, in the order of the text. -/
def placeholders (t : Template) : List (Located Placeholder) :=
  t.segments.filterMap fun | .placeholder p => some p | _ => none

/-- Reads a template all of whose placeholders can be read, or gives the first error. -/
def compile (source : String) : Except FormatError Template :=
  match (parse source).errors with
  | [] => .ok (parse source)
  | e :: _ => .error e

end Template

end PathTemplate
