/-
# Placeholders

The interior of a placeholder is a head and, after the first bar, a pattern.
Blanks at the edges of either do not count. A pattern holds no blank, quote or
bar, or else it stands between quotes and holds anything.

Key definitions: `Placeholder`, `Placeholder.readPattern`, `Placeholder.read`.
-/
import PathTemplate.Head
import PathTemplate.Text.Blank

namespace PathTemplate

open Text

/-- What a placeholder says, each part with its place in the template. -/
structure Placeholder where
  reference : Located Reference
  shifts : List (Located Shift)
  pattern : Option (Located String)
deriving DecidableEq, Repr

namespace Placeholder

/-- Whether a character may not stand in a pattern without quotes. -/
def needsQuotes (c : Char) : Bool := isBlank c || c == '"' || c == '|'

/-- Reads the pattern that the text `raw` after a bar holds, `raw` starting at byte `offset`. -/
def readPattern (raw : List Char) (offset : Nat) : Except SyntaxError (Located String) :=
  let cs := trim raw
  let start := offset + utf8Width (leadingBlanks raw)
  let span : Span := ⟨start, start + utf8Width cs⟩
  match cs with
  | [] => .error ⟨.missingPattern, offset - 1, offset + utf8Width raw⟩
  | '"' :: rest =>
    if rest.getLast? = some '"' then .ok ⟨String.ofList rest.dropLast, span⟩
    else .error ⟨.unterminatedQuote, span⟩
  | cs =>
    match cs.dropWhile (!needsQuotes ·) with
    | [] => .ok ⟨String.ofList cs, span⟩
    | c :: _ =>
      let place := start + utf8Width (cs.takeWhile (!needsQuotes ·))
      let fault := if isBlank c then .blankInPattern else .strayInPattern c
      .error ⟨fault, place, place + c.utf8Size⟩

/--
Reads the interior of a placeholder. The interior starts at byte `offset`, and `span` is the
place of the whole placeholder, which is also the place of a reference that is not written.
The head is looked at before the pattern.
-/
def read (interior : List Char) (offset : Nat) (span : Span) : Except SyntaxError Placeholder := do
  let content := trim interior
  let start := offset + utf8Width (leadingBlanks interior)
  let headPart := content.takeWhile (· ≠ '|')
  let head ← Head.read (trimEnd headPart) start
  let pattern ← match content.dropWhile (· ≠ '|') with
    | [] => pure none
    | _ :: raw => some <$> readPattern raw (start + utf8Width headPart + 1)
  return ⟨head.reference.getD ⟨.implicit, span⟩, head.shifts, pattern⟩

/-- The placeholder that refers to a name and says nothing else. -/
def ofName (name : List Char) (span : Span) : Placeholder :=
  ⟨⟨.named (String.ofList name), span⟩, [], none⟩

end Placeholder

end PathTemplate
