/-
# The pieces of a template

A template is literal text with placeholders in it. Its pieces are found by
longest match from the left: `${` runs through the next `}`, or to the end of
the text when there is none; `$` followed by word characters takes the whole
run of them; a `$` that starts neither stands for itself; anything else runs
to the next `$`.

Key definitions: `Piece`, `Piece.text`, `pieces`, `locatedPieces`.
Key theorems: `pieces_flatMap_text`, no character is lost or changed.
-/
import PathTemplate.Span

namespace PathTemplate

/-- A letter, a digit or the underscore, in ASCII. -/
def isWordChar (c : Char) : Bool := c.isAlphanum || c == '_'

/-- A stretch of a template, with what stands between its delimiters. -/
inductive Piece
  /-- Text without a dollar sign. -/
  | literal (text : List Char)
  /-- The interior of `${...}`. -/
  | braced (interior : List Char)
  /-- The interior of a `${` that no brace closes. -/
  | unterminated (interior : List Char)
  /-- The name of `$name`. -/
  | bare (name : List Char)
  /-- A dollar sign that starts nothing. -/
  | dollar
deriving DecidableEq, Repr

namespace Piece

/-- The text of a piece as it stands in the template. -/
def text : Piece → List Char
  | literal cs => cs
  | braced cs => '$' :: '{' :: (cs ++ ['}'])
  | unterminated cs => '$' :: '{' :: cs
  | bare cs => '$' :: cs
  | dollar => ['$']

/-- The number of bytes that a piece takes in the template. -/
def width (p : Piece) : Nat := utf8Width p.text

/-- The piece that starts after `${`, and what follows it. -/
def ofOpenBrace (cs : List Char) : Piece × List Char :=
  match cs.dropWhile (· ≠ '}') with
  | [] => (unterminated cs, [])
  | _ :: rest => (braced (cs.takeWhile (· ≠ '}')), rest)

/-- The piece that starts after a `$` without a brace, and what follows it. -/
def ofDollar (cs : List Char) : Piece × List Char :=
  match cs.takeWhile isWordChar with
  | [] => (dollar, cs)
  | c :: name => (bare (c :: name), cs.dropWhile isWordChar)

/-- The first piece of a text that starts with `c`, and what follows it. -/
def first (c : Char) (cs : List Char) : Piece × List Char :=
  if c = '$' then
    match cs with
    | '{' :: rest => ofOpenBrace rest
    | rest => ofDollar rest
  else (literal (c :: cs.takeWhile (· ≠ '$')), cs.dropWhile (· ≠ '$'))

theorem dropWhile_ne_head {p : Char → Bool} {cs rest : List Char} {c : Char}
    (h : cs.dropWhile p = c :: rest) : p c = false := by
  induction cs with
  | nil => simp at h
  | cons d ds ih =>
    rw [List.dropWhile_cons] at h
    split at h
    · exact ih h
    · next hd => injection h with h1 _; subst h1; simpa using hd

theorem ofOpenBrace_text (cs : List Char) :
    (ofOpenBrace cs).1.text ++ (ofOpenBrace cs).2 = '$' :: '{' :: cs := by
  unfold ofOpenBrace
  split
  · simp [text]
  · next c rest h =>
    have hc : c = '}' := by simpa using dropWhile_ne_head h
    have := @List.takeWhile_append_dropWhile _ (fun x => decide (x ≠ '}')) cs
    rw [h, hc] at this
    simpa [text] using this

theorem ofDollar_text (cs : List Char) :
    (ofDollar cs).1.text ++ (ofDollar cs).2 = '$' :: cs := by
  unfold ofDollar
  split
  · simp [text]
  · next c name h =>
    have := @List.takeWhile_append_dropWhile _ isWordChar cs
    rw [h] at this
    simpa [text] using this

/-- A piece and what follows it make up the text they were cut from. -/
theorem first_text (c : Char) (cs : List Char) :
    (first c cs).1.text ++ (first c cs).2 = c :: cs := by
  unfold first
  split
  · next h =>
    subst h
    split
    · exact ofOpenBrace_text _
    · exact ofDollar_text _
  · simp [text]

/-- No piece is empty. -/
theorem first_text_ne_nil (c : Char) (cs : List Char) : (first c cs).1.text ≠ [] := by
  unfold first ofOpenBrace ofDollar
  repeat' split
  all_goals simp [text]

theorem first_rest_length (c : Char) (cs : List Char) :
    (first c cs).2.length < (c :: cs).length := by
  have h := congrArg List.length (first_text c cs)
  have := List.length_pos_iff.mpr (first_text_ne_nil c cs)
  simp only [List.length_append] at h
  omega

end Piece

/-- The pieces of a text, from left to right. -/
def pieces : List Char → List Piece
  | [] => []
  | c :: cs => (Piece.first c cs).1 :: pieces (Piece.first c cs).2
termination_by cs => cs.length
decreasing_by exact Piece.first_rest_length c cs

/-- The pieces of a text with their places in it. -/
def locatedPieces (cs : List Char) : List (Located Piece) := layOut Piece.width 0 (pieces cs)

/-- The pieces of a text make it up: nothing is lost, added or moved. -/
theorem pieces_flatMap_text (cs : List Char) : (pieces cs).flatMap Piece.text = cs := by
  induction cs using pieces.induct with
  | case1 => simp [pieces]
  | case2 c cs ih => rw [pieces, List.flatMap_cons, ih, Piece.first_text]

end PathTemplate
