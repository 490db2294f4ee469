/-
# The lines of a text

A line reaches to the end of its line break, or of the text; the empty text has
no lines. Places are counted in characters here. Every place up to the end of
the text is on a line: the last one that starts at or before it.

Key definitions: `splitLines`, `Line`, `linesOf`, `lineAt`.
Key theorems: `splitLines_flatten`.
-/
import PathTemplate.Text.Blank

namespace PathTemplate.Text

/-- A character that ends a line. -/
def isLineBreak (c : Char) : Bool :=
  let n := c.toNat
  (10 ≤ n && n ≤ 13) || n == 0x85 || n == 0x2028 || n == 0x2029

/-- A text cut after its line breaks; a carriage return with a line feed is one. -/
def splitLines : List Char → List (List Char)
  | [] => []
  | c :: cs =>
    if isLineBreak c && !(c == '\r' && cs.head? == some '\n') then [c] :: splitLines cs
    else
      match splitLines cs with
      | [] => [[c]]
      | l :: ls => (c :: l) :: ls

/-- The lines of a text make up the text. -/
theorem splitLines_flatten (cs : List Char) : (splitLines cs).flatten = cs := by
  induction cs with
  | nil => rfl
  | cons c cs ih =>
    rw [splitLines]
    split
    · simp [ih]
    · cases h : splitLines cs with
      | nil => simp [h] at ih; simp [← ih]
      | cons l ls => simp [h] at ih; simp [ih]

/-- A line with its line break: its number and its first place, both from 0, and its text. -/
structure Line where
  index : Nat
  start : Nat
  chars : List Char
deriving DecidableEq, Repr

namespace Line

/-- The place after a line. -/
def stop (l : Line) : Nat := l.start + l.chars.length

/-- What can be seen of a line. -/
def visible (l : Line) : List Char := trimEnd l.chars

end Line

/-- Lines one after another, the first with number `index` and at place `start`. -/
def placeLines (index start : Nat) : List (List Char) → List Line
  | [] => []
  | l :: ls => ⟨index, start, l⟩ :: placeLines (index + 1) (start + l.length) ls

/-- The lines of a text. -/
def linesOf (cs : List Char) : List Line := placeLines 0 0 (splitLines cs)

/-- The line of a place that is not beyond the end of the text. -/
def lineAt (cs : List Char) (place : Nat) : Option Line :=
  if place ≤ cs.length then ((linesOf cs).filter fun l => decide (l.start ≤ place)).getLast?
  else none

end PathTemplate.Text
