/-
# Reports

A report shows the line of a source that an error is about, with a label under
the place of the error. It begins with the message; where the place is not in
the source, that is all. The next row gives the file and the line and column of
the place. Then come the rows of the source and of the label, which hang on a
margin with line numbers, and a closing rule. Places are taken as numbers of
characters.

Key definitions: `Label`, `Label.report`, `FormatError.report`.
-/
import PathTemplate.FormatError
import PathTemplate.Text.Line
import PathTemplate.Text.Width

namespace PathTemplate

open Text

/-! ### Colours and cells -/

/-- A colour of a terminal. -/
inductive Ink
  | red
  | grey (shade : Nat)
deriving DecidableEq, Repr

namespace Ink

/-- The number that stands for a colour in a control sequence. -/
def code : Ink → String
  | red => "31"
  | grey shade => "38;5;" ++ toString shade

/-- A text between the control sequences that set a colour and reset it. -/
def paint (ink : Ink) (s : String) : String :=
  "\x1b[" ++ ink.code ++ "m" ++ s ++ "\x1b[0m"

end Ink

/-- The colour of margins with a line number, and of rules. -/
def marginInk : Ink := .grey 246

/-- The colour of margins without a line number. -/
def gapInk : Ink := .grey 240

/-- The colour of source text outside a label. -/
def sourceInk : Ink := .grey 249

/-- The same text several times. -/
def repeated (n : Nat) (s : String) : String := String.join (List.replicate n s)

/-- What stands in a column of some width: a first cell, and another one as often as it fits. -/
def filled (width : Nat) (first rest : String) : String :=
  match width with
  | 0 => ""
  | n + 1 => first ++ repeated n rest

/-- The distance of the places that tabs lead to. -/
def tabWidth : Nat := 4

/-- The width of a character that stands in a column. -/
def columnWidth (column : Nat) (c : Char) : Nat :=
  if c == '\t' then tabWidth - column % tabWidth
  else if isBlank c then 1
  else cellCount c

/-- A character in a colour; a blank is as many spaces as its column is wide. -/
def drawChar (ink : Ink) (column : Nat) (c : Char) : String :=
  if isBlank c then repeated (columnWidth column c) (ink.paint " ") else ink.paint c.toString

/-- The first columns of a line and their widths; a column after the line is one cell wide. -/
def columns (visible : List Char) (count : Nat) : List (Nat × Nat) :=
  (List.range count).map fun column =>
    (column, (visible[column]?).elim 1 (columnWidth column))

/-! ### Rows -/

/-- A message at a range of places, drawn with margins that hold numbers of `margin` digits. -/
structure Label where
  start : Nat
  stop : Nat
  text : String
  margin : Nat

namespace Label

/-- The last place of a label; of an empty one the place where it is. -/
def last (l : Label) : Nat := max l.start (l.stop - 1)

/-- Whether a place is inside a label. -/
def covers (l : Label) (place : Nat) : Bool := decide (l.start ≤ place ∧ place < l.stop)

/-- The margin of a row of source. -/
def numberMargin (l : Label) (number : Nat) : String :=
  let n := toString number
  " " ++ marginInk.paint (repeated (l.margin - n.length) " " ++ n ++ " │") ++ " "

/-- The margin of any other row, with a bar of a kind. -/
def gapMargin (l : Label) (bar : String) : String :=
  " " ++ gapInk.paint (repeated (l.margin + 1) " " ++ bar) ++ " "

/-- The text of a line, red where the label covers it. -/
def drawLine (l : Label) (line : Line) : String :=
  String.join (line.visible.mapIdx fun column c =>
    drawChar (if l.covers (line.start + column) then .red else sourceInk) column c)

/-- The column of a line in the middle of a label. -/
def middle (l : Label) (line : Line) : Nat := (l.start + l.stop) / 2 - line.start

/-- The columns under a line that a label takes, with two more for its hook. -/
def columnsUnder (l : Label) (line : Line) : List (Nat × Nat) :=
  columns line.visible (l.stop - line.start + 2)

/-- The line under a label, with a branch in its middle; under an empty label only a stem. -/
def underline (l : Label) (line : Line) : String :=
  String.join ((l.columnsUnder line).map fun (column, width) =>
    let inside := l.covers (line.start + column)
    if column == l.middle line then
      if inside then filled width (Ink.red.paint "┬") (Ink.red.paint "─")
      else filled width (Ink.red.paint "│") (Ink.red.paint " ")
    else if inside then repeated width (Ink.red.paint "─")
    else repeated width " ")

/-- The hook from the middle of a label to its text. -/
def hook (l : Label) (line : Line) : String :=
  String.join ((l.columnsUnder line).map fun (column, width) =>
    if column < l.middle line then repeated width " "
    else if column == l.middle line then filled width (Ink.red.paint "╰") (Ink.red.paint "─")
    else repeated width (Ink.red.paint "─"))

/-- The rows of a label on one line. If the label leaves the line, nothing of it is shown. -/
def inlineRows (l : Label) (line : Line) : List String :=
  if l.stop ≤ line.stop then
    [l.numberMargin (line.index + 1) ++ l.drawLine line,
      l.gapMargin "│" ++ l.underline line,
      l.gapMargin "│" ++ l.hook line ++ " " ++ l.text]
  else [l.gapMargin "│"]

/-- The row of a line that a bracket points at. -/
def bracketRow (l : Label) (corner : String) (line : Line) : String :=
  l.numberMargin (line.index + 1) ++ Ink.red.paint corner ++ Ink.red.paint "─" ++
    Ink.red.paint "▶" ++ Ink.red.paint " " ++ l.drawLine line

/-- The number of cells under a line, with two more for a hook. -/
def cellsUnder (line : Line) : Nat :=
  total ((columns line.visible (line.chars.length + 2)).map Prod.snd)

/-- The rows of a label that ends on a later line than it starts. A bracket holds the first and
the last of its lines, and lines in between are left out. If the label leaves its last line,
that one is left out too, and with it the text. -/
def bracketRows (l : Label) (first final : Line) : List String :=
  let whole := decide (l.stop ≤ final.stop)
  [l.bracketRow "╭" first] ++
    (if first.index + 1 == final.index && whole then []
      else [l.gapMargin "┆" ++ Ink.red.paint "┆" ++ "   "]) ++
    (if whole then
      [l.bracketRow "├" final,
        l.gapMargin "│" ++ Ink.red.paint "│" ++ repeated (cellsUnder final + 3) " ",
        l.gapMargin "│" ++ Ink.red.paint "╰" ++
          repeated (cellsUnder final + 3) (Ink.red.paint "─") ++ " " ++ l.text]
      else [])

/-- The rows of a label that starts on one line and ends on another or the same. -/
def rows (l : Label) (first final : Line) : List String :=
  if first.index == final.index then l.inlineRows first else l.bracketRows first final

end Label

/-! ### Reports -/

/-- The row that says where an error is: the file, and the line and column from 1. -/
def locationRow (margin : Nat) (file : String) (line column : Nat) : String :=
  repeated (margin + 2) " " ++ marginInk.paint "╭" ++ marginInk.paint "─" ++
    marginInk.paint "[" ++ file ++ ":" ++ toString line ++ ":" ++ toString column ++
    marginInk.paint "]"

/-- The rows for a place in a source, none if it is not in there. -/
def placeRows (source file : String) (span : Span) (text : String) : List String :=
  let cs := source.toList
  match lineAt cs span.start, lineAt cs (max span.start (span.stop - 1)) with
  | some first, some final =>
    let margin := (toString (final.index + 1)).length
    let label : Label := ⟨span.start, span.stop, text, margin⟩
    [locationRow margin file (first.index + 1) (span.start - first.start + 1),
        repeated (margin + 2) " " ++ marginInk.paint "│"] ++
      label.rows first final ++ [marginInk.paint (repeated (margin + 2) "─" ++ "╯")]
  | _, _ => []

/-- Rows as a text. -/
def unlines (rows : List String) : String := String.join (rows.map (· ++ "\n"))

namespace FormatError

/-- What the report of an error says first. -/
def headline : FormatError → String
  | malformed e => e.fault.text
  | e => e.message

/-- What the report of an error says at its place: the headline, and what could have stood there. -/
def label : FormatError → String
  | malformed e =>
    match e.fault.expected with
    | [] => e.fault.text
    | expected => e.fault.text ++ "\nExpected: " ++ ", ".intercalate expected
  | e => e.message

/-- The report of an error in a source. An error without a place has only its message. -/
def report (e : FormatError) (source file : String) : String :=
  match e.span with
  | none => "Error: " ++ e.message ++ "\n"
  | some span =>
    unlines ((Ink.red.paint "Error:" ++ " " ++ e.headline) :: placeRows source file span e.label)

end FormatError

end PathTemplate
