/-
# White space at the edges of a text

A character is blank when Unicode gives it the property White_Space. Trimming
removes blanks from the edges of a text and nothing else.

Key definitions: `isBlank`, `trimStart`, `trimEnd`, `trim`.
Key theorems: `leading_append_trimStart`.
-/

namespace PathTemplate.Text

/-- Tells whether a character has the Unicode property White_Space. -/
def isBlank (c : Char) : Bool :=
  let n := c.toNat
  (9 ≤ n && n ≤ 13) || n == 0x20 || n == 0x85 || n == 0xA0 || n == 0x1680 ||
    (0x2000 ≤ n && n ≤ 0x200A) || n == 0x2028 || n == 0x2029 || n == 0x202F ||
    n == 0x205F || n == 0x3000

/-- The blanks that a text begins with. -/
def leadingBlanks (cs : List Char) : List Char := cs.takeWhile isBlank

/-- A text without the blanks it begins with. -/
def trimStart (cs : List Char) : List Char := cs.dropWhile isBlank

/-- A text without the blanks it ends with. -/
def trimEnd (cs : List Char) : List Char := (cs.reverse.dropWhile isBlank).reverse

/-- A text without the blanks at either end. -/
def trim (cs : List Char) : List Char := trimEnd (trimStart cs)

theorem leading_append_trimStart (cs : List Char) : leadingBlanks cs ++ trimStart cs = cs :=
  List.takeWhile_append_dropWhile

end PathTemplate.Text
