/-
# Tokens of a placeholder head

The head of a placeholder is what stands before the pattern: a reference and
time shifts. Its text is cut into lexemes by longest match: runs of space,
runs of digits, identifiers, the two signs, and one lexeme for each other
character, which is a fault. A fault does not end the cutting.

Key definitions: `Token`, `Lexeme`, `lexemes`, `locatedLexemes`.
Key theorems: `lexemes_flatMap_text`, no character is lost or changed.
-/
import PathTemplate.Decimal.Digits
import PathTemplate.Piece

namespace PathTemplate

open Decimal

/-- A word of a placeholder head. -/
inductive Token
  | space
  | plus
  | minus
  | integer (n : Nat)
  | identifier (name : String)
deriving DecidableEq, Repr

/-- A token as an error message names it. -/
def Token.shown : Token → String
  | space => "whitespace"
  | plus => "'+'"
  | minus => "'-'"
  | integer n => "number " ++ toString n
  | identifier name => "identifier '" ++ name ++ "'"

/-- What keeps a stretch of a head from being a token. -/
inductive LexFault
  | unexpectedCharacter (c : Char)
  | integerOverflow (digits : String)
deriving DecidableEq, Repr

/-- A stretch of a head and how it reads. -/
structure Lexeme where
  text : List Char
  reading : Except LexFault Token

/-- A space that may stand in a head; it separates a reference from its shifts. -/
def isHeadSpace (c : Char) : Bool := c == ' ' || c == '\t' || c == '\r' || c == '\n'

/-- A number reads as one when 64 bits hold it. -/
def readInteger (ds : List Char) : Except LexFault Token :=
  if digitsValue ds < twoTo 64 then .ok (.integer (digitsValue ds))
  else .error (.integerOverflow (String.ofList ds))

namespace Lexeme

/-- The lexeme that a head starting with `c` starts with, and what follows it. -/
def first (c : Char) (cs : List Char) : Lexeme × List Char :=
  if isHeadSpace c then (⟨c :: cs.takeWhile isHeadSpace, .ok .space⟩, cs.dropWhile isHeadSpace)
  else if c = '+' then (⟨[c], .ok .plus⟩, cs)
  else if c = '-' then (⟨[c], .ok .minus⟩, cs)
  else if c.isDigit then
    let ds := c :: cs.takeWhile Char.isDigit
    (⟨ds, readInteger ds⟩, cs.dropWhile Char.isDigit)
  else if isWordChar c then
    let name := c :: cs.takeWhile isWordChar
    (⟨name, .ok (.identifier (String.ofList name))⟩, cs.dropWhile isWordChar)
  else (⟨[c], .error (.unexpectedCharacter c)⟩, cs)

/-- A lexeme and what follows it make up the text they were cut from. -/
theorem first_text (c : Char) (cs : List Char) :
    (first c cs).1.text ++ (first c cs).2 = c :: cs := by
  unfold first
  repeat' split
  all_goals simp

/-- No lexeme is empty. -/
theorem first_text_ne_nil (c : Char) (cs : List Char) : (first c cs).1.text ≠ [] := by
  unfold first
  repeat' split
  all_goals simp

theorem first_rest_length (c : Char) (cs : List Char) :
    (first c cs).2.length < (c :: cs).length := by
  have h := congrArg List.length (first_text c cs)
  have := List.length_pos_iff.mpr (first_text_ne_nil c cs)
  simp only [List.length_append] at h
  omega

/-- The number of bytes that a lexeme takes. -/
def width (l : Lexeme) : Nat := utf8Width l.text

end Lexeme

/-- The lexemes of a head, from left to right. -/
def lexemes : List Char → List Lexeme
  | [] => []
  | c :: cs => (Lexeme.first c cs).1 :: lexemes (Lexeme.first c cs).2
termination_by cs => cs.length
decreasing_by exact Lexeme.first_rest_length c cs

/-- The lexemes of a head with their places, the head starting at byte `offset`. -/
def locatedLexemes (cs : List Char) (offset : Nat) : List (Located Lexeme) :=
  layOut Lexeme.width offset (lexemes cs)

/-- The lexemes of a head make it up: nothing is lost, added or moved. -/
theorem lexemes_flatMap_text (cs : List Char) : (lexemes cs).flatMap Lexeme.text = cs := by
  induction cs using lexemes.induct with
  | case1 => simp [lexemes]
  | case2 c cs ih => rw [lexemes, List.flatMap_cons, ih, Lexeme.first_text]

end PathTemplate
