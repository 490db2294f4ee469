/-
# Faults in the text of a placeholder

A fault is the cause for which a placeholder cannot be read. Its wording, and
what could have stood there instead, are functions of the cause.

Key definitions: `SyntaxFault`, `SyntaxFault.text`, `SyntaxFault.expected`, `SyntaxError`.
-/
import PathTemplate.Head.Token

namespace PathTemplate

/-- What could have stood where a head goes wrong, as far as a message says it. -/
inductive Expectation
  | space
  | closing
deriving DecidableEq, Repr

/-- An expectation as messages show it. -/
def Expectation.shown : Expectation → String
  | space => Token.space.shown
  | closing => "end of placeholder"

/-- The cause for which a placeholder cannot be read. -/
inductive SyntaxFault
  /-- No brace closes the placeholder. -/
  | unterminatedPlaceholder
  /-- A stretch of the head is no token. -/
  | lexical (fault : LexFault)
  /-- The head cannot go on with this token, or cannot end here. -/
  | unexpected (found : Option Token) (expected : List Expectation)
  /-- An identifier stands for a unit and names none. -/
  | unknownUnit (word : String)
  /-- Nothing but blanks follows the bar. -/
  | missingPattern
  /-- A pattern starts with a quote and does not end with another. -/
  | unterminatedQuote
  /-- A blank stands in a pattern without quotes. -/
  | blankInPattern
  /-- A quote or a bar stands in a pattern without quotes. -/
  | strayInPattern (c : Char)
  /-- A cause that a caller words itself. -/
  | reported (text : String) (expected : List String)
deriving DecidableEq, Repr

namespace SyntaxFault

/-- What a token is called in a message; at the end of the head there is none. -/
def foundText : Option Token → String
  | some t => t.shown
  | none => Expectation.closing.shown

/-- The wording of a fault. -/
def text : SyntaxFault → String
  | unterminatedPlaceholder => "Unterminated placeholder"
  | lexical (.integerOverflow digits) => "Number '" ++ digits ++ "' is too large"
  | lexical (.unexpectedCharacter c) => "Unexpected character '" ++ c.toString ++ "'"
  | unexpected found _ => "Unexpected " ++ foundText found
  | unknownUnit word => "Unknown time unit '" ++ word ++ "'"
  | missingPattern => "Missing pattern after '|'"
  | unterminatedQuote => "Unterminated quote in pattern"
  | blankInPattern => "Patterns containing whitespace must be quoted"
  | strayInPattern c => "Unexpected '" ++ c.toString ++ "' in pattern"
  | reported text _ => text

/-- What a fault's message lists as expected in its place. -/
def expected : SyntaxFault → List String
  | unterminatedPlaceholder => ["'\x7d'"]
  | unexpected _ expected => expected.map Expectation.shown
  | missingPattern => ["pattern"]
  | unterminatedQuote => ["'\"'"]
  | reported _ expected => expected
  | _ => []

end SyntaxFault

/-- A fault with its place in the template. -/
structure SyntaxError where
  fault : SyntaxFault
  span : Span
deriving DecidableEq, Repr

end PathTemplate
