/-
# Errors of a template

Key definitions: `FormatError`, `FormatError.span`, `FormatError.message`, `FormatError.sentinel`.
-/
import PathTemplate.SyntaxFault
import PathTemplate.Value.Fault

namespace PathTemplate

/-- What can go wrong with a template or the values it is filled with. -/
inductive FormatError
  /-- A placeholder cannot be read. -/
  | malformed (error : SyntaxError)
  /-- No value has the name. -/
  | unknownName (name : String) (span : Span)
  /-- No value has the position among `count` values. -/
  | indexOutOfRange (index count : Nat) (span : Span)
  /-- A value refuses what the template asks of it. -/
  | value (cause : ValueError) (span : Span)
  /-- Two values have one name. -/
  | duplicateName (name : String)
deriving DecidableEq, Repr

namespace FormatError

/-- The place of an error in the template, if it has one. -/
def span : FormatError → Option Span
  | malformed e => some e.span
  | unknownName _ span | indexOutOfRange _ _ span | value _ span => some span
  | duplicateName _ => none

/-- The wording of an error. -/
def message : FormatError → String
  | malformed e =>
    "syntax error at " ++ toString e.span.start ++ ".." ++ toString e.span.stop ++ ": " ++
      e.fault.text
  | unknownName name _ => "unknown formatter '" ++ name ++ "'"
  | indexOutOfRange index count _ =>
    "formatter index " ++ toString index ++ " is out of range (" ++ toString count ++
      " available)"
  | value cause _ => cause.message
  | duplicateName name => "duplicate formatter name '" ++ name ++ "'"

/-- The text that stands in the output for a placeholder that failed. -/
def sentinel (e : FormatError) : String := "%!(" ++ e.message ++ ")"

end FormatError

end PathTemplate
