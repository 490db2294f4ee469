/-
# Kinds of values, and what they refuse

Key definitions: `Kind`, `PatternFault`, `ValueError`, `ValueError.message`, `Halt`.
-/

namespace PathTemplate

/-- The kinds of values that a placeholder can stand for. -/
inductive Kind
  | time
  | integer
  | float
  | text
deriving DecidableEq, Repr

/-- A kind as messages show it. -/
def Kind.word : Kind → String
  | time => "time"
  | integer => "integer"
  | float => "float"
  | text => "text"

/-- The cause for which a value cannot follow a pattern. -/
inductive PatternFault
  /-- A point stands in the pattern of a kind without places. -/
  | precisionNotAllowed
  /-- Something other than digits stands where a size is meant. -/
  | notDigits
  | widthTooLarge
  | precisionTooLarge
  /-- A specifier of a time pattern is unknown or cut off. -/
  | unknownSpecifier
  /-- A specifier of a time pattern can be read but not written. -/
  | unwritable
  /-- A cause that a caller words itself. -/
  | reported (reason : String)
deriving DecidableEq, Repr

/-- The wording of the cause. -/
def PatternFault.reason : PatternFault → String
  | precisionNotAllowed => "precision is only valid for floats"
  | notDigits => "expected digits"
  | widthTooLarge => "width is too large"
  | precisionTooLarge => "precision is too large"
  | unknownSpecifier => "unknown strftime specifier"
  | unwritable => "cannot format this time"
  | reported reason => reason

/-- What a value refuses, before its place in a template is known. -/
inductive ValueError
  /-- The kind does not support what is asked of it. -/
  | unsupported (kind : Kind) (operation : String)
  | invalidPattern (kind : Kind) (pattern : String) (fault : PatternFault)
  /-- A shift, as it is shown, leads out of the range of times. -/
  | timeOutOfRange (shift : String)
deriving DecidableEq, Repr

/-- The wording of a refusal. -/
def ValueError.message : ValueError → String
  | unsupported kind operation => kind.word ++ " formatter does not support " ++ operation
  | invalidPattern kind pattern fault =>
    "invalid " ++ kind.word ++ " pattern '" ++ pattern ++ "': " ++ fault.reason
  | timeOutOfRange shift => "time shift '" ++ shift ++ "' is out of range"

/-- How work ends that has no result. -/
inductive Halt (ε : Type)
  /-- It fails, and the error says why. -/
  | failed (error : ε)
  /-- It breaks off on the spot. Nothing says why, and nothing is done any more. -/
  | brokenOff
deriving DecidableEq, Repr

/-- The same end, with the error said otherwise. -/
def Halt.map {ε δ : Type} (f : ε → δ) : Halt ε → Halt δ
  | failed e => failed (f e)
  | brokenOff => brokenOff

end PathTemplate
