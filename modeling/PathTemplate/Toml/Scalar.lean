/-
# Simple values of TOML

Strings, numbers, truth values, dates and times, as TOML 1.0 writes them.

Key definitions: `Scalar.basicString`, `Scalar.multiLineString`, `Scalar.integer`,
`Scalar.float`, `Scalar.stamp`, `Scalar.value`.
-/
import PathTemplate.Decimal.Reader
import PathTemplate.Text.Reader
import PathTemplate.Toml.Item

namespace PathTemplate.Toml.Scalar

open Calendar Decimal Text Text.Reader

/-! ### Strings -/

/-- A character that may stand in a comment or a string: no control character but the tab. -/
def isPlain (c : Char) : Bool := c == '\t' || (' ' ≤ c && c != '\x7f')

/-- The value of a hexadecimal digit. -/
def hexValue (c : Char) : Option Nat :=
  if c.isDigit then some (c.toNat - '0'.toNat)
  else if 'a' ≤ c ∧ c ≤ 'f' then some (c.toNat - 'a'.toNat + 10)
  else if 'A' ≤ c ∧ c ≤ 'F' then some (c.toNat - 'A'.toNat + 10)
  else none

/-- The character of some hexadecimal digits, if it is one. -/
def hexChar (ds : List Char) : Option Char := do
  let n := (← ds.mapM hexValue).foldl (fun n d => 16 * n + d) 0
  if n.isValidChar then some (Char.ofNat n) else none

/-- The character of a one-letter escape. -/
def escapedChar : Char → Option Char
  | 'b' => some '\x08'
  | 't' => some '\t'
  | 'n' => some '\n'
  | 'f' => some '\x0c'
  | 'r' => some '\r'
  | '"' => some '"'
  | '\\' => some '\\'
  | _ => none

/-- A string with one more character in front. -/
def withChar (c : Option Char) (r : Option (List Char × List Char)) :
    Option (List Char × List Char) := do
  let (cs, rest) ← r
  return ((← c) :: cs, rest)

/-- Takes the rest of a string in double quotes. -/
def basicBody : Reader (List Char)
  | [] => none
  | '"' :: cs => some ([], cs)
  | '\\' :: 'u' :: a :: b :: c :: d :: cs => withChar (hexChar [a, b, c, d]) (basicBody cs)
  | '\\' :: 'U' :: a :: b :: c :: d :: e :: f :: g :: h :: cs =>
    withChar (hexChar [a, b, c, d, e, f, g, h]) (basicBody cs)
  | '\\' :: c :: cs => withChar (escapedChar c) (basicBody cs)
  | c :: cs => if isPlain c && c != '\\' then withChar (some c) (basicBody cs) else none

/-- Takes the rest of a string in single quotes. -/
def literalBody : Reader (List Char)
  | [] => none
  | '\'' :: cs => some ([], cs)
  | c :: cs => if isPlain c then withChar (some c) (literalBody cs) else none

/-- Whether a backslash at the end of a line is being followed up. -/
inductive Continuation
  /-- It is not. -/
  | none
  /-- Its line has yet to end. -/
  | pending
  /-- White space is being left out. -/
  | trimming
deriving DecidableEq, Repr

/-- Takes the rest of a string over several lines in double quotes. Up to two quotes may stand
before the closing three; a line break is written as one character. -/
def multiLineBody : Continuation → Reader (List Char)
  | .pending, ' ' :: cs | .pending, '\t' :: cs => multiLineBody .pending cs
  | .pending, '\n' :: cs | .pending, '\r' :: '\n' :: cs => multiLineBody .trimming cs
  | .pending, _ => none
  | .trimming, ' ' :: cs | .trimming, '\t' :: cs | .trimming, '\n' :: cs
  | .trimming, '\r' :: '\n' :: cs => multiLineBody .trimming cs
  | _, '"' :: '"' :: '"' :: '"' :: '"' :: cs => some (['"', '"'], cs)
  | _, '"' :: '"' :: '"' :: '"' :: cs => some (['"'], cs)
  | _, '"' :: '"' :: '"' :: cs => some ([], cs)
  | _, '\\' :: 'u' :: a :: b :: c :: d :: cs =>
    withChar (hexChar [a, b, c, d]) (multiLineBody .none cs)
  | _, '\\' :: 'U' :: a :: b :: c :: d :: e :: f :: g :: h :: cs =>
    withChar (hexChar [a, b, c, d, e, f, g, h]) (multiLineBody .none cs)
  | _, '\\' :: '\r' :: '\n' :: cs => multiLineBody .trimming cs
  | _, '\\' :: c :: cs =>
    if c = '\n' then multiLineBody .trimming cs
    else if c = ' ' ∨ c = '\t' then multiLineBody .pending cs
    else withChar (escapedChar c) (multiLineBody .none cs)
  | _, '\r' :: '\n' :: cs => withChar (some '\n') (multiLineBody .none cs)
  | _, c :: cs =>
    if (isPlain c && c != '\\') || c == '\n' then withChar (some c) (multiLineBody .none cs)
    else none
  | _, [] => none

/-- Takes the rest of a string over several lines in single quotes. -/
def multiLineLiteralBody : Reader (List Char)
  | '\'' :: '\'' :: '\'' :: '\'' :: '\'' :: cs => some (['\'', '\''], cs)
  | '\'' :: '\'' :: '\'' :: '\'' :: cs => some (['\''], cs)
  | '\'' :: '\'' :: '\'' :: cs => some ([], cs)
  | '\r' :: '\n' :: cs => withChar (some '\n') (multiLineLiteralBody cs)
  | c :: cs =>
    if isPlain c || c == '\n' then withChar (some c) (multiLineLiteralBody cs) else none
  | [] => none

/-- A text without a line break at its front. -/
def dropLineBreak : List Char → List Char
  | '\n' :: cs => cs
  | '\r' :: '\n' :: cs => cs
  | cs => cs

/-- Takes a string on one line. -/
def lineString : Reader String := fun
  | '"' :: cs => do return (String.ofList (← basicBody cs).1, (← basicBody cs).2)
  | '\'' :: cs => do return (String.ofList (← literalBody cs).1, (← literalBody cs).2)
  | _ => none

/-- Takes a string. -/
def anyString : Reader String := fun
  | '"' :: '"' :: '"' :: cs => do
    let (s, rest) ← multiLineBody .none (dropLineBreak cs)
    return (String.ofList s, rest)
  | '\'' :: '\'' :: '\'' :: cs => do
    let (s, rest) ← multiLineLiteralBody (dropLineBreak cs)
    return (String.ofList s, rest)
  | cs => lineString cs

/-! ### Numbers -/

/-- The digits of a class at the front of a text, each of them after at most one underscore. -/
def moreDigits (p : Char → Bool) : List Char → List Char × List Char
  | '_' :: c :: cs =>
    if p c then (c :: (moreDigits p cs).1, (moreDigits p cs).2) else ([], '_' :: c :: cs)
  | c :: cs => if p c then (c :: (moreDigits p cs).1, (moreDigits p cs).2) else ([], c :: cs)
  | [] => ([], [])

/-- Takes digits of a class with underscores between them. -/
def digitsWith (p : Char → Bool) : Reader (List Char) := do
  let c ← charOf p
  return c :: (← fun cs => some (moreDigits p cs))

/-- Takes a sign, or nothing. -/
def sign : Reader (List Char) := do
  return (← optional (charOf fun c => c == '+' || c == '-')).toList

/-- Takes a decimal integer; none but zero starts with a zero. -/
def decimalDigits : Reader (List Char) := do
  match ← optional (char '0') with
  | some () => return ['0']
  | none => digitsWith Char.isDigit

/-- Takes the digits of an integer in a base that a letter after a zero names. -/
def integerInBase (letter : Char) (base : Nat) : Reader Int := do
  char '0'
  char letter
  let isDigit (c : Char) : Bool := (hexValue c).any (· < base)
  let ds ← digitsWith isDigit
  let n : Nat := (ds.filterMap hexValue).foldl (fun n d => base * n + d) 0
  return n

/-- Takes an integer in base ten. -/
def decimalInteger : Reader Int := do
  let s ← sign
  match readSignedDigits (s ++ (← decimalDigits)) with
  | some n => return n
  | none => failure

/-- Takes an integer of 64 bits. -/
def integer : Reader Int := do
  let n ← integerInBase 'x' 16 <|> integerInBase 'o' 8 <|> integerInBase 'b' 2 <|> decimalInteger
  accept (isInt64 n) n

/-- Takes an exponent. -/
def exponent : Reader (List Char) := do
  let e ← charOf fun c => c == 'e' || c == 'E'
  return e :: (← sign) ++ (← digitsWith Char.isDigit)

/-- Takes a point and digits. -/
def fraction : Reader (List Char) := do
  char '.'
  return '.' :: (← digitsWith Char.isDigit)

/-- Takes a float with digits; one beyond the greatest finite value is refused. -/
def digitFloat : Reader Binary64 := do
  let whole := (← sign) ++ (← decimalDigits)
  let rest ← exponent <|> do return (← fraction) ++ ((← optional exponent).getD [])
  match Binary64.read (whole ++ rest) with
  | some x => accept (x != .infinite false) x
  | none => failure

/-- Takes the words for infinity and for what is no number. -/
def wordFloat : Reader Binary64 := do
  let negative := (← sign) == ['-']
  (do word "inf"; return .infinite negative) <|> (do word "nan"; return .nan)

/-- Takes a float. -/
def float : Reader Binary64 := digitFloat <|> wordFloat

/-- Takes a truth value. -/
def boolean : Reader Bool :=
  (do word "true"; return true) <|> (do word "false"; return false)

/-! ### Dates and times -/

/-- Takes a date. -/
def date : Reader Date := do
  let year ← digits 4 4
  char '-'
  let month ← digits 2 2
  char '-'
  let d : Date := ⟨year, month, ← digits 2 2⟩
  accept (decide d.IsValid) d

/-- Takes a fraction of a second; digits after the ninth do not count. -/
def nanos : Reader Nat := do
  char '.'
  let nine := (← run1 Char.isDigit).take 9
  return digitsValue nine * tenTo (9 - nine.length)

/-- Takes a time of day. -/
def timeOfDay : Reader TimeOfDay := do
  let hour ← digits 2 2
  char ':'
  let minute ← digits 2 2
  char ':'
  let second ← digits 2 2
  let t : TimeOfDay := ⟨hour, minute, second, (← optional nanos).getD 0⟩
  accept (decide (hour ≤ 23 ∧ minute ≤ 59 ∧ second ≤ 60)) t

/-- Takes an offset. -/
def offset : Reader Offset := do
  let s ← charOf fun c => c == 'Z' || c == 'z' || c == '+' || c == '-'
  if s == 'Z' || s == 'z' then return .zulu
  let hours ← digits 2 2
  char ':'
  let minutes ← digits 2 2
  let n : Int := hours * 60 + minutes
  accept (decide (hours ≤ 23 ∧ minutes ≤ 59)) (.minutes (if s == '-' then -n else n))

/-- Takes the time of day and the offset after a date. -/
def timeAfterDate : Reader (TimeOfDay × Option Offset) := do
  let _ ← charOf fun c => c == 'T' || c == 't' || c == ' '
  return (← timeOfDay, ← optional offset)

/-- Takes a date, a time of day, or both. -/
def stamp : Reader Stamp :=
  (do
    let d ← date
    match ← optional timeAfterDate with
    | none => return .date d
    | some (t, none) => return .wall d t
    | some (t, some o) => return .universal d t o) <|> Stamp.time <$> timeOfDay

/-- Takes a value that is no array and no table. -/
def value : Reader Item :=
  Item.text <$> anyString <|> Item.boolean <$> boolean <|> Item.stamp <$> stamp <|>
    Item.float <$> float <|> Item.integer <$> integer

end PathTemplate.Toml.Scalar
