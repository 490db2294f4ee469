/-
# Reading a text from the front

A reader takes a value from the front of a text and leaves the rest, or fails.

Key definitions: `Reader`, `Reader.digits`, `Reader.many`, `Reader.whole`.
-/
import PathTemplate.Decimal.Digits

namespace PathTemplate.Text

open Decimal

/-- A reader takes a value from the front of a text and leaves the rest. -/
abbrev Reader := StateT (List Char) Option

namespace Reader

/-- Takes one character of a class. -/
def charOf (p : Char → Bool) : Reader Char := fun
  | [] => none
  | c :: cs => if p c then some (c, cs) else none

/-- Takes one given character. -/
def char (c : Char) : Reader Unit := do
  let _ ← charOf (· == c)

/-- Takes one given word. -/
def word (w : String) : Reader Unit := w.toList.forM char

/-- Takes all characters of a class that stand in front. -/
def run (p : Char → Bool) : Reader (List Char) := fun cs =>
  some (cs.takeWhile p, cs.dropWhile p)

/-- Takes at least one character of a class. -/
def run1 (p : Char → Bool) : Reader (List Char) := do
  return (← charOf p) :: (← run p)

/-- Takes a number of at least `least` digits and at most `most`. -/
def digits (least most : Nat) : Reader Nat := fun cs =>
  let ds := (cs.take most).takeWhile Char.isDigit
  if ds.length < least then none else some (digitsValue ds, cs.drop ds.length)

/-- Gives a value that meets a condition. -/
def accept {α : Type} (p : Bool) (a : α) : Reader α := if p then pure a else failure

/-- Takes what a reader takes, as often as it succeeds and at most `n` times. -/
def manyUpTo {α : Type} (r : Reader α) : Nat → Reader (List α)
  | 0 => pure []
  | n + 1 => fun cs =>
    match r cs with
    | none => some ([], cs)
    | some (a, rest) => do
      let (as, rest) ← manyUpTo r n rest
      return (a :: as, rest)

/-- A reader that is told how many characters there are, as a bound on its steps. -/
def bounded {α : Type} (r : Nat → Reader α) : Reader α := fun cs => r cs.length cs

/-- Takes what a reader takes, as often as it succeeds; the reader takes something each time. -/
def many {α : Type} (r : Reader α) : Reader (List α) := bounded (manyUpTo r)

/-- The value of a text that a reader takes whole. -/
def whole {α : Type} (r : Reader α) (cs : List Char) : Option α :=
  match r cs with
  | some (a, []) => some a
  | _ => none

end Reader

end PathTemplate.Text
