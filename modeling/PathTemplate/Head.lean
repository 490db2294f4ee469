/-
# The head of a placeholder

A head names a value and shifts it in time:

    head      = nothing | reference | reference space shifts | shifts
    reference = identifier | integer
    shifts    = sign term (space [sign] term)*
    sign      = ('+' | '-') [space]
    term      = integer [space] unit

A term without a sign takes the sign before it. The grammar is regular, so a
head is read from left to right, one token at a time; a `Stage` says what has
just been read, and the first token that no head could go on with is the
fault. A parser that tries one choice after another, and goes back where it was
wrong, reads the same (`Proofs/Head/Backtracking`).

Key definitions: `Reference`, `Head`, `Head.Stage`, `Head.ofTokens`, `Head.read`.
-/
import PathTemplate.Shift
import PathTemplate.SyntaxFault

namespace PathTemplate

/-- How a placeholder picks its value. -/
inductive Reference
  /-- The value of that name. -/
  | named (name : String)
  /-- The value at that position, counted from zero. -/
  | indexed (index : Nat)
  /-- The value after the one that the last implicit reference took. -/
  | implicit
deriving DecidableEq, Repr

/-- A reference as messages show it. -/
def Reference.shown : Reference → String
  | named name => name
  | indexed index => toString index
  | implicit => "<next>"

/-- What a head says: a reference if one is written, and the shifts in written order. -/
structure Head where
  reference : Option (Located Reference) := none
  shifts : List (Located Shift) := []
deriving DecidableEq, Repr

namespace Head

/-- What has just been read of a head. Terms remember the byte they start at. -/
inductive Stage
  /-- Nothing yet. -/
  | opening
  /-- The reference, and perhaps a space. -/
  | reference (spaced : Bool)
  /-- A sign, and perhaps a space. -/
  | signed (sign : Sign) (start : Nat) (spaced : Bool)
  /-- A magnitude, and perhaps a space. -/
  | counted (sign : Sign) (start magnitude : Nat) (spaced : Bool)
  /-- A whole term, and perhaps a space. -/
  | term (sign : Sign) (spaced : Bool)
deriving DecidableEq, Repr

/-- Whether a space may come at a stage. -/
def Stage.takesSpace : Stage → Bool
  | opening => false
  | reference spaced | signed _ _ spaced | counted _ _ _ spaced | term _ spaced => !spaced

/-- Whether a head may end at a stage. -/
def Stage.mayClose : Stage → Bool
  | opening => true
  | reference spaced | term _ spaced => !spaced
  | signed .. | counted .. => false

/-- What a message lists as expected at a stage. -/
def Stage.expected (s : Stage) : List Expectation :=
  (if s.takesSpace then [.space] else []) ++ (if s.mayClose then [.closing] else [])

/-- A stage with the space read too. -/
def Stage.afterSpace : Stage → Stage
  | opening => opening
  | reference _ => reference true
  | signed sign start _ => signed sign start true
  | counted sign start magnitude _ => counted sign start magnitude true
  | term sign _ => term sign true

/-- Whether a sign may come at a stage. -/
def Stage.takesSign : Stage → Bool
  | opening => true
  | reference spaced | term _ spaced => spaced
  | signed .. | counted .. => false

/-- A head as far as it has been read. -/
structure Progress where
  stage : Stage := .opening
  head : Head := {}
deriving DecidableEq, Repr

namespace Progress

/-- The fault of a token that cannot come next. -/
def unexpected (p : Progress) (t : Located Token) : SyntaxError :=
  ⟨.unexpected (some t.node) p.stage.expected, t.span⟩

/-- The head with its reference read. -/
def refer (p : Progress) (r : Reference) (span : Span) : Progress :=
  ⟨.reference false, { p.head with reference := some ⟨r, span⟩ }⟩

/-- The head with a sign read. -/
def sign (p : Progress) (s : Sign) (t : Located Token) : Except SyntaxError Progress :=
  if p.stage.takesSign then .ok { p with stage := .signed s t.span.start false }
  else .error (p.unexpected t)

/-- The head with a magnitude or a position read. -/
def number (p : Progress) (n : Nat) (t : Located Token) : Except SyntaxError Progress :=
  match p.stage with
  | .opening => .ok (p.refer (.indexed n) t.span)
  | .signed s start _ => .ok { p with stage := .counted s start n false }
  | .term s true => .ok { p with stage := .counted s t.span.start n false }
  | _ => .error (p.unexpected t)

/-- The head with a name or a unit read. -/
def word (p : Progress) (w : String) (t : Located Token) : Except SyntaxError Progress :=
  match p.stage with
  | .opening => .ok (p.refer (.named w) t.span)
  | .counted s start n _ =>
    match TimeUnit.ofWord w with
    | some u =>
      .ok ⟨.term s false,
        { p.head with shifts := p.head.shifts ++ [⟨⟨s, n, u⟩, start, t.span.stop⟩] }⟩
    | none => .error ⟨.unknownUnit w, t.span⟩
  | _ => .error (p.unexpected t)

/-- The head with one more token read. -/
def step (p : Progress) (t : Located Token) : Except SyntaxError Progress :=
  match t.node with
  | .space =>
    if p.stage.takesSpace then .ok { p with stage := p.stage.afterSpace }
    else .error (p.unexpected t)
  | .plus => p.sign .plus t
  | .minus => p.sign .minus t
  | .integer n => p.number n t
  | .identifier w => p.word w t

/-- The head with all of some tokens read, or the first fault among them. -/
def run (p : Progress) : List (Located Token) → Except SyntaxError Progress
  | [] => .ok p
  | t :: ts => do (← p.step t).run ts

/-- The head that ends here, at byte `stop`. -/
def close (p : Progress) (stop : Nat) : Except SyntaxError Head :=
  if p.stage.mayClose then .ok p.head
  else .error ⟨.unexpected none p.stage.expected, stop, stop⟩

end Progress

/-- The head that some tokens make up, the text ending at byte `stop`. -/
def ofTokens (ts : List (Located Token)) (stop : Nat) : Except SyntaxError Head := do
  (← Progress.run {} ts).close stop

/-- The tokens that some lexemes read as, or the first fault among them. -/
def tokens : List (Located Lexeme) → Except SyntaxError (List (Located Token))
  | [] => .ok []
  | ⟨l, span⟩ :: ls =>
    match l.reading with
    | .ok t => do return ⟨t, span⟩ :: (← tokens ls)
    | .error fault => .error ⟨.lexical fault, span⟩

/-- Reads a head that starts at byte `offset`. Its lexemes are looked at before its grammar. -/
def read (cs : List Char) (offset : Nat) : Except SyntaxError Head := do
  ofTokens (← tokens (locatedLexemes cs offset)) (offset + utf8Width cs)

end Head

end PathTemplate
