/-
# The head parser with its choices

The grammar of `Head`, written as a parser that tries one thing after another.
What may be left out is tried and given up; terms are repeated for as long as
they come; a head is tried as one with a reference first, and if no reference
comes, as one without. What is given up puts its tokens back, and what it could
not go on with is kept: of all that was missed on the way the farthest is
reported, and what several parsers missed there is told together.

`Proofs/Head/Backtracking` shows that the stages of `Head` read just this.

Key definitions: `Impasse`, `Input.note`, `Parser`, `Parser.many`, `Parser.head`, `parse`,
`Input.Lists`.
Key theorems: `Input.Lists.note`, `Input.note_of_lt`, `take_eq_some`, `take_eq_none`.
-/
import PathTemplate.Proofs.Head.Grammar

namespace PathTemplate

namespace Head

/-! ### Parsers -/

/-- What a parser could not go on with. -/
inductive Miss
  /-- Another token than these, or no more tokens; not all that could come is listed. -/
  | unexpected (expected : List Expectation)
  /-- A word that names no unit. -/
  | unknownUnit (word : String)
deriving DecidableEq, Repr

/-- What several parsers missed at one place: an unknown unit tells more than the rest. -/
def Miss.join : Miss → Miss → Miss
  | unknownUnit word, _ | unexpected _, unknownUnit word => unknownUnit word
  | unexpected es, unexpected fs => unexpected (es ++ fs.filter (· ∉ es))

/-- A place, as the tokens from there on, and what was missed there. -/
structure Impasse where
  rest : List (Located Token)
  miss : Miss
deriving DecidableEq, Repr

/-- What is reported of an impasse, the text ending at byte `stop`. -/
def Impasse.error (i : Impasse) (stop : Nat) : SyntaxError :=
  let span := (i.rest.head?.map Located.span).getD ⟨stop, stop⟩
  match i.miss with
  | .unexpected expected => ⟨.unexpected (i.rest.head?.map Located.node) expected, span⟩
  | .unknownUnit word => ⟨.unknownUnit word, span⟩

/-- The tokens that are left, and the farthest impasse so far. -/
structure Input where
  rest : List (Located Token)
  farthest : Option Impasse := none
deriving DecidableEq, Repr

/-- The input with one more impasse: the farther one is kept, at one place both. -/
def Input.note (s : Input) (i : Impasse) : Input :=
  match s.farthest with
  | none => { s with farthest := some i }
  | some j =>
    if i.rest.length < j.rest.length then { s with farthest := some i }
    else if j.rest.length < i.rest.length then s
    else { s with farthest := some { j with miss := j.miss.join i.miss } }

/-- What may take some tokens and give a value for them. -/
def Parser (α : Type) : Type := Input → Option α × Input

namespace Parser

variable {α β : Type}

instance : Monad Parser where
  pure a := fun s => (some a, s)
  bind p f := fun s =>
    match p s with
    | (some a, s') => f a s'
    | (none, s') => (none, s')

/-- Takes a token that `f` knows; `expected` is what a message lists in its place. -/
def take (expected : List Expectation) (f : Token → Option α) : Parser (Located α) := fun s =>
  match s.rest with
  | [] => (none, s.note ⟨[], .unexpected expected⟩)
  | t :: ts =>
    match f t.node with
    | some a => (some ⟨a, t.span⟩, { s with rest := ts })
    | none => (none, s.note ⟨t :: ts, .unexpected expected⟩)

/-- What `p` reads, if `f` has a value for it; if not, that is missed where `p` started. -/
def tryMap (p : Parser α) (f : α → Except Miss β) : Parser β := fun s =>
  match p s with
  | (some a, s') =>
    match f a with
    | .ok b => (some b, s')
    | .error miss => (none, s'.note ⟨s.rest, miss⟩)
  | (none, s') => (none, s')

/-- What `p` reads, or nothing. -/
def optional (p : Parser α) : Parser (Option α) := fun s =>
  match p s with
  | (some a, s') => (some (some a), s')
  | (none, s') => (some none, { s' with rest := s.rest })

/-- What `p` reads, or else what `q` reads. -/
def orElse (p q : Parser α) : Parser α := fun s =>
  match p s with
  | (some a, s') => (some a, s')
  | (none, s') => q { s' with rest := s.rest }

/-- What `p` reads again and again, for as long as it takes tokens. -/
def many (p : Parser α) : Parser (List α) := fun s =>
  match p s with
  | (none, s') => (some [], { s' with rest := s.rest })
  | (some a, s') =>
    if s'.rest.length < s.rest.length then
      let (as, s'') := many p s'
      (as.map (a :: ·), s'')
    else (some [a], s')
termination_by s => s.rest.length

/-- Nothing, behind the last token. -/
def atEnd : Parser Unit := fun s =>
  if s.rest.isEmpty then (some (), s) else (none, s.note ⟨s.rest, .unexpected [.closing]⟩)

/-! ### The grammar -/

/-- A space. -/
def space : Parser (Located Unit) := take [.space] fun
  | .space => some ()
  | _ => none

/-- `reference = identifier | integer` -/
def reference : Parser (Located Reference) := take [] fun
  | .identifier w => some (.named w)
  | .integer n => some (.indexed n)
  | _ => none

/-- `'+' | '-'` -/
def sign : Parser (Located Sign) := take [] fun
  | .plus => some .plus
  | .minus => some .minus
  | _ => none

/-- An integer. -/
def magnitude : Parser (Located Nat) := take [] fun
  | .integer n => some n
  | _ => none

/-- An identifier. -/
def word : Parser (Located String) := take [] fun
  | .identifier w => some w
  | _ => none

/-- A word that names a unit. -/
def unit : Parser (Located TimeUnit) := word.tryMap fun w =>
  match TimeUnit.ofWord w.node with
  | some u => .ok ⟨u, w.span⟩
  | none => .error (.unknownUnit w.node)

/-- `term = integer [space] unit` -/
def term : Parser (Located (Nat × TimeUnit)) := do
  let n ← magnitude
  let _ ← space.optional
  let u ← unit
  return ⟨(n.node, u.node), n.span.through u.span⟩

/-- `sign = ('+' | '-') [space]`, with the place of the sign. -/
def signed : Parser (Located Sign) := do
  let g ← sign
  let _ ← space.optional
  return g

/-- `sign term` -/
def firstTerm : Parser (Located Shift) := do
  let g ← signed
  let t ← term
  return ⟨⟨g.node, t.node.1, t.node.2⟩, g.span.through t.span⟩

/-- A term behind another: its sign, if it has one, and its magnitude and unit. -/
abbrev LaterTerm := Option Sign × Located (Nat × TimeUnit)

/-- `[sign] term` -/
def laterTerm : Parser LaterTerm := do
  let g ← signed.optional
  let t ← term
  return (g.map Located.node, ⟨t.node, (g.map fun g => g.span.through t.span).getD t.span⟩)

/-- `space [sign] term` -/
def nextTerm : Parser LaterTerm := do
  let _ ← space
  laterTerm

/-- The shifts that later terms write: a term without a sign takes the sign before it. -/
def carry : Sign → List LaterTerm → List (Located Shift)
  | _, [] => []
  | before, (g, t) :: ts =>
    ⟨⟨g.getD before, t.node.1, t.node.2⟩, t.span⟩ :: carry (g.getD before) ts

/-- `shifts = sign term (space [sign] term)*` -/
def shifts : Parser (List (Located Shift)) := do
  let l ← firstTerm
  let ts ← nextTerm.many
  return l :: carry l.node.sign ts

/-- `space shifts` -/
def spacedShifts : Parser (List (Located Shift)) := do
  let _ ← space
  shifts

/-- `reference [space shifts]` -/
def referred : Parser Head := do
  let r ← reference
  let ls ← spacedShifts.optional
  return ⟨some r, ls.getD []⟩

/-- A head without a reference. -/
def unreferred : Parser Head := do
  let ls ← shifts
  return ⟨none, ls⟩

/-- `nothing | reference [space shifts] | shifts` -/
def start : Parser (Option Head) := (referred.orElse unreferred).optional

/-- A head, up to the end of the tokens. -/
def head : Parser Head := do
  let h ← start
  atEnd
  return h.getD {}

end Parser

/-- The head that some tokens make up, its text being at `span`. -/
def parse (ts : List (Located Token)) (span : Span) : Except SyntaxError Head :=
  match Parser.head { rest := ts } with
  | (some h, _) => .ok h
  | (none, s) =>
    match s.farthest with
    | some i => .error (i.error span.stop)
    | none => .error ⟨.reported "Invalid placeholder" [], span⟩

variable {α β : Type} {s s' : Input} {es : List Expectation} {rest ts : List (Located Token)}

/-! ### What has been missed so far -/

/-- Whether nothing has been missed at the present place or behind it. -/
def Input.IsFresh (s : Input) : Prop := ∀ i ∈ s.farthest, s.rest.length < i.rest.length

/-- Whether what has been missed at the present place is `es`, and nothing behind it. -/
def Input.Lists (s : Input) (es : List Expectation) : Prop :=
  (s.IsFresh ∧ es = []) ∨ s.farthest = some ⟨s.rest, .unexpected es⟩

theorem Input.IsFresh.lists (h : s.IsFresh) : s.Lists [] := .inl ⟨h, rfl⟩

/-- A token on, nothing has been missed yet. -/
theorem Input.Lists.isFresh_tail (h : s.Lists es) {t : Located Token} (hs : s.rest = t :: rest) :
    Input.IsFresh { s with rest } := by
  intro i hi
  have hle : s.rest.length ≤ i.rest.length := by
    rcases h with ⟨hfresh, -⟩ | hhere
    · exact Nat.le_of_lt (hfresh i hi)
    · rw [hhere] at hi
      cases hi
      exact Nat.le_refl _
  rw [hs] at hle
  exact hle

/-- What is missed at the present place joins what has been. -/
theorem Input.Lists.note (h : s.Lists es) (miss : Miss) :
    s.note ⟨s.rest, miss⟩ = ⟨s.rest, some ⟨s.rest, (Miss.unexpected es).join miss⟩⟩ := by
  rcases h with ⟨hfresh, rfl⟩ | hhere
  · have hjoin : (Miss.unexpected []).join miss = miss := by cases miss <;> simp [Miss.join]
    rw [hjoin, Input.note]
    split
    · rfl
    · next j hj => rw [if_pos (hfresh j hj)]
  · simp [Input.note, hhere]

theorem Input.note_farthest (s : Input) (i : Impasse) :
    Input.note { s with rest } i = { s.note i with rest } := by
  simp only [Input.note]
  split
  · rfl
  · split
    · rfl
    · split <;> rfl

/-- What is missed in front of the farthest impasse does not show. -/
theorem Input.note_of_lt {i : Impasse} (hi : s.farthest = some i)
    (hlt : i.rest.length < s.rest.length) (miss : Miss) : s.note ⟨s.rest, miss⟩ = s := by
  simp [Input.note, hi, hlt, Nat.not_lt.mpr (Nat.le_of_lt hlt)]

/-! ### What a parser gives -/

theorem Parser.bind_eq_some {x : Parser α} {f : α → Parser β} {a : α} (h : x s = (some a, s')) :
    (x >>= f) s = f a s' := by
  simp [bind, h]

theorem Parser.bind_eq_none {x : Parser α} {f : α → Parser β} (h : x s = (none, s')) :
    (x >>= f) s = (none, s') := by
  simp [bind, h]

theorem Parser.exists_optional (x : Parser α) (s : Input) :
    ∃ o s', x.optional s = (some o, s') := by
  rw [Parser.optional]
  split <;> exact ⟨_, _, rfl⟩

theorem take_eq_some {expected : List Expectation} {f : Token → Option α} {t : Located Token}
    {a : α} (hs : s.rest = t :: rest) (hf : f t.node = some a) :
    Parser.take expected f s = (some ⟨a, t.span⟩, { s with rest }) := by
  simp [Parser.take, hs, hf]

theorem take_eq_none {expected : List Expectation} {f : Token → Option α}
    (hf : ∀ t ∈ s.rest.head?, f t.node = none) :
    Parser.take expected f s = (none, s.note ⟨s.rest, .unexpected expected⟩) := by
  rw [Parser.take]
  cases hs : s.rest with
  | nil => rfl
  | cons t ts => simp [hf t (by rw [hs]; rfl)]

theorem space_eq_none (hs : ∀ t ∈ s.rest.head?, t.node ≠ .space) :
    Parser.space s = (none, s.note ⟨s.rest, .unexpected [.space]⟩) :=
  take_eq_none fun t ht => by
    have hne := hs t ht
    cases hnode : t.node with
    | space => exact absurd hnode hne
    | _ => rfl

theorem space_eq_some {a : Span} (hs : s.rest = ⟨.space, a⟩ :: rest) :
    Parser.space s = (some ⟨(), a⟩, { s with rest }) :=
  take_eq_some hs rfl

/-- Whether a space comes next. -/
theorem space_or_not (ts : List (Located Token)) :
    (∃ a rest, ts = ⟨.space, a⟩ :: rest) ∨ ∀ t ∈ ts.head?, t.node ≠ .space := by
  cases ts with
  | nil => exact .inr (by simp)
  | cons t ts =>
    obtain ⟨node, a⟩ := t
    by_cases h : node = .space
    · exact .inl ⟨a, ts, by rw [h]⟩
    · exact .inr (by simpa using h)

theorem sign_eq_some {g : Sign} {a : Span} (hs : s.rest = ⟨g.token, a⟩ :: rest) :
    Parser.sign s = (some ⟨g, a⟩, { s with rest }) :=
  take_eq_some hs (by cases g <;> rfl)

theorem sign_eq_none (hs : ∀ t ∈ s.rest.head?, ∀ g : Sign, t.node ≠ g.token) :
    Parser.sign s = (none, s.note ⟨s.rest, .unexpected []⟩) :=
  take_eq_none fun t ht => by
    cases hnode : t.node with
    | plus => exact absurd hnode (hs t ht .plus)
    | minus => exact absurd hnode (hs t ht .minus)
    | _ => rfl

/-- Whether a sign comes next. -/
theorem sign_or_not (ts : List (Located Token)) :
    (∃ (g : Sign) (a : Span) (rest : _), ts = ⟨g.token, a⟩ :: rest) ∨
      ∀ t ∈ ts.head?, ∀ g : Sign, t.node ≠ g.token := by
  cases ts with
  | nil => exact .inr (by simp)
  | cons t ts =>
    obtain ⟨node, a⟩ := t
    by_cases h : ∃ g : Sign, node = g.token
    · obtain ⟨g, rfl⟩ := h
      exact .inl ⟨g, a, ts, rfl⟩
    · exact .inr (by simpa using h)

theorem parse_eq_ok {h : Head} {span : Span} (hhead : Parser.head ⟨ts, none⟩ = (some h, s)) :
    parse ts span = .ok h := by
  simp [parse, hhead]

theorem parse_eq_error {i : Impasse} {span : Span}
    (hhead : Parser.head ⟨ts, none⟩ = (none, s)) (hi : s.farthest = some i) :
    parse ts span = .error (i.error span.stop) := by
  simp [parse, hhead, hi]

/-- In front of more tokens, that the head does not end is missed. -/
theorem atEnd_eq_none (h : s.rest ≠ []) :
    Parser.atEnd s = (none, s.note ⟨s.rest, .unexpected [.closing]⟩) := by
  simp [Parser.atEnd, h]

end Head

end PathTemplate
