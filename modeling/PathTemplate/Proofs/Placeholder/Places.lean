/-
# The places of what is read

What is read from a text carries the places at which it stands there, and so
does a fault. `relocate f` changes all of these places by `f`. The reader of a
head only copies the ends of places, so tokens at other places make the same
head, or the same fault, at other places (`Head.ofTokens_move`). The reader of
placeholders counts its places from where the text starts: reading the same
text `k` bytes further on gives the same, or the same fault, with every place
moved right by `k` bytes.

Key definitions: `Located.relocate`, `SyntaxError.relocate`, `FormatError.relocate`,
`Placeholder.relocate`, `relocateReading`, `mapEnds`, `moveBy`.
Key theorems: `Head.Progress.step_move`, `Head.ofTokens_move`, `Head.read_add`,
`Placeholder.readPattern_add`, `Placeholder.read_add`.
-/
import PathTemplate.FormatError
import PathTemplate.Placeholder

namespace PathTemplate

/-! ### Changing places -/

/-- What was read, at other places. -/
def Located.relocate {α : Type} (f : Span → Span) (x : Located α) : Located α := ⟨x.node, f x.span⟩

/-- A fault at another place. -/
def SyntaxError.relocate (f : Span → Span) (e : SyntaxError) : SyntaxError := ⟨e.fault, f e.span⟩

/-- An error at another place. -/
def FormatError.relocate (f : Span → Span) : FormatError → FormatError
  | malformed e => malformed (e.relocate f)
  | unknownName name span => unknownName name (f span)
  | indexOutOfRange index count span => indexOutOfRange index count (f span)
  | value cause span => value cause (f span)
  | duplicateName name => duplicateName name

/-- A head at other places. -/
def Head.relocate (f : Span → Span) (h : Head) : Head :=
  ⟨h.reference.map (Located.relocate f), h.shifts.map (Located.relocate f)⟩

/-- A placeholder at other places. -/
def Placeholder.relocate (f : Span → Span) (p : Placeholder) : Placeholder :=
  ⟨p.reference.relocate f, p.shifts.map (Located.relocate f), p.pattern.map (Located.relocate f)⟩

/-- A place with both its ends changed by `g`. -/
def mapEnds (g : Nat → Nat) (s : Span) : Span := ⟨g s.start, g s.stop⟩

/-- The places moved right by `k` bytes. -/
def moveBy (k : Nat) (s : Span) : Span := s.shift k

variable {α β : Type}

@[simp] theorem Located.node_relocate (f : Span → Span) (x : Located α) :
    (x.relocate f).node = x.node := rfl

@[simp] theorem Located.span_relocate (f : Span → Span) (x : Located α) :
    (x.relocate f).span = f x.span := rfl

/-- A reading at other places: the result changed by `g`, or the fault relocated. -/
def relocateReading (f : Span → Span) (g : α → α) : Except SyntaxError α → Except SyntaxError α
  | .ok a => .ok (g a)
  | .error e => .error (e.relocate f)

/-- Two readings one after the other are relocated by relocating each. -/
theorem relocateReading_bind {f : Span → Span} {g : α → α} {g' : β → β}
    {next next' : α → Except SyntaxError β} (x : Except SyntaxError α)
    (h : ∀ a, next' (g a) = relocateReading f g' (next a)) :
    relocateReading f g x >>= next' = relocateReading f g' (x >>= next) := by
  cases x with
  | error e => rfl
  | ok a => exact h a

/-- Parts laid out from a place further right stand further right. -/
theorem layOut_add (width : α → Nat) (place k : Nat) (xs : List α) :
    layOut width (place + k) xs = (layOut width place xs).map (Located.relocate (moveBy k)) := by
  induction xs generalizing place with
  | nil => rfl
  | cons x xs ih =>
    rw [layOut, Nat.add_right_comm, ih]
    rfl

namespace Head

/-! ### Stages -/

/-- A stage of a head whose places have their ends changed by `g`. -/
def Stage.move (g : Nat → Nat) : Stage → Stage
  | signed sign start spaced => signed sign (g start) spaced
  | counted sign start magnitude spaced => counted sign (g start) magnitude spaced
  | s => s

namespace Stage

variable (g : Nat → Nat) (s : Stage)

@[simp] theorem takesSpace_move : (s.move g).takesSpace = s.takesSpace := by cases s <;> rfl

@[simp] theorem mayClose_move : (s.move g).mayClose = s.mayClose := by cases s <;> rfl

@[simp] theorem takesSign_move : (s.move g).takesSign = s.takesSign := by cases s <;> rfl

@[simp] theorem expected_move : (s.move g).expected = s.expected := by simp [expected]

@[simp] theorem afterSpace_move : (s.move g).afterSpace = s.afterSpace.move g := by
  cases s <;> rfl

end Stage

/-! ### Reading a head -/

/-- A head as far as it has been read, the ends of its places changed by `g`. -/
def Progress.move (g : Nat → Nat) (p : Progress) : Progress :=
  ⟨p.stage.move g, p.head.relocate (mapEnds g)⟩

namespace Progress

variable (g : Nat → Nat) (p : Progress) (t : Located Token)

theorem unexpected_move : (p.move g).unexpected (t.relocate (mapEnds g)) =
    (p.unexpected t).relocate (mapEnds g) := by
  simp [unexpected, move, SyntaxError.relocate]

theorem sign_move (s : Sign) : (p.move g).sign s (t.relocate (mapEnds g)) =
    relocateReading (mapEnds g) (move g) (p.sign s t) := by
  have hstage : (p.move g).stage.takesSign = p.stage.takesSign := p.stage.takesSign_move g
  rw [sign, sign, hstage, unexpected_move]
  split <;> rfl

theorem number_move (n : Nat) : (p.move g).number n (t.relocate (mapEnds g)) =
    relocateReading (mapEnds g) (move g) (p.number n t) := by
  have hfault := p.unexpected_move g t
  obtain ⟨stage, head⟩ := p
  cases stage with
  | opening => rfl
  | reference spaced => exact congrArg Except.error hfault
  | signed s start spaced => rfl
  | counted s start m spaced => exact congrArg Except.error hfault
  | term s spaced =>
    cases spaced with
    | false => exact congrArg Except.error hfault
    | true => rfl

theorem word_move (w : String) : (p.move g).word w (t.relocate (mapEnds g)) =
    relocateReading (mapEnds g) (move g) (p.word w t) := by
  have hfault := p.unexpected_move g t
  obtain ⟨stage, head⟩ := p
  cases stage with
  | opening => rfl
  | reference spaced => exact congrArg Except.error hfault
  | signed s start spaced => exact congrArg Except.error hfault
  | counted s start n spaced =>
    simp only [word, move, Stage.move]
    cases TimeUnit.ofWord w with
    | none => rfl
    | some u => simp [relocateReading, move, Stage.move, Head.relocate, Located.relocate, mapEnds]
  | term s spaced => exact congrArg Except.error hfault

/-- A token at another place changes the head in the same way. -/
theorem step_move : (p.move g).step (t.relocate (mapEnds g)) =
    relocateReading (mapEnds g) (move g) (p.step t) := by
  obtain ⟨token, span⟩ := t
  cases token with
  | space =>
    have hstage : (p.move g).stage.takesSpace = p.stage.takesSpace := p.stage.takesSpace_move g
    simp only [step, Located.node_relocate, hstage, unexpected_move]
    split
    · exact congrArg Except.ok (congrArg (Progress.mk · _) (p.stage.afterSpace_move g))
    · rfl
  | plus => exact p.sign_move g _ .plus
  | minus => exact p.sign_move g _ .minus
  | integer n => exact p.number_move g _ n
  | identifier w => exact p.word_move g _ w

/-- Tokens at other places change the head in the same way. -/
theorem run_move (ts : List (Located Token)) :
    (p.move g).run (ts.map (Located.relocate (mapEnds g))) =
      relocateReading (mapEnds g) (move g) (p.run ts) := by
  induction ts generalizing p with
  | nil => rfl
  | cons t ts ih =>
    rw [List.map_cons, run, run, step_move]
    exact relocateReading_bind _ ih

theorem close_move (stop : Nat) : (p.move g).close (g stop) =
    relocateReading (mapEnds g) (Head.relocate (mapEnds g)) (p.close stop) := by
  have hclose : (p.move g).stage.mayClose = p.stage.mayClose := p.stage.mayClose_move g
  have hexpected : (p.move g).stage.expected = p.stage.expected := p.stage.expected_move g
  rw [close, close, hclose, hexpected]
  split <;> rfl

end Progress

theorem tokens_relocate (f : Span → Span) (ls : List (Located Lexeme)) :
    tokens (ls.map (Located.relocate f)) =
      relocateReading f (List.map (Located.relocate f)) (tokens ls) := by
  induction ls with
  | nil => rfl
  | cons l ls ih =>
    obtain ⟨⟨text, reading⟩, span⟩ := l
    cases reading with
    | error fault => rfl
    | ok t =>
      simp only [List.map_cons, tokens, Located.relocate, ih]
      exact relocateReading_bind _ fun _ => rfl

/-- **Tokens at other places make the same head**, at other places. -/
theorem ofTokens_move (g : Nat → Nat) (ts : List (Located Token)) (stop : Nat) :
    ofTokens (ts.map (Located.relocate (mapEnds g))) (g stop) =
      relocateReading (mapEnds g) (Head.relocate (mapEnds g)) (ofTokens ts stop) := by
  rw [ofTokens, ofTokens]
  have hrun := Progress.run_move g {} ts
  change Progress.run {} _ = _ at hrun
  rw [hrun]
  exact relocateReading_bind _ fun p => p.close_move g stop

/-- A head read `k` bytes further on is the same, `k` bytes further right. -/
theorem read_add (cs : List Char) (offset k : Nat) : Head.read cs (offset + k) =
    relocateReading (moveBy k) (Head.relocate (moveBy k)) (Head.read cs offset) := by
  rw [Head.read, Head.read, locatedLexemes, layOut_add, tokens_relocate, Nat.add_right_comm]
  exact relocateReading_bind _ fun ts => ofTokens_move (· + k) ts _

end Head

/-! ### Reading a placeholder -/

namespace Placeholder

/-- A pattern read `k` bytes further on is the same, `k` bytes further right. There is a bar in
front of it. -/
theorem readPattern_add (raw : List Char) {offset : Nat} (hbar : 0 < offset) (k : Nat) :
    readPattern raw (offset + k) =
      relocateReading (moveBy k) (Located.relocate (moveBy k)) (readPattern raw offset) := by
  have hsub : offset + k - 1 = offset - 1 + k := by omega
  simp only [readPattern, hsub, Nat.add_right_comm _ k]
  split
  · rfl
  · split <;> rfl
  · split <;> rfl

/-- **A placeholder read `k` bytes further on is the same**, `k` bytes further right. -/
theorem read_add (interior : List Char) (offset k : Nat) (span : Span) :
    Placeholder.read interior (offset + k) (span.shift k) =
      relocateReading (moveBy k) (Placeholder.relocate (moveBy k))
        (Placeholder.read interior offset span) := by
  simp only [Placeholder.read, Nat.add_right_comm _ k, Head.read_add]
  refine relocateReading_bind _ fun head => ?_
  have href : (head.relocate (moveBy k)).reference.getD ⟨.implicit, span.shift k⟩ =
      (head.reference.getD ⟨.implicit, span⟩).relocate (moveBy k) := by
    cases h : head.reference <;> simp [Head.relocate, h, Located.relocate, moveBy]
  rw [href]
  split
  · rfl
  · rw [readPattern_add _ (Nat.succ_pos _)]
    cases readPattern _ _ <;> rfl

end Placeholder

end PathTemplate
