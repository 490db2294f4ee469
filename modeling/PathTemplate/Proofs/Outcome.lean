/-
# Steps one after the other

Work that need not come to a result is done in steps: the first step without a
result ends it, and errors are said otherwise on the way out. The lemmas here
take such work apart, what it gives and how it ends.

Key theorems: `bind_eq_ok`, `bind_eq_error`, `mapError_eq_ok_iff`, `mapError_eq_error_iff`,
`map_eq_ok_iff`, `map_eq_error_iff`, `mapError_bind`, `mapError_failed`.
-/
import PathTemplate.Value.Fault

namespace PathTemplate

variable {ε δ α β : Type} {x : Except ε α}

theorem bind_eq_ok {f : α → Except ε β} {b : β} :
    x >>= f = .ok b ↔ ∃ a, x = .ok a ∧ f a = .ok b := by
  cases x <;> simp [bind, Except.bind]

theorem bind_eq_error {f : α → Except ε β} {e : ε} :
    x >>= f = .error e ↔ x = .error e ∨ ∃ a, x = .ok a ∧ f a = .error e := by
  cases x <;> simp [bind, Except.bind]

theorem mapError_eq_ok_iff {f : ε → δ} {a : α} : x.mapError f = .ok a ↔ x = .ok a := by
  cases x with
  | ok b =>
    constructor
    · rintro ⟨⟩
      rfl
    · rintro ⟨⟩
      rfl
  | error e =>
    constructor
    · rintro ⟨⟩
    · rintro ⟨⟩

theorem mapError_eq_error_iff {f : ε → δ} {d : δ} :
    x.mapError f = .error d ↔ ∃ e, x = .error e ∧ f e = d := by
  cases x with
  | ok b =>
    constructor
    · rintro ⟨⟩
    · rintro ⟨e, ⟨⟩, -⟩
  | error e =>
    constructor
    · rintro ⟨⟩
      exact ⟨e, rfl, rfl⟩
    · rintro ⟨_, ⟨⟩, rfl⟩
      rfl

theorem map_eq_ok_iff {f : α → β} {b : β} : f <$> x = .ok b ↔ ∃ a, x = .ok a ∧ f a = b := by
  cases x with
  | ok a =>
    constructor
    · rintro ⟨⟩
      exact ⟨a, rfl, rfl⟩
    · rintro ⟨_, ⟨⟩, rfl⟩
      rfl
  | error e =>
    constructor
    · rintro ⟨⟩
    · rintro ⟨_, ⟨⟩, -⟩

theorem map_eq_error_iff {f : α → β} {e : ε} : f <$> x = .error e ↔ x = .error e := by
  cases x with
  | ok a =>
    constructor
    · rintro ⟨⟩
    · rintro ⟨⟩
  | error d =>
    constructor
    · rintro ⟨⟩
      rfl
    · rintro ⟨⟩
      rfl

@[simp] theorem Halt.map_eq_brokenOff_iff {f : ε → δ} {halt : Halt ε} :
    halt.map f = .brokenOff ↔ halt = .brokenOff := by
  cases halt <;> simp [Halt.map]

/-- Errors of steps one after the other are said otherwise step by step. -/
theorem mapError_bind (g : ε → ε) (x : Except ε α) (next : α → Except ε β) :
    (x >>= next).mapError g = x.mapError g >>= fun a => (next a).mapError g := by
  cases x <;> rfl

/-- An error may be said otherwise before it ends the work or after. -/
theorem mapError_failed (g : ε → ε) (x : Except ε α) :
    (x.mapError Halt.failed).mapError (Halt.map g) = (x.mapError g).mapError Halt.failed := by
  cases x <;> rfl

end PathTemplate
