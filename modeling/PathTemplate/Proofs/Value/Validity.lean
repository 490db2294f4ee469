/-
# Patterns are valid for a kind

Whether a value can be written in a pattern, and why it cannot, is a matter of
its kind: numbers look only at the pattern's own digits, texts do not look at it
at all, and times refuse a pattern that is broken at some specifier, or that asks
for what no time can be written with. So a pattern that one value was written in
never fails for another one of its kind, be it a leap second, the last day of the
calendar, an infinity or no number at all.

Key definitions: `Kind.Refuses`.
Key theorems: `Value.render_eq_error_iff`, `Value.validity_of_kind`.
-/
import PathTemplate.Proofs.Time.PatternGrammar
import PathTemplate.Value

namespace PathTemplate

open Time

/-- What a kind refuses a pattern for. Texts refuse none. -/
inductive Kind.Refuses : Kind → String → PatternFault → Prop
  /-- A percent sign in a time pattern starts no specifier. -/
  | broken {p before after} (h : Pattern.IsBroken p.toList before after) :
    Refuses .time p .unknownSpecifier
  /-- A time pattern asks for the offset in any spelling. -/
  | unwritable {p is} (h : Pattern.IsWritten p.toList is) (hany : .text .offsetAny ∈ is) :
    Refuses .time p .unwritable
  | integer {p fault} (h : NumberPattern.read false p.toList = .error fault) :
    Refuses .integer p fault
  | float {p fault} (h : NumberPattern.read true p.toList = .error fault) : Refuses .float p fault

namespace Value

variable {p : String}

theorem renderTime_eq_error_iff {t : ZonedTime} {e : ValueError} :
    renderTime t (some p) = .error e ↔
      ∃ fault, Kind.Refuses .time p fault ∧ e = .invalidPattern .time p fault := by
  rw [renderTime]
  cases hitems : Pattern.items p.toList with
  | none =>
    obtain ⟨before, after, hbroken⟩ := Pattern.items_eq_none_iff.mp hitems
    constructor
    · rintro ⟨⟩
      exact ⟨_, .broken hbroken, rfl⟩
    · rintro ⟨fault, hrefuses, rfl⟩
      cases hrefuses with
      | broken => rfl
      | unwritable h =>
        rw [Pattern.items_eq_some_iff.mpr h] at hitems
        cases hitems
  | some is =>
    have hwritten := Pattern.items_eq_some_iff.mp hitems
    have hnotBroken : ∀ before after, ¬ Pattern.IsBroken p.toList before after := by
      intro before after h
      rw [Pattern.items_eq_none_iff.mpr ⟨before, after, h⟩] at hitems
      cases hitems
    simp only
    cases hwrite : Pattern.write t is with
    | none =>
      have hany := Pattern.write_eq_none_iff.mp hwrite
      constructor
      · rintro ⟨⟩
        exact ⟨_, .unwritable hwritten hany, rfl⟩
      · rintro ⟨fault, hrefuses, rfl⟩
        cases hrefuses with
        | broken h => exact absurd h (hnotBroken _ _)
        | unwritable => rfl
    | some text =>
      constructor
      · rintro ⟨⟩
      · rintro ⟨fault, hrefuses, rfl⟩
        cases hrefuses with
        | broken h => exact absurd h (hnotBroken _ _)
        | @unwritable _ js h hany =>
          obtain rfl : is = js :=
            Option.some.inj (hitems.symm.trans (Pattern.items_eq_some_iff.mpr h))
          rw [Pattern.write_eq_none_iff.mpr hany] at hwrite
          cases hwrite

theorem renderInteger_eq_error_iff {n : Int} {e : ValueError} :
    renderInteger n (some p) = .error e ↔
      ∃ fault, Kind.Refuses .integer p fault ∧ e = .invalidPattern .integer p fault := by
  have hrefuses : ∀ fault, Kind.Refuses .integer p fault ↔
      NumberPattern.read false p.toList = .error fault := fun fault => ⟨fun | .integer h => h, .integer⟩
  simp only [renderInteger, hrefuses]
  cases NumberPattern.read false p.toList with
  | error fault => simp [eq_comm]
  | ok q =>
    constructor
    · rintro ⟨⟩
    · rintro ⟨fault, ⟨⟩, -⟩

theorem renderFloat_eq_error_iff {x : Decimal.Binary64} {e : ValueError} :
    renderFloat x (some p) = .error e ↔
      ∃ fault, Kind.Refuses .float p fault ∧ e = .invalidPattern .float p fault := by
  have hrefuses : ∀ fault, Kind.Refuses .float p fault ↔
      NumberPattern.read true p.toList = .error fault := fun fault => ⟨fun | .float h => h, .float⟩
  simp only [renderFloat, hrefuses]
  cases NumberPattern.read true p.toList with
  | error fault => simp [eq_comm]
  | ok q =>
    constructor
    · rintro ⟨⟩
    · rintro ⟨fault, ⟨⟩, -⟩

theorem map_eq_error_iff {ε α β : Type} {f : α → β} {x : Except ε α} {e : ε} :
    f <$> x = .error e ↔ x = .error e := by
  cases x <;> simp [Functor.map, Except.map]

/-- **What a value refuses in a pattern is what its kind does.** -/
theorem render_eq_error_iff {v : Value} {e : ValueError} :
    v.render (some p) = .error e ↔
      ∃ fault, v.kind.Refuses p fault ∧ e = .invalidPattern v.kind p fault := by
  cases v with
  | time t => rw [render, map_eq_error_iff, renderTime_eq_error_iff, kind]
  | integer n => rw [render, map_eq_error_iff, renderInteger_eq_error_iff, kind]
  | float x => rw [render, map_eq_error_iff, renderFloat_eq_error_iff, kind]
  | text s =>
    constructor
    · rintro ⟨⟩
    · rintro ⟨fault, ⟨⟩, -⟩

/-- **Whether a pattern is valid depends on the kind alone.** Two values of one kind refuse the same
patterns, with the same error, so what one of them was written in never fails for the other. The
errors are those that the kind refuses the pattern for. A time is refused as a whole where a percent
sign starts no specifier, wherever it stands. -/
theorem validity_of_kind :
    (∀ v w : Value, v.kind = w.kind → ∀ p,
      (∀ e, v.render (some p) = .error e ↔ w.render (some p) = .error e) ∧
        ((∃ s, v.render (some p) = .ok s) ↔ ∃ s, w.render (some p) = .ok s)) ∧
      (∀ (v : Value) p e, v.render (some p) = .error e ↔
        ∃ fault, v.kind.Refuses p fault ∧ e = .invalidPattern v.kind p fault) ∧
      ∀ (t : ZonedTime) p before after, Pattern.IsBroken p.toList before after →
        (Value.time t).render (some p) =
          .error (.invalidPattern .time p .unknownSpecifier) := by
  have herror (v w : Value) (hkind : v.kind = w.kind) (p : String) (e : ValueError) :
      v.render (some p) = .error e ↔ w.render (some p) = .error e := by
    rw [render_eq_error_iff, render_eq_error_iff, hkind]
  have hok (v w : Value) (hkind : v.kind = w.kind) (p : String)
      (h : ∃ s, v.render (some p) = .ok s) : ∃ s, w.render (some p) = .ok s := by
    obtain ⟨s, hs⟩ := h
    cases hw : w.render (some p) with
    | ok s' => exact ⟨s', rfl⟩
    | error e =>
      rw [(herror v w hkind p e).mpr hw] at hs
      cases hs
  refine ⟨fun v w hkind p => ⟨herror v w hkind p, hok v w hkind p, hok w v hkind.symm p⟩,
    fun v p e => render_eq_error_iff, fun t p before after h => ?_⟩
  exact render_eq_error_iff.mpr ⟨_, .broken h, rfl⟩

/-- No number at all and an infinity; a leap second, and a percent sign at the end. -/
theorem validity_of_kind_nan :
    (float .nan).render (some "08.3") = .ok "00000NaN" ∧
      (∃ s, (float (.infinite true)).render (some "08.3") = .ok s) ∧
      Pattern.IsBroken "%H:%M:%".toList "%H:%M:".toList [] ∧
      (time ⟨⟨1483228799, 1500000000⟩, Zone.utc⟩).render (some "%H:%M:%") =
        .error (.invalidPattern .time "%H:%M:%" .unknownSpecifier) := by
  have hnan : (float .nan).render (some "08.3") = .ok "00000NaN" := by rfl
  have hbefore : Pattern.items "%H:%M:".toList = some [.number .hour .zero, .literal ':',
      .number .minute .zero, .literal ':'] := by decide +kernel
  have hbroken : Pattern.IsBroken "%H:%M:%".toList "%H:%M:".toList [] := by
    refine ⟨by decide, ⟨_, Pattern.items_eq_some_iff.mp hbefore⟩, fun spec js more hspec h => ?_⟩
    cases hspec <;> simp at h
  obtain ⟨hsame, -, htime⟩ := validity_of_kind
  exact ⟨hnan, (hsame (float .nan) (float (.infinite true)) rfl "08.3").2.mp ⟨_, hnan⟩, hbroken,
    htime _ _ _ _ hbroken⟩

end Value

end PathTemplate
