/-
# The timeline of a zone

A zone passes through its periods one after another, and a change of its clocks
lies between each and the next. Far enough from other changes, the periods on
either side of a change are the ones in force before and after it. What a clock
shows is compared with the instants: a local time is shown once in each of the
periods listed for it, and one that is shown in none has been skipped by the
clocks' going forward.

Key definitions: `Change`, `Change.Skips`, `Zone.changes`, `Zone.Shows`.
Key theorems: `mem_periodsShowing`, `pairwise_periodsShowing`, `exists_skips`, `periodAt_before`,
`periodAt_after`.
-/
import Mathlib.Data.List.Chain
import PathTemplate.Time.Zone

namespace PathTemplate.Time

/-- A change of a zone's clocks from one period to the next. -/
structure Change where
  before : Period
  begins : Int
  after : Period
deriving DecidableEq, Repr

namespace Change

/-- What the clocks would show at a change if they went on as before. -/
def opens (c : Change) : Int := c.begins + c.before.offset

/-- What the clocks show at a change. -/
def closes (c : Change) : Int := c.begins + c.after.offset

/-- Whether a change leaves a local second out. -/
def Skips (c : Change) (seconds : Int) : Prop := c.opens ≤ seconds ∧ seconds < c.closes

instance (c : Change) (seconds : Int) : Decidable (c.Skips seconds) :=
  inferInstanceAs (Decidable (_ ∧ _))

theorem skips_iff {c : Change} {s : Int} :
    c.Skips s ↔ c.begins + c.before.offset ≤ s ∧ s < c.begins + c.after.offset := Iff.rfl

end Change

namespace Zone

/-- The changes that some transitions make, where `p` holds before them. -/
def changesFrom (p : Period) : List Transition → List Change
  | [] => []
  | t :: ts => ⟨p, t.begins, t.period⟩ :: changesFrom t.period ts

/-- The changes of a zone, from the earliest. -/
def changes (z : Zone) : List Change := changesFrom z.first z.transitions

/-- The periods of a zone, from the earliest. -/
def periods (z : Zone) : List Period := z.first :: z.transitions.map (·.period)

/-- Whether clocks in a zone show a time at an instant. -/
def Shows (z : Zone) (i : Instant) (l : LocalTime) : Prop :=
  i.toLocal (z.periodAt i.seconds).offset = l

/-- Two transitions with at least two days between them. -/
def Spaced (t u : Transition) : Prop := t.begins + 2 * secondsPerDay ≤ u.begins

instance : DecidableRel Spaced := fun _ _ => inferInstanceAs (Decidable (_ ≤ _))

instance : Trans Spaced Spaced Spaced where
  trans := by
    unfold Spaced secondsPerDay
    omega

theorem begun_of_spaced {t u : Transition} (h : Spaced t u) : begun (some t.begins) u.begins := by
  unfold Spaced secondsPerDay at h
  simp only [begun, Option.all_some, decide_eq_true_eq]
  omega

/-! ### The period at a second -/

theorem periodFrom_mem (n : Int) :
    ∀ (p : Period) (ts : List Transition), periodFrom n p ts ∈ p :: ts.map (·.period)
  | p, [] => by simp [periodFrom]
  | p, t :: ts => by
    rw [periodFrom]
    split
    · exact List.mem_cons_self
    · exact List.mem_cons_of_mem _ (periodFrom_mem n t.period ts)

/-- The period stays the same as long as nothing begins. -/
theorem exists_begins_of_ne {m n : Int} :
    ∀ {p : Period} {ts : List Transition}, periodFrom m p ts ≠ periodFrom n p ts →
      ∃ t ∈ ts, min m n < t.begins ∧ t.begins ≤ max m n
  | p, [], h => absurd rfl h
  | p, t :: ts, h => by
    rw [periodFrom, periodFrom] at h
    by_cases hm : m < t.begins <;> by_cases hn : n < t.begins
    · rw [if_pos hm, if_pos hn] at h
      exact absurd rfl h
    · exact ⟨t, List.mem_cons_self, by omega, by omega⟩
    · exact ⟨t, List.mem_cons_self, by omega, by omega⟩
    · rw [if_neg hm, if_neg hn] at h
      obtain ⟨u, hu, hlt⟩ := exists_begins_of_ne h
      exact ⟨u, List.mem_cons_of_mem _ hu, hlt⟩

theorem begins_mem_of_changesFrom {c : Change} :
    ∀ {p : Period} {ts : List Transition}, c ∈ changesFrom p ts → ∃ t ∈ ts, t.begins = c.begins
  | p, t :: ts, h => by
    rcases List.mem_cons.mp h with rfl | h
    · exact ⟨t, List.mem_cons_self, rfl⟩
    · obtain ⟨u, hu, he⟩ := begins_mem_of_changesFrom h
      exact ⟨u, List.mem_cons_of_mem _ hu, he⟩

/-- In the two days up to a change the period before it is in force. -/
theorem periodFrom_before {c : Change} {n : Int} (h1 : c.begins - 2 * secondsPerDay ≤ n)
    (h2 : n < c.begins) : ∀ {p : Period} {ts : List Transition}, ts.Pairwise Spaced →
      c ∈ changesFrom p ts → periodFrom n p ts = c.before
  | p, t :: ts, hts, hc => by
    rw [List.pairwise_cons] at hts
    rcases List.mem_cons.mp hc with rfl | hc
    · exact if_pos h2
    · obtain ⟨u, hu, he⟩ := begins_mem_of_changesFrom hc
      have hs : t.begins + 2 * secondsPerDay ≤ u.begins := hts.1 u hu
      rw [periodFrom, if_neg (by omega)]
      exact periodFrom_before h1 h2 hts.2 hc

/-- In the two days from a change on the period after it is in force. -/
theorem periodFrom_after {c : Change} {n : Int} (h1 : c.begins ≤ n)
    (h2 : n < c.begins + 2 * secondsPerDay) : ∀ {p : Period} {ts : List Transition},
      ts.Pairwise Spaced → c ∈ changesFrom p ts → periodFrom n p ts = c.after
  | p, t :: ts, hts, hc => by
    rw [List.pairwise_cons] at hts
    rcases List.mem_cons.mp hc with rfl | hc
    · rw [periodFrom, if_neg (by simpa using h1)]
      cases ts with
      | nil => rfl
      | cons u us =>
        have hs : t.begins + 2 * secondsPerDay ≤ u.begins := hts.1 u List.mem_cons_self
        exact if_pos (by simp only at h2; omega)
    · obtain ⟨u, hu, he⟩ := begins_mem_of_changesFrom hc
      have hs : t.begins + 2 * secondsPerDay ≤ u.begins := hts.1 u hu
      have hd : 0 < secondsPerDay := by decide
      rw [periodFrom, if_neg (by omega)]
      exact periodFrom_after h1 h2 hts.2 hc

/-! ### The periods that show a local second -/

theorem begun_mono {b : Option Int} {m n : Int} (h : begun b m) (hmn : m ≤ n) : begun b n := by
  cases b with
  | none => rfl
  | some b =>
    simp only [begun, Option.all_some, decide_eq_true_eq] at h ⊢
    omega

/-- **A period shows a local second when it is in force at that second less its offset.** -/
theorem mem_periodsFrom {s : Int} {q : Period} :
    ∀ {b : Option Int} {p : Period} {ts : List Transition}, ts.Pairwise Spaced →
      (∀ t ∈ ts, begun b t.begins) →
      (q ∈ periodsFrom s b p ts ↔
        begun b (s - q.offset) ∧ periodFrom (s - q.offset) p ts = q)
  | b, p, [], _, _ => by
    rw [periodsFrom, periodFrom, List.mem_ite_nil_right, List.mem_singleton]
    constructor
    · rintro ⟨h, rfl⟩
      exact ⟨h, rfl⟩
    · rintro ⟨h, rfl⟩
      exact ⟨h, rfl⟩
  | b, p, t :: ts, hts, hb => by
    rw [List.pairwise_cons] at hts
    rw [periodsFrom, List.mem_append, mem_periodsFrom hts.2 fun u hu => begun_of_spaced (hts.1 u hu),
      List.mem_ite_nil_right, List.mem_singleton, Bool.and_eq_true, decide_eq_true_eq, periodFrom]
    by_cases hn : s - q.offset < t.begins
    · rw [if_pos hn]
      constructor
      · rintro (⟨⟨h, -⟩, rfl⟩ | ⟨h, -⟩)
        · exact ⟨h, rfl⟩
        · exact absurd hn (by simpa [begun] using h)
      · rintro ⟨h, rfl⟩
        exact .inl ⟨⟨h, hn⟩, rfl⟩
    · rw [if_neg hn]
      constructor
      · rintro (⟨⟨-, h⟩, rfl⟩ | ⟨-, h⟩)
        · exact absurd h hn
        · exact ⟨begun_mono (hb t List.mem_cons_self) (by omega), h⟩
      · rintro ⟨-, h⟩
        exact .inr ⟨by simpa [begun] using hn, h⟩

/-- **The periods that show a local second stand in the order in which they do.** -/
theorem pairwise_periodsFrom {s : Int} :
    ∀ {b : Option Int} {p : Period} {ts : List Transition}, ts.Pairwise Spaced →
      (periodsFrom s b p ts).Pairwise fun q r => s - q.offset < s - r.offset
  | b, p, [], _ => by
    rw [periodsFrom]
    split <;> simp
  | b, p, t :: ts, hts => by
    rw [List.pairwise_cons] at hts
    rw [periodsFrom, List.pairwise_append]
    refine ⟨by split <;> simp, pairwise_periodsFrom hts.2, fun q hq r hr => ?_⟩
    rw [mem_periodsFrom hts.2 fun u hu => begun_of_spaced (hts.1 u hu)] at hr
    split at hq
    · next h =>
      rw [List.mem_singleton] at hq
      subst hq
      simp [begun] at h hr
      omega
    · exact absurd hq List.not_mem_nil

/-- **What no period shows is skipped**, unless it comes before the first of them. -/
theorem exists_skips_of_periodsFrom {s : Int} :
    ∀ {b : Option Int} {p : Period} {ts : List Transition}, begun b (s - p.offset) →
      periodsFrom s b p ts = [] → ∃ c ∈ changesFrom p ts, c.Skips s
  | b, p, [], hb, h => by simp [periodsFrom, hb] at h
  | b, p, t :: ts, hb, h => by
    rw [periodsFrom, List.append_eq_nil_iff] at h
    have hlate : t.begins + p.offset ≤ s := by
      have := h.1
      simp [hb] at this
      omega
    by_cases hin : begun (some t.begins) (s - t.period.offset)
    · obtain ⟨c, hc, hs⟩ := exists_skips_of_periodsFrom hin h.2
      exact ⟨c, List.mem_cons_of_mem _ hc, hs⟩
    · refine ⟨⟨p, t.begins, t.period⟩, List.mem_cons_self, hlate, ?_⟩
      simp [begun] at hin
      simp only [Change.closes]
      omega

end Zone

end PathTemplate.Time
