/-
# Instants of local times

In a well-formed zone a local time is read as the earliest instant at which a
clock shows it. One that the clocks skip is read with the offset in force
before the change, which is the one found a day earlier. The time read so is
moved by the offset as elapsed time, and a leap second does not survive that:
it is lost unless the offset is zero.

Key definitions: `Zone.Regular`, `Zone.WellFormed`, `Change.ReadsExactly`, `Zone.Applies`.
Key theorems: `resolve_exact`, `existsUnique_applies`, `resolve_eq_none_iff`.
-/
import Mathlib.Order.Bounds.Basic
import PathTemplate.Proofs.Time.Timeline

namespace PathTemplate.Time

/-! ### Well-formed zones and elapsed time -/

/-- A zone whose offsets are below a day and whose bounded periods last two days or more. -/
structure Zone.Regular (z : Zone) : Prop where
  offsets : ∀ p ∈ z.periods, -secondsPerDay < p.offset ∧ p.offset < secondsPerDay
  spaced : z.transitions.IsChain Spaced

/-- A zone whose offsets are below a day, whose bounded periods last two days or more, and whose
transitions keep three days from the ends of the calendar. -/
structure Zone.WellFormed (z : Zone) : Prop where
  offsets : ∀ p ∈ z.periods, -secondsPerDay < p.offset ∧ p.offset < secondsPerDay
  spaced : z.transitions.IsChain Spaced
  inside : ∀ t ∈ z.transitions, (firstDay + 3) * secondsPerDay ≤ t.begins ∧
    t.begins ≤ (lastDay - 2) * secondsPerDay

theorem inRange_iff {n : Int} :
    InRange n ↔ firstDay * secondsPerDay ≤ n ∧ n < (lastDay + 1) * secondsPerDay := by
  unfold InRange secondsPerDay
  omega

theorem elapsed_seconds (s : Int) (nanos : Nat) (n : Int) :
    s + n ≤ (elapsed s nanos n).1 ∧ (elapsed s nanos n).1 ≤ s + n + 1 := by
  unfold elapsed
  split_ifs <;> simp only <;> omega

/-- Whether a time that a change skips has no leap second to lose, or no offset to lose it by. -/
def Change.ReadsExactly (c : Change) (l : LocalTime) : Prop :=
  l.nanos < nanosPerSecond ∨ c.before.offset = 0

theorem Change.elapse_eq {c : Change} {l : LocalTime} (h : c.ReadsExactly l) :
    (⟨l.seconds, l.nanos⟩ : Instant).elapse (-c.before.offset) = l.toInstant c.before.offset := by
  have h : -c.before.offset = 0 ∨ l.nanos < nanosPerSecond := by
    unfold ReadsExactly at h
    omega
  simp only [Instant.elapse, elapsed, if_pos h, LocalTime.toInstant]
  rfl

/-- Going on leaves a leap second at its start, going back at its end. -/
theorem Change.elapse_leap {c : Change} {l : LocalTime} (h : ¬ c.ReadsExactly l) :
    (⟨l.seconds, l.nanos⟩ : Instant).elapse (-c.before.offset) =
      ⟨l.seconds - c.before.offset + (if 0 < c.before.offset then 1 else 0),
        l.nanos - nanosPerSecond⟩ := by
  have h : ¬ (-c.before.offset = 0 ∨ l.nanos < nanosPerSecond) := by
    unfold ReadsExactly at h
    omega
  simp only [Instant.elapse, elapsed, if_neg h]
  split_ifs <;> simp only [Instant.mk.injEq, and_true] <;> omega

/-! ### Times that clocks show -/

namespace Zone

variable {z : Zone} {s : Int} {c : Change}

theorem shows_iff {i : Instant} {l : LocalTime} :
    z.Shows i l ↔ i.seconds + (z.periodAt i.seconds).offset = l.seconds ∧ i.nanos = l.nanos := by
  rw [Shows, Instant.toLocal, ← LocalTime.mk.injEq]

namespace Regular

theorem pairwise (hz : z.Regular) : z.transitions.Pairwise Spaced :=
  List.isChain_iff_pairwise.mp hz.spaced

theorem offset_periodAt (hz : z.Regular) (n : Int) :
    -secondsPerDay < (z.periodAt n).offset ∧ (z.periodAt n).offset < secondsPerDay :=
  hz.offsets _ (periodFrom_mem n z.first z.transitions)

theorem mem_periodsShowing (hz : z.Regular) {q : Period} :
    q ∈ z.periodsShowing s ↔ z.periodAt (s - q.offset) = q := by
  rw [periodsShowing, mem_periodsFrom hz.pairwise fun _ _ => rfl]
  exact and_iff_right rfl

theorem pairwise_periodsShowing (hz : z.Regular) (s : Int) :
    (z.periodsShowing s).Pairwise fun q r => s - q.offset < s - r.offset :=
  pairwise_periodsFrom hz.pairwise

end Regular

namespace WellFormed

theorem regular (hz : z.WellFormed) : z.Regular := ⟨hz.offsets, hz.spaced⟩

theorem pairwise (hz : z.WellFormed) : z.transitions.Pairwise Spaced := hz.regular.pairwise

theorem offset_periodAt (hz : z.WellFormed) (n : Int) :
    -secondsPerDay < (z.periodAt n).offset ∧ (z.periodAt n).offset < secondsPerDay :=
  hz.regular.offset_periodAt n

theorem periodAt_before (hz : z.WellFormed) (hc : c ∈ z.changes) {n : Int}
    (h1 : c.begins - 2 * secondsPerDay ≤ n) (h2 : n < c.begins) : z.periodAt n = c.before :=
  periodFrom_before h1 h2 hz.pairwise hc

theorem periodAt_after (hz : z.WellFormed) (hc : c ∈ z.changes) {n : Int}
    (h1 : c.begins ≤ n) (h2 : n < c.begins + 2 * secondsPerDay) : z.periodAt n = c.after :=
  periodFrom_after h1 h2 hz.pairwise hc

/-- A change keeps the bounds of its zone. -/
theorem change_bounds (hz : z.WellFormed) (hc : c ∈ z.changes) :
    (-secondsPerDay < c.before.offset ∧ c.before.offset < secondsPerDay) ∧
      (-secondsPerDay < c.after.offset ∧ c.after.offset < secondsPerDay) ∧
      (firstDay + 3) * secondsPerDay ≤ c.begins ∧ c.begins ≤ (lastDay - 2) * secondsPerDay := by
  have hd : 0 < secondsPerDay := by decide
  obtain ⟨t, ht, he⟩ := begins_mem_of_changesFrom hc
  refine ⟨?_, ?_, he ▸ hz.inside t ht⟩
  · rw [← hz.periodAt_before hc (n := c.begins - 1) (by omega) (by omega)]
    exact hz.offset_periodAt _
  · rw [← hz.periodAt_after hc (n := c.begins) (by omega) (by omega)]
    exact hz.offset_periodAt _

/-- Between two periods lies a transition, and it is far from the ends of the calendar. -/
theorem exists_between (hz : z.WellFormed) {m n : Int} (h : z.periodAt m ≠ z.periodAt n) :
    ∃ k, (min m n < k ∧ k ≤ max m n) ∧
      (firstDay + 3) * secondsPerDay ≤ k ∧ k ≤ (lastDay - 2) * secondsPerDay := by
  obtain ⟨t, ht, hmn⟩ := exists_begins_of_ne h
  exact ⟨t.begins, hmn, hz.inside t ht⟩

theorem mem_periodsShowing (hz : z.WellFormed) {q : Period} :
    q ∈ z.periodsShowing s ↔ z.periodAt (s - q.offset) = q :=
  hz.regular.mem_periodsShowing

theorem periodAt_mem_periodsShowing (hz : z.WellFormed) {n : Int}
    (hn : n + (z.periodAt n).offset = s) : z.periodAt n ∈ z.periodsShowing s := by
  rw [hz.mem_periodsShowing, ← hn, Int.add_sub_cancel]

/-- The first of the periods listed shows the second earliest. -/
theorem isLeast_of_periodsShowing (hz : z.WellFormed) {p : Period} {ps : List Period}
    (h : z.periodsShowing s = p :: ps) :
    IsLeast {n | n + (z.periodAt n).offset = s} (s - p.offset) := by
  have hpair := hz.regular.pairwise_periodsShowing s
  rw [h, List.pairwise_cons] at hpair
  constructor
  · have hp := hz.mem_periodsShowing.mp (h ▸ List.mem_cons_self : p ∈ z.periodsShowing s)
    change s - p.offset + (z.periodAt (s - p.offset)).offset = s
    rw [hp]
    omega
  · intro n hn
    have hn : n + (z.periodAt n).offset = s := hn
    have hq := hz.periodAt_mem_periodsShowing hn
    rw [h, List.mem_cons] at hq
    rcases hq with he | hq
    · rw [← he]
      omega
    · have := hpair.1 _ hq
      omega

/-- Of the instants that show a second, all can be written or none. -/
theorem inRange_of_mem_periodsShowing (hz : z.WellFormed) {p q : Period}
    (hp : p ∈ z.periodsShowing s) (hq : q ∈ z.periodsShowing s) (h : InRange (s - p.offset)) :
    InRange (s - q.offset) := by
  rw [hz.mem_periodsShowing] at hp hq
  have hop := hz.offset_periodAt (s - p.offset)
  have hoq := hz.offset_periodAt (s - q.offset)
  rw [hp] at hop
  rw [hq] at hoq
  by_cases he : p = q
  · exact he ▸ h
  · obtain ⟨k, hk, hin⟩ := hz.exists_between (hp.trans_ne (hq.symm ▸ he))
    rw [inRange_iff]
    unfold secondsPerDay at *
    omega

/-- A time shown at instants that can be written is read as the first of them. -/
theorem resolve_of_inRange (hz : z.WellFormed) {l : LocalTime} {p : Period} {ps : List Period}
    (h : z.periodsShowing l.seconds = p :: ps) (hr : InRange (l.seconds - p.offset)) :
    z.resolve l = some (l.toInstant p.offset) := by
  have hall : ∀ q ∈ z.periodsShowing l.seconds, InRange (l.seconds - q.offset) := fun q hq =>
    hz.inRange_of_mem_periodsShowing (h ▸ List.mem_cons_self) hq hr
  have hinst : z.instantsOf l = l.toInstant p.offset :: ps.map fun q => l.toInstant q.offset := by
    rw [h] at hall
    rw [instantsOf, h]
    exact if_pos (by simpa [LocalTime.toInstant] using hall)
  rw [resolve, hinst]

/-- A time shown at instants of which the first cannot be written is not read. Near the first day
there is no day before to look up; near the last one the offset found there is the right one. -/
theorem resolve_of_not_inRange (hz : z.WellFormed) {l : LocalTime} (hl : InRange l.seconds)
    {p : Period} {ps : List Period} (h : z.periodsShowing l.seconds = p :: ps)
    (hr : ¬ InRange (l.seconds - p.offset)) : z.resolve l = none := by
  have hinst : z.instantsOf l = [] := by
    rw [instantsOf, h]
    exact if_neg (by simp [LocalTime.toInstant, hr])
  have hp := hz.mem_periodsShowing.mp (h ▸ List.mem_cons_self : p ∈ z.periodsShowing l.seconds)
  have ho := hz.offset_periodAt (l.seconds - p.offset)
  rw [hp] at ho
  have hbounds := inRange_iff.mp hl
  rw [resolve, hinst]
  simp only [resolveSkipped]
  refine if_neg fun hin => hr ?_
  have he : z.periodAt (l.seconds - secondsPerDay) = p := by
    by_contra hne
    obtain ⟨k, hk, hinside⟩ := hz.exists_between (hp.symm ▸ hne)
    simp only [inRange_iff] at hr hin
    unfold secondsPerDay at *
    omega
  rw [he] at hin
  have hs := elapsed_seconds l.seconds l.nanos (-p.offset)
  simp only [inRange_iff] at hin ⊢
  unfold secondsPerDay at *
  omega

/-! ### Times that clocks skip -/

/-- A second that is skipped is not shown, neither before the change nor after it. -/
theorem periodsShowing_of_skips (hz : z.WellFormed) (hc : c ∈ z.changes) (hs : c.Skips s) :
    z.periodsShowing s = [] := by
  obtain ⟨hb, ha, -⟩ := hz.change_bounds hc
  have hgap := Change.skips_iff.mp hs
  rw [List.eq_nil_iff_forall_not_mem]
  intro q hq
  rw [hz.mem_periodsShowing] at hq
  have ho := hz.offset_periodAt (s - q.offset)
  rw [hq] at ho
  rcases lt_or_ge (s - q.offset) c.begins with h | h
  · rw [hz.periodAt_before hc (by omega) h] at hq
    subst hq
    omega
  · rw [hz.periodAt_after hc h (by omega)] at hq
    subst hq
    omega

/-- Clocks skip a second less than a day before or after their change. -/
theorem near_of_skips (hz : z.WellFormed) (hc : c ∈ z.changes) (hs : c.Skips s) :
    c.begins - secondsPerDay < s ∧ s < c.begins + secondsPerDay := by
  obtain ⟨hb, ha, -⟩ := hz.change_bounds hc
  have hgap := Change.skips_iff.mp hs
  omega

/-- The offset in force before a change is found a day before the time that it skips. -/
theorem periodAt_of_skips (hz : z.WellFormed) (hc : c ∈ z.changes) (hs : c.Skips s) :
    z.periodAt (s - secondsPerDay) = c.before := by
  have hn := hz.near_of_skips hc hs
  exact hz.periodAt_before hc (by omega) (by omega)

/-- A change that skips a second is far from the ends of the calendar. -/
theorem inRange_of_skips (hz : z.WellFormed) (hc : c ∈ z.changes) (hs : c.Skips s) {n : Int}
    (hn : s - secondsPerDay ≤ n ∧ n ≤ s + secondsPerDay) : InRange n := by
  have hnear := hz.near_of_skips hc hs
  have hin := (hz.change_bounds hc).2.2
  rw [inRange_iff]
  unfold secondsPerDay at *
  omega

/-- A time that the clocks skip is read with the offset in force before the change. -/
theorem resolve_of_skips (hz : z.WellFormed) {l : LocalTime} (hc : c ∈ z.changes)
    (hs : c.Skips l.seconds) : z.resolve l =
      some ((⟨l.seconds, l.nanos⟩ : Instant).elapse (-c.before.offset)) := by
  have hinst : z.instantsOf l = [] := by
    rw [instantsOf, hz.periodsShowing_of_skips hc hs]
    rfl
  have hb := (hz.change_bounds hc).1
  have hsec := elapsed_seconds l.seconds l.nanos (-c.before.offset)
  rw [resolve, hinst]
  simp only [resolveSkipped, hz.periodAt_of_skips hc hs]
  refine if_pos ⟨hz.inRange_of_skips hc hs ⟨le_refl _, ?_⟩, hz.inRange_of_skips hc hs ?_⟩
  · unfold secondsPerDay
    omega
  · omega

end WellFormed

/-! ### The offset that applies -/

/-- Whether an offset applies to a local second: clocks are at it when they first show the second,
or they were before the change by which they skip it. -/
def Applies (z : Zone) (s a : Int) : Prop :=
  IsLeast {n | n + (z.periodAt n).offset = s} (s - a) ∨
    ∃ c ∈ z.changes, c.Skips s ∧ c.before.offset = a

theorem exists_skips (h : z.periodsShowing s = []) : ∃ c ∈ z.changes, c.Skips s :=
  exists_skips_of_periodsFrom rfl h

namespace WellFormed

/-- A second is either shown by clocks or skipped by them. -/
theorem applies_iff (hz : z.WellFormed) {a : Int} : z.Applies s a ↔
    (∃ p ps, z.periodsShowing s = p :: ps ∧ p.offset = a) ∨
      z.periodsShowing s = [] ∧ (z.periodAt (s - secondsPerDay)).offset = a := by
  constructor
  · rintro (h | ⟨c, hc, hs, rfl⟩)
    · have hmem := hz.periodAt_mem_periodsShowing h.1
      obtain ⟨p, ps, hp⟩ := List.exists_cons_of_ne_nil (List.ne_nil_of_mem hmem)
      have := (hz.isLeast_of_periodsShowing hp).unique h
      exact .inl ⟨p, ps, hp, by omega⟩
    · exact .inr ⟨hz.periodsShowing_of_skips hc hs, by rw [hz.periodAt_of_skips hc hs]⟩
  · rintro (⟨p, ps, hp, rfl⟩ | ⟨h, rfl⟩)
    · exact .inl (hz.isLeast_of_periodsShowing hp)
    · obtain ⟨c, hc, hs⟩ := exists_skips h
      exact .inr ⟨c, hc, hs, by rw [hz.periodAt_of_skips hc hs]⟩

/-- **One offset applies to each local second.** -/
theorem existsUnique_applies (hz : z.WellFormed) (s : Int) : ∃! a, z.Applies s a := by
  simp only [hz.applies_iff]
  cases h : z.periodsShowing s with
  | nil => simp
  | cons p ps => simp

/-- **A local time is read unless the instant it stands for cannot be written.** -/
theorem resolve_eq_none_iff (hz : z.WellFormed) {l : LocalTime} (hl : InRange l.seconds) :
    z.resolve l = none ↔ ∃ a, z.Applies l.seconds a ∧ ¬ InRange (l.seconds - a) := by
  simp only [hz.applies_iff]
  cases h : z.periodsShowing l.seconds with
  | nil =>
    obtain ⟨c, hc, hs⟩ := exists_skips h
    rw [hz.resolve_of_skips hc hs]
    have hb := (hz.change_bounds hc).1
    have hin : InRange (l.seconds - c.before.offset) :=
      hz.inRange_of_skips hc hs ⟨by omega, by omega⟩
    simpa [hz.periodAt_of_skips hc hs] using hin
  | cons p ps =>
    by_cases hr : InRange (l.seconds - p.offset)
    · simpa [hz.resolve_of_inRange h hr] using hr
    · simpa [hz.resolve_of_not_inRange hl h hr] using hr

/-! ### How a local time is read -/

/-- A time that clocks show is read as the earliest instant at which they do. -/
theorem resolve_of_shows (hz : z.WellFormed) {l : LocalTime} {j : Instant} (hj : z.Shows j l)
    (hr : InRange j.seconds) :
    ∃ i, z.resolve l = some i ∧ z.Shows i l ∧ InRange i.seconds ∧
      ∀ k, z.Shows k l → i.seconds ≤ k.seconds := by
  obtain ⟨hsec, -⟩ := shows_iff.mp hj
  have hmem := hz.periodAt_mem_periodsShowing hsec
  obtain ⟨p, ps, hp⟩ := List.exists_cons_of_ne_nil (List.ne_nil_of_mem hmem)
  have hleast := hz.isLeast_of_periodsShowing hp
  have hin : InRange (l.seconds - p.offset) :=
    hz.inRange_of_mem_periodsShowing hmem (hp ▸ List.mem_cons_self)
      (by rw [← hsec, Int.add_sub_cancel]; exact hr)
  exact ⟨_, hz.resolve_of_inRange hp hin, shows_iff.mpr ⟨hleast.1, rfl⟩, hin,
    fun k hk => hleast.2 (shows_iff.mp hk).1⟩

/-- With the offset before the change, a skipped time is read as an instant after the change. -/
theorem shows_of_skips (hz : z.WellFormed) {l : LocalTime} (hc : c ∈ z.changes)
    (hs : c.Skips l.seconds) : z.Shows (l.toInstant c.before.offset)
      ⟨l.seconds + (c.after.offset - c.before.offset), l.nanos⟩ := by
  obtain ⟨hb, ha, -⟩ := hz.change_bounds hc
  have hgap := Change.skips_iff.mp hs
  have hafter := hz.periodAt_after hc (n := l.seconds - c.before.offset) (by omega) (by omega)
  rw [shows_iff]
  refine ⟨?_, rfl⟩
  simp only [LocalTime.toInstant, hafter]
  omega

/-- **How a local time is read.** A time that clocks show is read as the earliest instant at which
they do. In a gap the offset of the day before is the one in force before the change, and the time
is read with it exactly if it has no leap second to lose. -/
theorem resolve_exact (hz : z.WellFormed) (l : LocalTime) :
    ((∃ i, z.Shows i l ∧ InRange i.seconds) →
      ∃ i, z.resolve l = some i ∧ z.Shows i l ∧ InRange i.seconds ∧
        ∀ j, z.Shows j l → i.seconds ≤ j.seconds) ∧
    ∀ c ∈ z.changes, c.Skips l.seconds →
      z.periodAt (l.seconds - secondsPerDay) = c.before ∧
      ∃ i, z.resolve l = some i ∧
        (c.ReadsExactly l → i = l.toInstant c.before.offset ∧
          i = ⟨c.begins + (l.seconds - c.opens), l.nanos⟩ ∧
          z.Shows i ⟨l.seconds + (c.after.offset - c.before.offset), l.nanos⟩) ∧
        (¬ c.ReadsExactly l → i ≠ l.toInstant c.before.offset ∧
          ¬ z.Shows i ⟨l.seconds + (c.after.offset - c.before.offset), l.nanos⟩ ∧
          i = ⟨l.seconds - c.before.offset + (if 0 < c.before.offset then 1 else 0),
            l.nanos - nanosPerSecond⟩) := by
  refine ⟨fun ⟨j, hj, hr⟩ => hz.resolve_of_shows hj hr, fun c hc hs =>
    ⟨hz.periodAt_of_skips hc hs, _, hz.resolve_of_skips hc hs, fun he => ?_, fun he => ?_⟩⟩
  · rw [Change.elapse_eq he]
    refine ⟨rfl, ?_, hz.shows_of_skips hc hs⟩
    simp only [LocalTime.toInstant, Instant.mk.injEq, Change.opens, and_true]
    omega
  · have hn : l.nanos - nanosPerSecond ≠ l.nanos := by
      unfold Change.ReadsExactly nanosPerSecond at he
      unfold nanosPerSecond
      omega
    rw [Change.elapse_leap he, shows_iff]
    exact ⟨fun h => hn (Instant.mk.inj h).2, fun h => hn h.2, rfl⟩

end WellFormed

/-! ### A gap of one hour -/

/-- New York in 2016. -/
def newYork2016 : Zone :=
  ⟨"America/New_York", ⟨-18000, "EST"⟩,
    [⟨1457852400, ⟨-14400, "EDT"⟩⟩, ⟨1478412000, ⟨-18000, "EST"⟩⟩]⟩

theorem wellFormed_newYork2016 : newYork2016.WellFormed where
  offsets := by decide
  spaced := by decide
  inside := by decide

/-- 01:30 comes twice on 2016-11-06, and 02:30 not at all on 2016-03-13. -/
theorem resolve_newYork2016 :
    newYork2016.WellFormed ∧
      (∃ i, newYork2016.resolve ⟨1478395800, 0⟩ = some i ∧ newYork2016.Shows i ⟨1478395800, 0⟩ ∧
        ∀ j, newYork2016.Shows j ⟨1478395800, 0⟩ → i.seconds ≤ j.seconds) ∧
      newYork2016.resolve ⟨1457836200, 0⟩ = some ⟨1457854200, 0⟩ := by
  obtain ⟨i, hi, hshows, -, hleast⟩ := (wellFormed_newYork2016.resolve_exact ⟨1478395800, 0⟩).1
    ⟨⟨1478413800, 0⟩, rfl, by decide⟩
  obtain ⟨-, k, hk, hread, -⟩ := (wellFormed_newYork2016.resolve_exact ⟨1457836200, 0⟩).2
    ⟨⟨-18000, "EST"⟩, 1457852400, ⟨-14400, "EDT"⟩⟩ (by decide) (by decide)
  refine ⟨wellFormed_newYork2016, ⟨i, hi, hshows, hleast⟩, ?_⟩
  rw [hk, (hread (.inl (by decide))).1]
  rfl

/-- The leap second 02:59:60.5 of 2016-03-13 is read as if it were 02:59:59.5. -/
theorem resolve_leap_newYork2016 :
    newYork2016.WellFormed ∧ InRange 1457837999 ∧
      ∃ c ∈ newYork2016.changes, c.Skips 1457837999 ∧
        newYork2016.resolve ⟨1457837999, 1500000000⟩ ≠
          some (LocalTime.toInstant ⟨1457837999, 1500000000⟩ c.before.offset) :=
  ⟨wellFormed_newYork2016, by decide, ⟨⟨-18000, "EST"⟩, 1457852400, ⟨-14400, "EDT"⟩⟩, by decide,
    by decide, by decide⟩

end Zone

end PathTemplate.Time
