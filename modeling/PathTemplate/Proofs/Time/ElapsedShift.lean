/-
# Shifts by hours, minutes and seconds

A clock shift adds its seconds to the instant and looks neither at the zone nor
at the changes of its clocks. A number of seconds too large to be counted leads
past the calendar from every instant in it, so a shift is refused only when the
sum itself is out of range (`shift_of_elapsed`). A list of clock shifts is done
exactly if all its partial sums are in range, and is refused at the first that
is not; what it leads to does not depend on the order.

Key definitions: `Shift.elapsed`, `elapsedBy`, `RemainsInRange`, `LeavesRangeAt`.
Key theorems: `shift_of_elapsed`, `shiftSteps_of_remainsInRange`, `shiftSteps_of_leavesRangeAt`,
`shiftAll_clock_exact`.
-/
import PathTemplate.Proofs.Time.CalendarEnds

namespace PathTemplate

open Decimal Time

/-- The other direction. -/
def Sign.flip : Sign → Sign
  | plus => minus
  | minus => plus

/-- The same shift in the other direction. -/
def Shift.back (s : Shift) : Shift := { s with sign := s.sign.flip }

/-- The seconds that a clock shift adds. -/
def Shift.elapsed (s : Shift) : Int := s.sign.apply (s.magnitude * (unitSeconds s.unit).getD 0)

/-- The seconds that some clock shifts add one after another. -/
def elapsedBy : List Shift → Int
  | [] => 0
  | s :: ss => s.elapsed + elapsedBy ss

/-- The time some seconds later, as far into its second and in the same zone. -/
def Time.ZonedTime.later (t : ZonedTime) (n : Int) : ZonedTime :=
  ⟨⟨t.instant.seconds + n, t.instant.nanos⟩, t.zone⟩

/-- Whether all partial sums of some clock shifts can be written, counted from a second. -/
def RemainsInRange (start : Int) (ss : List Shift) : Prop :=
  ∀ before, before <+: ss → InRange (start + elapsedBy before)

/-- Whether a clock shift is the first among some with a partial sum that cannot be written. -/
def LeavesRangeAt (start : Int) (ss : List Shift) (s : Shift) : Prop :=
  ∃ before after, ss = before ++ s :: after ∧ RemainsInRange start before ∧
    ¬ InRange (start + elapsedBy (before ++ [s]))

/-! ### Sums of seconds -/

theorem Sign.apply_flip (sign : Sign) (n : Nat) : sign.flip.apply n = -sign.apply n := by
  cases sign with
  | plus => rfl
  | minus => exact (Int.neg_neg _).symm

theorem Shift.elapsed_back (s : Shift) : s.back.elapsed = -s.elapsed := Sign.apply_flip _ _

theorem elapsedBy_append (ss us : List Shift) :
    elapsedBy (ss ++ us) = elapsedBy ss + elapsedBy us := by
  induction ss with
  | nil => exact (Int.zero_add _).symm
  | cons s ss ih =>
    rw [List.cons_append, elapsedBy, ih, elapsedBy, Int.add_assoc]

/-- The order of clock shifts does not matter to their sum. -/
theorem elapsedBy_perm {ss us : List Shift} (h : ss.Perm us) : elapsedBy ss = elapsedBy us := by
  induction h with
  | nil => rfl
  | cons s _ ih => rw [elapsedBy, ih, elapsedBy]
  | swap s u ss =>
    simp only [elapsedBy]
    omega
  | trans _ _ ih₁ ih₂ => exact ih₁.trans ih₂

/-- More seconds than can be counted lead past the calendar from every second in it. -/
theorem not_inRange_of_longestElapse {start n : Int} (hr : InRange start)
    (h : longestElapse < n.natAbs) : ¬ InRange (start + n) := by
  have hmost : longestElapse = 9223372036854775 := rfl
  rw [inRange_iff] at hr ⊢
  unfold firstDay lastDay secondsPerDay at *
  omega

/-! ### Partial sums -/

theorem remainsInRange_nil {start : Int} : RemainsInRange start [] ↔ InRange start := by
  simp [RemainsInRange, List.prefix_nil, elapsedBy]

theorem remainsInRange_cons {start : Int} (hr : InRange start) {s : Shift} {ss : List Shift} :
    RemainsInRange start (s :: ss) ↔ RemainsInRange (start + s.elapsed) ss := by
  have hsum (before : List Shift) :
      start + elapsedBy (s :: before) = start + s.elapsed + elapsedBy before := by
    rw [elapsedBy, Int.add_assoc]
  constructor
  · intro h before hbefore
    rw [← hsum]
    exact h _ (List.prefix_cons_inj s |>.mpr hbefore)
  · intro h before hbefore
    rcases List.prefix_cons_iff.mp hbefore with rfl | ⟨us, rfl, hus⟩
    · simpa [elapsedBy] using hr
    · rw [hsum]
      exact h us hus

/-- Either all partial sums are in range, or there is a first that is not. -/
theorem remainsInRange_or_leavesRangeAt {start : Int} (hr : InRange start) (ss : List Shift) :
    RemainsInRange start ss ∨ ∃ s, LeavesRangeAt start ss s := by
  induction ss generalizing start with
  | nil => exact .inl (remainsInRange_nil.mpr hr)
  | cons s ss ih =>
    by_cases hs : InRange (start + s.elapsed)
    · rcases ih hs with h | ⟨u, before, after, rfl, hbefore, hu⟩
      · exact .inl ((remainsInRange_cons hr).mpr h)
      · refine .inr ⟨u, s :: before, after, rfl, (remainsInRange_cons hr).mpr hbefore, ?_⟩
        rwa [List.cons_append, elapsedBy, ← Int.add_assoc]
    · refine .inr ⟨s, [], ss, rfl, remainsInRange_nil.mpr hr, ?_⟩
      simpa [elapsedBy] using hs

/-- A shift there and back remains in range if it does so there. -/
theorem remainsInRange_back {start : Int} (hr : InRange start) {s : Shift}
    (h : RemainsInRange start [s]) : RemainsInRange start [s, s.back] := by
  rw [remainsInRange_cons hr] at h ⊢
  rw [remainsInRange_cons (remainsInRange_nil.mp h), Shift.elapsed_back,
    Int.add_neg_cancel_right, remainsInRange_nil]
  exact hr

theorem elapsedBy_back (s : Shift) : elapsedBy [s, s.back] = 0 := by
  simp only [elapsedBy, Shift.elapsed_back]
  omega

/-! ### What clock shifts do -/

namespace Time.ZonedTime

variable {t : ZonedTime} {s : Shift}

theorem later_zero (t : ZonedTime) : t.later 0 = t := by
  unfold later
  rw [Int.add_zero]

theorem later_later (t : ZonedTime) (m n : Int) : (t.later m).later n = t.later (m + n) := by
  simp only [later, Int.add_assoc]

/-- **A clock shift adds its seconds, or the sum is out of range.** -/
theorem shift_of_elapsed (hn : t.instant.nanos < nanosPerSecond) (hr : InRange t.instant.seconds)
    (hs : unitSeconds s.unit ≠ none) :
    t.shift s = if InRange (t.instant.seconds + s.elapsed) then .ok (t.later s.elapsed)
      else .error .outOfRange := by
  obtain ⟨k, hk⟩ := Option.ne_none_iff_exists'.mp hs
  have hsum : s.sign.apply (s.magnitude * k) = s.elapsed := by
    rw [Shift.elapsed, hk, Option.getD_some]
  rw [shift_of_clock hk, hsum, shiftClock]
  by_cases hlong : longestElapse < s.elapsed.natAbs
  · rw [if_pos hlong, if_neg (not_inRange_of_longestElapse hr hlong)]
  · rw [if_neg hlong, Instant.elapse_of_nanos_lt hn]
    rfl

end Time.ZonedTime

variable {t : ZonedTime} {s : Shift} {ss : List Shift}

/-- Clock shifts whose partial sums are in range lead as far as they do together. -/
theorem shiftSteps_of_remainsInRange (hn : t.instant.nanos < nanosPerSecond)
    (hss : ∀ s ∈ ss, unitSeconds s.unit ≠ none) (h : RemainsInRange t.instant.seconds ss) :
    (shiftSteps t ss).2 = .ok (t.later (elapsedBy ss)) := by
  induction ss generalizing t with
  | nil => rw [elapsedBy, ZonedTime.later_zero]; rfl
  | cons s ss ih =>
    have hr : InRange t.instant.seconds := by
      simpa [elapsedBy] using h [] List.nil_prefix
    have hs : InRange (t.instant.seconds + s.elapsed) := by
      simpa [elapsedBy] using h [s] (List.prefix_append [s] ss)
    have hshift : t.shift s = .ok (t.later s.elapsed) := by
      rw [ZonedTime.shift_of_elapsed hn hr (hss s List.mem_cons_self), if_pos hs]
    rw [remainsInRange_cons hr] at h
    have hrest := ih (t := t.later s.elapsed) hn (fun u hu => hss u (List.mem_cons_of_mem s hu)) h
    rw [shiftSteps_cons_of_ok hshift, hrest, ZonedTime.later_later, elapsedBy]

/-- Clock shifts are refused at the first whose partial sum is out of range. -/
theorem shiftSteps_of_leavesRangeAt (hn : t.instant.nanos < nanosPerSecond)
    (hss : ∀ s ∈ ss, unitSeconds s.unit ≠ none) (h : LeavesRangeAt t.instant.seconds ss s) :
    (shiftSteps t ss).2 = .error (.failed (.timeOutOfRange s.shown)) := by
  obtain ⟨before, after, rfl, hbefore, hs⟩ := h
  have hdone : (shiftSteps t before).2 = .ok (t.later (elapsedBy before)) :=
    shiftSteps_of_remainsInRange hn (fun u hu => hss u (List.mem_append_left _ hu)) hbefore
  have hin : InRange (t.later (elapsedBy before)).instant.seconds := hbefore before List.prefix_rfl
  have hout : ¬ InRange ((t.later (elapsedBy before)).instant.seconds + s.elapsed) := by
    simpa [elapsedBy_append, elapsedBy, ZonedTime.later, Int.add_assoc] using hs
  have hrefused : (t.later (elapsedBy before)).shift s = .error .outOfRange := by
    rw [ZonedTime.shift_of_elapsed (t := t.later _) hn hin (hss s (by simp)), if_neg hout]
  rw [shiftSteps_append hdone, shiftSteps_cons_of_error hrefused]
  rfl

/-- Clock shifts that are done lead as far as they do together, and their partial sums are in
range. -/
theorem shiftSteps_clock_eq_ok (hn : t.instant.nanos < nanosPerSecond)
    (hr : InRange t.instant.seconds) (hss : ∀ s ∈ ss, unitSeconds s.unit ≠ none) {u : ZonedTime}
    (h : (shiftSteps t ss).2 = .ok u) :
    RemainsInRange t.instant.seconds ss ∧ u = t.later (elapsedBy ss) := by
  rcases remainsInRange_or_leavesRangeAt hr ss with hin | ⟨s, hs⟩
  · have hdone := shiftSteps_of_remainsInRange hn hss hin
    exact ⟨hin, Except.ok.inj (h.symm.trans hdone)⟩
  · have hrefused := shiftSteps_of_leavesRangeAt hn hss hs
    cases h.symm.trans hrefused

theorem Value.shiftAll_time_eq_ok {v : Value} (h : (Value.time t).shiftAll ss = .ok v) :
    ∃ u, (shiftSteps t ss).2 = .ok u ∧ v = .time u := by
  change Value.time <$> (shiftSteps t ss).2 = .ok v at h
  cases hu : (shiftSteps t ss).2 with
  | error e =>
    rw [hu] at h
    cases h
  | ok u =>
    rw [hu] at h
    exact ⟨u, rfl, (Except.ok.inj h).symm⟩

/-- **Clock shifts add exact elapsed time.** They are done exactly if all partial sums can be
written, and lead as many seconds on as they say together, whatever the clocks do meanwhile. The
refusal names the first whose partial sum cannot be written. Their order does not matter to the
time they lead to, and a shift there and back leads back. -/
theorem Value.shiftAll_clock_exact (hn : t.instant.nanos < nanosPerSecond)
    (hr : InRange t.instant.seconds) (hss : ∀ s ∈ ss, unitSeconds s.unit ≠ none) :
    ((∃ v, (Value.time t).shiftAll ss = .ok v) ↔ RemainsInRange t.instant.seconds ss) ∧
      (∀ v, (Value.time t).shiftAll ss = .ok v →
        v = .time ⟨⟨t.instant.seconds + elapsedBy ss, t.instant.nanos⟩, t.zone⟩) ∧
      (∀ halt, (Value.time t).shiftAll ss = .error halt → ∃ s,
        LeavesRangeAt t.instant.seconds ss s ∧ halt = .failed (.timeOutOfRange s.shown)) ∧
      (∀ us v w, us.Perm ss → (Value.time t).shiftAll ss = .ok v →
        (Value.time t).shiftAll us = .ok w → v = w) ∧
      ∀ s, unitSeconds s.unit ≠ none → (∃ v, (Value.time t).shiftAll [s] = .ok v) →
        (Value.time t).shiftAll [s, s.back] = .ok (.time t) := by
  have hdone {us : List Shift} (hus : ∀ s ∈ us, unitSeconds s.unit ≠ none) {v : Value}
      (h : (Value.time t).shiftAll us = .ok v) :
      RemainsInRange t.instant.seconds us ∧ v = .time (t.later (elapsedBy us)) := by
    obtain ⟨u, hu, rfl⟩ := Value.shiftAll_time_eq_ok h
    obtain ⟨hin, rfl⟩ := shiftSteps_clock_eq_ok hn hr hus hu
    exact ⟨hin, rfl⟩
  have hall (us : List Shift) :
      (Value.time t).shiftAll us = Value.time <$> (shiftSteps t us).2 := rfl
  refine ⟨⟨fun ⟨v, hv⟩ => (hdone hss hv).1, fun h => ?_⟩, fun v hv => (hdone hss hv).2,
    fun halt he => ?_, fun us v w hperm hv hw => ?_, fun s hs ⟨v, hv⟩ => ?_⟩
  · rw [hall, shiftSteps_of_remainsInRange hn hss h]
    exact ⟨_, rfl⟩
  · rcases remainsInRange_or_leavesRangeAt hr ss with hin | ⟨s, hs⟩
    · rw [hall, shiftSteps_of_remainsInRange hn hss hin] at he
      cases he
    · rw [hall, shiftSteps_of_leavesRangeAt hn hss hs] at he
      cases he
      exact ⟨s, hs, rfl⟩
  · have hus : ∀ s ∈ us, unitSeconds s.unit ≠ none := fun s hs => hss s (hperm.mem_iff.mp hs)
    rw [(hdone hss hv).2, (hdone hus hw).2, elapsedBy_perm hperm]
  · have hboth : ∀ u ∈ [s, s.back], unitSeconds u.unit ≠ none := by simp [Shift.back, hs]
    have hthere : RemainsInRange t.instant.seconds [s] := (hdone (by simp [hs]) hv).1
    rw [hall, shiftSteps_of_remainsInRange hn hboth (remainsInRange_back hr hthere),
      elapsedBy_back, ZonedTime.later_zero]
    rfl

/-- Half an hour before the clocks go forward in New York in 2016, and an hour and some minutes
later. -/
theorem Value.shiftAll_clock_newYork2016 :
    RemainsInRange 1457850600 [⟨.plus, 1, .hour⟩, ⟨.plus, 90, .minute⟩, ⟨.minus, 1, .second⟩] ∧
      ∃ v, (Value.time ⟨⟨1457850600, 5⟩, Zone.newYork2016⟩).shiftAll
        [⟨.plus, 1, .hour⟩, ⟨.plus, 90, .minute⟩, ⟨.minus, 1, .second⟩] = .ok v ∧
        v = .time ⟨⟨1457859599, 5⟩, Zone.newYork2016⟩ := by
  have hin : RemainsInRange 1457850600
      [⟨.plus, 1, .hour⟩, ⟨.plus, 90, .minute⟩, ⟨.minus, 1, .second⟩] := by
    rw [remainsInRange_cons (by decide), remainsInRange_cons (by decide),
      remainsInRange_cons (by decide), remainsInRange_nil]
    decide
  have hclock : ∀ s ∈ [(⟨.plus, 1, .hour⟩ : Shift), ⟨.plus, 90, .minute⟩, ⟨.minus, 1, .second⟩],
      unitSeconds s.unit ≠ none := by decide
  obtain ⟨hok, hwhich, -⟩ := shiftAll_clock_exact
    (t := ⟨⟨1457850600, 5⟩, Zone.newYork2016⟩) (by decide) (by decide) hclock
  obtain ⟨v, hv⟩ := hok.mpr hin
  exact ⟨hin, v, hv, hwhich v hv⟩

end PathTemplate
