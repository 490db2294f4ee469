/-
# The log of lossy rendering

Lossy rendering tells of a placeholder which shifts it applied, each with the time
after it, and then once what became of it: the text, or the error for which a
sentinel stands (`Segment.tells_log`). Of what cannot be read it tells the error
alone, and of literal text nothing. So the events of a template fall into groups,
one for each segment, and the groups can be found again from the events: every
group that is not empty ends with the one event in it that is no shift
(`groupsIn_logAll`). The output is written in the literal text and the last events
of the groups, and nothing fails if no event says so.

A run that breaks off ends with the shifts of the placeholder at fault. What is
told in front of it is told alike, but nothing says that it broke off, nor what
stands in the output. So the log tells what was rendered exactly where no segment
breaks off (`Template.logTells_exact`).

Key definitions: `Passes`, `Placeholder.Applies`, `Segment.Tells`, `groupsIn`, `Segment.retold`,
`Template.LogTells`.
Key theorems: `shiftSteps_passes`, `Segment.tells_log`, `groupsIn_logAll`,
`renderAllLossy_eq_join`, `noneFails_iff_failed_not_mem`, `Template.logTells_exact`.
-/
import PathTemplate.Proofs.Render.Failures

namespace PathTemplate

open Time

/-! ### What is told -/

/-- Whether a time passes through `steps` to a time, each of them a shift and the time after it. -/
inductive Passes : ZonedTime → List (Shift × ZonedTime) → ZonedTime → Prop
  | here (t : ZonedTime) : Passes t [] t
  | step {t u v : ZonedTime} {s : Shift} {steps : List (Shift × ZonedTime)}
    (hshift : t.shift s = .ok u) (hrest : Passes u steps v) : Passes t ((s, u) :: steps) v

/-- Whether `steps` are the shifts of a placeholder that are applied before the first that fails,
each with the time after it. None is where there is no time to be shifted. -/
def Placeholder.Applies (p : Placeholder) (r : Resolver) (steps : List (Shift × ZonedTime)) :
    Prop :=
  match r.resolve p.reference with
  | .ok (.time t) => ∃ u left, Passes t steps u ∧
      p.shifts.map Located.node = steps.map Prod.fst ++ left ∧
      ∀ s ∈ left.head?, ∃ fault, u.shift s = .error fault
  | _ => steps = []

/-- The events of some shifts and the times after them. -/
def shiftEvents (steps : List (Shift × ZonedTime)) : List Event :=
  steps.map fun (s, u) => .shifted s u

/-- What lossy rendering tells of a segment that the resolver has come to. -/
inductive Segment.Tells (r : Resolver) : Segment → List Event → Prop
  /-- Of literal text it tells nothing. -/
  | literal (text : String) : Tells r (.literal text) []
  /-- What cannot be read fails, and nothing else becomes of it. -/
  | malformed (e : FormatError) : Tells r (.malformed e) [.failed e]
  /-- A placeholder that is filled in ends with its reference, its kind and its text. -/
  | resolved {p : Located Placeholder} {steps : List (Shift × ZonedTime)} {v : Value}
    {text : String} (hsteps : p.node.Applies r steps)
    (hvalue : r.resolve p.node.reference = .ok v)
    (htext : ((Segment.placeholder p).render r).result = .ok text) :
    Tells r (.placeholder p)
      (shiftEvents steps ++ [.resolved p.node.reference.node v.kind text])
  /-- A placeholder that is not filled in ends with its error. -/
  | failed {p : Located Placeholder} {steps : List (Shift × ZonedTime)} {e : FormatError}
    (hsteps : p.node.Applies r steps)
    (herror : ((Segment.placeholder p).render r).result = .error (.failed e)) :
    Tells r (.placeholder p) (shiftEvents steps ++ [.failed e])

/-! ### Shifts -/

/-- **A time passes through the steps that are kept of its shifts**, and the shift behind them
fails if there is one. -/
theorem shiftSteps_passes (t : ZonedTime) (ss : List Shift) :
    ∃ u left, Passes t (shiftSteps t ss).1 u ∧ ss = (shiftSteps t ss).1.map Prod.fst ++ left ∧
      ∀ s ∈ left.head?, ∃ fault, u.shift s = .error fault := by
  induction ss generalizing t with
  | nil => exact ⟨t, [], .here t, rfl, nofun⟩
  | cons s ss ih =>
    cases hs : t.shift s with
    | error fault =>
      have hsteps : (shiftSteps t (s :: ss)).1 = [] := by simp only [shiftSteps, hs]
      rw [hsteps]
      refine ⟨t, s :: ss, .here t, rfl, ?_⟩
      rintro _ ⟨⟩
      exact ⟨fault, hs⟩
    | ok u =>
      have hsteps : (shiftSteps t (s :: ss)).1 = (s, u) :: (shiftSteps u ss).1 := by
        simp only [shiftSteps, hs]
      obtain ⟨v, left, hpasses, hleft, hnext⟩ := ih u
      rw [hsteps]
      exact ⟨v, left, .step hs hpasses, congrArg (s :: ·) hleft, hnext⟩

namespace Placeholder

variable {p : Placeholder} {r : Resolver} {v w : Value}

theorem shiftsSpan_eq_none_iff {ss : List (Located Shift)} : shiftsSpan ss = none ↔ ss = [] := by
  cases ss <;> simp [shiftsSpan]

/-- The steps of a placeholder are the shifts that it applies. -/
theorem applies_shiftValue (hv : r.resolve p.reference = .ok v) :
    p.Applies r (p.shiftValue v).1 := by
  unfold Applies shiftValue
  rw [hv]
  cases hspan : shiftsSpan p.shifts with
  | none =>
    rw [shiftsSpan_eq_none_iff.mp hspan]
    cases v with
    | time t => exact ⟨t, [], .here t, rfl, nofun⟩
    | integer | float | text => rfl
  | some span =>
    cases v with
    | time t => exact shiftSteps_passes t _
    | integer | float | text => rfl

/-- A value that is shifted keeps its kind. -/
theorem kind_of_shiftValue (h : (p.shiftValue v).2 = .ok w) : w.kind = v.kind := by
  unfold shiftValue at h
  cases hspan : shiftsSpan p.shifts with
  | none =>
    rw [hspan] at h
    cases h
    rfl
  | some span =>
    rw [hspan] at h
    cases v with
    | time t =>
      simp only [Value.shiftTrace] at h
      cases hsteps : (shiftSteps t (p.shifts.map Located.node)).2 with
      | error e =>
        rw [hsteps] at h
        cases h
      | ok u =>
        rw [hsteps] at h
        cases h
        rfl
    | integer | float | text => cases h

/-- The last event of a placeholder: what became of it. None tells that it broke off. -/
def outcome (p : Placeholder) (v : Value) : Except (Halt FormatError) String → List Event
  | .ok text => [.resolved p.reference.node v.kind text]
  | .error (.failed e) => [.failed e]
  | .error .brokenOff => []

/-- The events of a placeholder whose value is found are those of its shifts and its outcome. -/
theorem log_render (hv : r.resolve p.reference = .ok v) (span : Span) : (p.render span r).log =
    shiftEvents (p.shiftValue v).1 ++ p.outcome v (p.render span r).result := by
  rw [render, Resolver.take, hv]
  simp only
  cases hw : (p.shiftValue v).2 with
  | error halt =>
    cases halt with
    | failed e => rfl
    | brokenOff => exact (List.append_nil _).symm
  | ok w =>
    simp only
    cases p.renderValue span w with
    | error e => rfl
    | ok text =>
      rw [outcome, ← kind_of_shiftValue hw]
      rfl

end Placeholder

/-- **The events of a segment are what lossy rendering tells of it**, if it does not break off. -/
theorem Segment.tells_log {s : Segment} {r : Resolver} (h : ¬ s.BreaksOff r) :
    s.Tells r (s.render r).log := by
  cases s with
  | literal text => exact .literal text
  | malformed e => exact .malformed e
  | placeholder p =>
    cases hv : r.resolve p.node.reference with
    | error e =>
      have hsteps : p.node.Applies r [] := by
        unfold Placeholder.Applies
        rw [hv]
      have hrender : (Segment.placeholder p).render r =
          ⟨[], .error (.failed e), r.after p.node.reference.node⟩ := by
        rw [Segment.render, Placeholder.render, Resolver.take, hv]
      rw [hrender]
      exact .failed hsteps (by rw [hrender])
    | ok v =>
      have hsteps := Placeholder.applies_shiftValue hv
      have hlog : ((Segment.placeholder p).render r).log = _ := Placeholder.log_render hv p.span
      rw [hlog]
      cases hresult : (p.node.render p.span r).result with
      | ok text => exact .resolved hsteps hv hresult
      | error halt =>
        cases halt with
        | failed e => exact .failed hsteps hresult
        | brokenOff => exact absurd hresult h

/-- Of a placeholder that breaks off only the shifts are told that are applied before. -/
theorem Segment.BreaksOff.log_eq {s : Segment} {r : Resolver} (h : s.BreaksOff r) :
    ∃ p steps, s = .placeholder p ∧ p.node.Applies r steps ∧
      (s.render r).log = shiftEvents steps := by
  obtain ⟨p, t, rfl, hv, -⟩ := breaksOff_iff.mp h
  refine ⟨p, _, rfl, Placeholder.applies_shiftValue hv, ?_⟩
  have hlog : ((Segment.placeholder p).render r).log = _ := Placeholder.log_render hv p.span
  have hresult : (p.node.render p.span r).result = .error .brokenOff := h
  rw [hlog, hresult, Placeholder.outcome, List.append_nil]

/-! ### Groups of events -/

/-- Whether an event is that of a shift, behind which more is told of its placeholder. -/
def Event.isShifted : Event → Bool
  | shifted _ _ => true
  | _ => false

/-- The groups of some events, one for each of some segments: a group of a segment other than
literal text ends with its first event that is no shift. -/
def groupsIn : List Segment → List Event → List (List Event)
  | [], _ => []
  | .literal _ :: ss, es => [] :: groupsIn ss es
  | _ :: ss, es =>
    (es.takeWhile Event.isShifted ++ (es.dropWhile Event.isShifted).take 1) ::
      groupsIn ss ((es.dropWhile Event.isShifted).drop 1)

/-- What an event says that the output has for its segment. -/
def Event.written : Event → String
  | shifted _ _ => ""
  | resolved _ _ rendered => rendered
  | failed error => "%!(" ++ error.message ++ ")"

/-- What stands in the output for a segment, read from the text of the template and the events. -/
def Segment.retold (s : Segment) (group : List Event) : String :=
  match s with
  | literal text => text
  | _ => String.join (group.map Event.written)

/-- The events of some segments, group by group. -/
def logGroups (r : Resolver) : List Segment → List (List Event)
  | [] => []
  | s :: ss => (s.render r).log :: logGroups (s.render r).left ss

theorem logAll_cons_of_not {r : Resolver} {s : Segment} (h : ¬ s.BreaksOff r)
    (ss : List Segment) :
    logAll r (s :: ss) = (s.render r).log ++ logAll (s.render r).left ss := by
  obtain ⟨text, htext⟩ := Segment.exists_lossy_iff.mpr h
  simp only [logAll, htext]

theorem logAll_cons_of_breaksOff {r : Resolver} {s : Segment} (h : s.BreaksOff r)
    (ss : List Segment) : logAll r (s :: ss) = (s.render r).log := by
  have hnone : (s.render r).lossy = none := by
    rw [Rendering.lossy, h]
  simp only [logAll, hnone]

/-- Behind segments of which none breaks off the log goes on. -/
theorem logAll_append {r : Resolver} {ss : List Segment} (h : NoneBreaksOff r ss)
    (us : List Segment) : logAll r (ss ++ us) = logAll r ss ++ logAll (r.behind ss) us := by
  induction ss generalizing r with
  | nil => rfl
  | cons s ss ih =>
    obtain ⟨hs, hss⟩ := throughout_cons.mp h
    rw [List.cons_append, logAll_cons_of_not hs, logAll_cons_of_not hs, ih hss,
      Resolver.behind_cons, List.append_assoc]

theorem flatten_logGroups {r : Resolver} {ss : List Segment} (h : NoneBreaksOff r ss) :
    (logGroups r ss).flatten = logAll r ss := by
  induction ss generalizing r with
  | nil => rfl
  | cons s ss ih =>
    obtain ⟨hs, hss⟩ := throughout_cons.mp h
    rw [logGroups, List.flatten_cons, ih hss, logAll_cons_of_not hs]

theorem length_logGroups (r : Resolver) (ss : List Segment) :
    (logGroups r ss).length = ss.length := by
  induction ss generalizing r with
  | nil => rfl
  | cons s ss ih => rw [logGroups, List.length_cons, ih, List.length_cons]

/-- The group of a segment is told by the resolver that the segments before it leave behind. -/
theorem getElem?_logGroups (r : Resolver) (ss : List Segment) (i : Nat) :
    (logGroups r ss)[i]? = (ss[i]?).map fun s => (s.render (r.behind (ss.take i))).log := by
  induction ss generalizing r i with
  | nil => rfl
  | cons s ss ih =>
    cases i with
    | zero => rfl
    | succ i => exact ih (s.render r).left i

theorem forall_shiftEvents (steps : List (Shift × ZonedTime)) :
    ∀ e ∈ shiftEvents steps, e.isShifted = true := by
  intro e he
  obtain ⟨step, -, rfl⟩ := List.mem_map.mp he
  rfl

section

variable {r : Resolver} {s : Segment} {ss : List Segment} {group : List Event}

/-- Shifts and one event behind them are a group. -/
theorem groupsIn_shiftEvents {p : Located Placeholder} {closing : Event}
    (hclosing : closing.isShifted = false) (steps : List (Shift × ZonedTime)) (es : List Event) :
    groupsIn (.placeholder p :: ss) (shiftEvents steps ++ [closing] ++ es) =
      (shiftEvents steps ++ [closing]) :: groupsIn ss es := by
  have hsteps := forall_shiftEvents steps
  have htake :
      (shiftEvents steps ++ closing :: es).takeWhile Event.isShifted = shiftEvents steps := by
    rw [List.takeWhile_append_of_pos hsteps, List.takeWhile_cons_of_neg (by simp [hclosing]),
      List.append_nil]
  have hdrop : (shiftEvents steps ++ closing :: es).dropWhile Event.isShifted = closing :: es := by
    rw [List.dropWhile_append_of_pos hsteps, List.dropWhile_cons_of_neg (by simp [hclosing])]
  rw [List.append_assoc, List.singleton_append, groupsIn, htake, hdrop]
  · rfl
  · nofun

/-- What is told of a segment is the first group where other groups follow. -/
theorem Segment.Tells.groupsIn_append (h : s.Tells r group) (es : List Event) :
    groupsIn (s :: ss) (group ++ es) = group :: groupsIn ss es := by
  cases h with
  | literal text => rfl
  | malformed e => rfl
  | resolved => exact groupsIn_shiftEvents rfl _ es
  | failed => exact groupsIn_shiftEvents rfl _ es

/-- **The groups of events are found again from the events.** -/
theorem groupsIn_logAll (h : NoneBreaksOff r ss) : groupsIn ss (logAll r ss) = logGroups r ss := by
  induction ss generalizing r with
  | nil => rfl
  | cons s ss ih =>
    obtain ⟨hs, hss⟩ := throughout_cons.mp h
    rw [logAll_cons_of_not hs, (Segment.tells_log hs).groupsIn_append, ih hss, logGroups]

/-- The groups of segments of which none breaks off are told of them one by one. -/
theorem tells_logGroups (h : NoneBreaksOff r ss) {i : Nat} (hi : ss[i]? = some s) :
    ∃ group, (logGroups r ss)[i]? = some group ∧ s.Tells (r.behind (ss.take i)) group := by
  obtain ⟨hlt, rfl⟩ := List.getElem?_eq_some_iff.mp hi
  have hcut : ss = ss.take i ++ ss[i] :: ss.drop (i + 1) := by
    rw [← List.drop_eq_getElem_cons hlt, List.take_append_drop]
  refine ⟨_, ?_, Segment.tells_log (h _ _ _ hcut)⟩
  rw [getElem?_logGroups, hi]
  rfl

/-! ### What the events say of the output -/

theorem join_written_shiftEvents (steps : List (Shift × ZonedTime)) (closing : Event) :
    String.join ((shiftEvents steps ++ [closing]).map Event.written) = closing.written := by
  induction steps with
  | nil => simp [shiftEvents, String.join_cons]
  | cons step steps ih =>
    show String.join (("" : String) :: ((shiftEvents steps ++ [closing]).map Event.written)) = _
    rw [String.join_cons, ih, String.empty_append]

/-- The output for a segment is what its events say. -/
theorem Segment.Tells.lossy_eq (h : s.Tells r group) :
    (s.render r).lossy = some (s.retold group) := by
  cases h with
  | literal text => rfl
  | malformed e => exact congrArg some (join_written_shiftEvents [] (.failed e)).symm
  | resolved _ _ htext =>
    rw [Rendering.lossy, htext]
    exact congrArg some (join_written_shiftEvents _ (.resolved _ _ _)).symm
  | failed _ herror =>
    rw [Rendering.lossy, herror]
    exact congrArg some (join_written_shiftEvents _ (.failed _)).symm

/-- A segment fails if its events say so. -/
theorem Segment.Tells.failed_mem_iff (h : s.Tells r group) (e : FormatError) :
    .failed e ∈ group ↔ s.FailsWith r e := by
  have hshift : ∀ steps : List (Shift × ZonedTime), .failed e ∉ shiftEvents steps := by
    intro steps hmem
    cases forall_shiftEvents steps _ hmem
  unfold Segment.FailsWith
  cases h with
  | literal text => simp [Segment.render]
  | malformed d => simp [Segment.render, eq_comm]
  | resolved _ _ htext => simp [htext, hshift]
  | failed _ herror => simp [herror, hshift, eq_comm]

/-- **The output of lossy rendering is told by the events**, but for the literal text. -/
theorem renderAllLossy_eq_join (h : NoneBreaksOff r ss) : renderAllLossy r ss =
    some (String.join (List.zipWith Segment.retold ss (logGroups r ss))) := by
  induction ss generalizing r with
  | nil => rfl
  | cons s ss ih =>
    obtain ⟨hs, hss⟩ := throughout_cons.mp h
    rw [renderAllLossy_cons, logGroups, List.zipWith_cons_cons, String.join_cons,
      (Segment.tells_log hs).lossy_eq, ih hss]
    rfl

/-- Nothing fails if no event says so. -/
theorem noneFails_iff_failed_not_mem (h : NoneBreaksOff r ss) :
    NoneFails r ss ↔ ∀ e, .failed e ∉ logAll r ss := by
  induction ss generalizing r with
  | nil => exact iff_of_true (throughout_nil _ r) (fun e => List.not_mem_nil)
  | cons s ss ih =>
    obtain ⟨hs, hss⟩ := throughout_cons.mp h
    rw [NoneFails, throughout_cons, ← NoneFails, ih hss, logAll_cons_of_not hs]
    simp only [List.mem_append, (Segment.tells_log hs).failed_mem_iff, not_or]
    exact forall_and.symm

end

/-- The log tells what was rendered. Its events fall into groups, one for each segment, and are
those of the groups one behind the other. Of literal text nothing is told, of what cannot be read
its error alone; of a placeholder the shifts that are applied before the first that fails, each with
the time after it, and then once that it was filled in, or the error. So the output is had from the
log: it is the literal text and what the last events of the other groups say. Strict rendering gives
a text exactly if no event tells of an error. -/
structure Template.LogTells (t : Template) (c : Context) : Prop where
  flatten : (groupsIn t.segments (t.log c)).flatten = t.log c
  length : (groupsIn t.segments (t.log c)).length = t.segments.length
  tells : ∀ (i : Nat) s, t.segments[i]? = some s →
    ∃ group, (groupsIn t.segments (t.log c))[i]? = some group ∧
      s.Tells ((Resolver.mk c 0).behind (t.segments.take i)) group
  output : t.renderLossy c =
    some (String.join (List.zipWith Segment.retold t.segments (groupsIn t.segments (t.log c))))
  ok_iff : (∃ text, t.render c = .ok text) ↔ ∀ e, Event.failed e ∉ t.log c

/-- **The log tells what was rendered exactly where no segment breaks off.** Where one does, the
segments in front of it are told as ever, of itself the shifts that are applied before, and nothing
more; and there is no output to tell of. -/
theorem Template.logTells_exact (t : Template) (c : Context) :
    (t.LogTells c ↔ NoneBreaksOff ⟨c, 0⟩ t.segments) ∧
      ∀ before s after, t.segments = before ++ s :: after → NoneBreaksOff ⟨c, 0⟩ before →
        s.BreaksOff ((Resolver.mk c 0).behind before) →
          ∃ (groups : List (List Event)) (p : Located Placeholder)
            (steps : List (Shift × ZonedTime)), groups.length = before.length ∧
            (∀ (i : Nat) u, before[i]? = some u → ∃ group, groups[i]? = some group ∧
              u.Tells ((Resolver.mk c 0).behind (before.take i)) group) ∧
            s = .placeholder p ∧ p.node.Applies ((Resolver.mk c 0).behind before) steps ∧
            t.log c = groups.flatten ++ shiftEvents steps ∧ t.renderLossy c = none ∧
            ∀ text, t.render c ≠ .ok text := by
  refine ⟨⟨fun h => exists_renderAllLossy_eq_some_iff.mp ⟨_, h.output⟩, fun hnone => ?_⟩,
    fun before s after hcut hbefore hbreaks => ?_⟩
  · have hgroups : groupsIn t.segments (t.log c) = logGroups ⟨c, 0⟩ t.segments :=
      groupsIn_logAll hnone
    refine ⟨?_, ?_, ?_, ?_, ?_⟩
    · rw [hgroups]
      exact flatten_logGroups hnone
    · rw [hgroups]
      exact length_logGroups _ _
    · rw [hgroups]
      exact fun i s => tells_logGroups hnone
    · rw [hgroups]
      exact renderAllLossy_eq_join hnone
    · refine exists_renderAll_eq_ok_iff.trans (throughout_hasText_iff.trans ?_)
      rw [and_iff_left hnone]
      exact noneFails_iff_failed_not_mem hnone
  · obtain ⟨p, steps, hs, hsteps, hlog⟩ := hbreaks.log_eq
    have hsome : ¬ NoneBreaksOff ⟨c, 0⟩ t.segments := fun h => h before s after hcut hbreaks
    refine ⟨logGroups ⟨c, 0⟩ before, p, steps, length_logGroups _ _,
      fun i u => tells_logGroups hbefore, hs, hsteps, ?_, renderAllLossy_eq_none hsome,
      fun text htext => ?_⟩
    · rw [Template.log, hcut, logAll_append hbefore, logAll_cons_of_breaksOff hbreaks, hlog,
        flatten_logGroups hbefore]
    · exact hsome (throughout_hasText_iff.mp (exists_renderAll_eq_ok_iff.mp ⟨text, htext⟩)).2

/-- A day behind 24 hours, at the start of the last day of the calendar: there is no text, and the
one event, which tells of the hours, is no error. -/
theorem Template.log_breaksOff_lastMidnight :
    (∀ text, (parse "$\x7b + 24 hours + 1 day\x7d").render
        (Context.ofValues [.time .lastMidnight]) ≠ .ok text) ∧
      (∀ e, Event.failed e ∉ (parse "$\x7b + 24 hours + 1 day\x7d").log
        (Context.ofValues [.time .lastMidnight])) ∧
      ¬ (parse "$\x7b + 24 hours + 1 day\x7d").LogTells
        (Context.ofValues [.time .lastMidnight]) := by
  have hstrict : (parse "$\x7b + 24 hours + 1 day\x7d").render
      (Context.ofValues [.time .lastMidnight]) = .error .brokenOff := by decide +kernel
  have hnone : ∀ text, (parse "$\x7b + 24 hours + 1 day\x7d").render
      (Context.ofValues [.time .lastMidnight]) ≠ .ok text := by
    intro text htext
    rw [hstrict] at htext
    cases htext
  have hlog : ∀ e, Event.failed e ∉ (parse "$\x7b + 24 hours + 1 day\x7d").log
      (Context.ofValues [.time .lastMidnight]) := by
    have hshifts : ((parse "$\x7b + 24 hours + 1 day\x7d").log
        (Context.ofValues [.time .lastMidnight])).all Event.isShifted = true := by decide +kernel
    intro e he
    cases List.all_eq_true.mp hshifts _ he
  exact ⟨hnone, hlog, fun h => (h.ok_iff.mpr hlog).elim fun text htext => hnone text htext⟩

end PathTemplate
