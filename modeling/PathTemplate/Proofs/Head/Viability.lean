/-
# Where a head goes wrong

Some tokens are viable when a head begins with them. The reader gets through
tokens exactly if they are viable: what the grammar derives it reads, and from
every stage there is a way to the end of a head (`isViable_iff`). So a head that
is refused goes wrong at the first token that ends viability, or behind the last
one, and there is one such position (`existsUnique_isFarthest`).

The stage that the reader is at there says what could have come instead. It
takes a space exactly if a space keeps the tokens viable, it may close exactly
if they are a head, and it wants a unit exactly behind the magnitude of a term
(`wantsUnit_iff`). So the error names what the grammar does not allow, and lists
what it does.

Key definitions: `IsAccepted`, `IsViable`, `IsFarthest`, `WantsUnit`, `expectedBehind`, `Blames`.
Key theorems: `run_append_eq`, `isViable_iff`, `isAccepted_iff`, `existsUnique_isFarthest`,
`wantsUnit_iff`, `expected_eq`, `Head.read_blames_farthest`.
-/
import Mathlib
import PathTemplate.Proofs.Placeholder.Grammar

namespace PathTemplate

namespace Head

variable {ts us before : List (Located Token)} {p q : Progress} {t : Located Token}
  {e : SyntaxError}

/-! ### Viable tokens -/

/-- Whether some tokens make up a head. -/
def IsAccepted (ts : List (Located Token)) : Prop := ∃ hd, IsHead ts hd

/-- Whether some tokens can be extended to a head. -/
def IsViable (ts : List (Located Token)) : Prop := ∃ us, IsAccepted (ts ++ us)

theorem IsViable.of_prefix (h : IsViable us) (hts : ts <+: us) : IsViable ts := by
  obtain ⟨more, rfl⟩ := hts
  obtain ⟨vs, h⟩ := h
  exact ⟨more ++ vs, by rwa [← List.append_assoc]⟩

/-- Tokens are read one part after the other. -/
theorem run_append_eq (p : Progress) (ts us : List (Located Token)) :
    p.run (ts ++ us) = p.run ts >>= fun q => q.run us := by
  induction ts generalizing p with
  | nil => rfl
  | cons t ts ih =>
    rw [List.cons_append, Progress.run, Progress.run]
    cases p.step t with
    | error e => rfl
    | ok q => exact ih q

theorem run_concat_eq_ok (h : p.run (ts ++ [t]) = .ok q) :
    ∃ p', p.run ts = .ok p' ∧ Takes p' t q := by
  rw [run_append_eq] at h
  obtain ⟨p', hp, hq⟩ := bind_eq_ok.mp h
  obtain ⟨q', ht, hq⟩ := run_cons_eq_ok hq
  cases hq
  exact ⟨p', hp, ht⟩

/-- Tokens are refused at the first of them that is. -/
theorem run_eq_error_iff : p.run ts = .error e ↔ ∃ before t after q,
    ts = before ++ t :: after ∧ p.run before = .ok q ∧ q.step t = .error e := by
  induction ts generalizing p with
  | nil => simp [Progress.run]
  | cons t ts ih =>
    have hcons : p.run (t :: ts) = p.step t >>= fun q => q.run ts := rfl
    constructor
    · intro h
      rw [hcons] at h
      cases hstep : p.step t with
      | error d =>
        rw [hstep] at h
        cases h
        exact ⟨[], t, ts, p, rfl, rfl, hstep⟩
      | ok p' =>
        rw [hstep] at h
        obtain ⟨before, u, after, q, rfl, hq, hu⟩ := ih.mp h
        exact ⟨t :: before, u, after, q, rfl, ((step_eq_ok hstep).run before).trans hq, hu⟩
    · rintro ⟨before, u, after, q, hcut, hq, hu⟩
      rw [hcut, run_append_eq, hq]
      show q.run (u :: after) = .error e
      rw [Progress.run, hu]
      rfl

/-- A shortest way from a stage to the end of a head. -/
def Stage.completion : Stage → List (Located Token)
  | opening | reference false | term _ false => []
  | reference true => [⟨.plus, 0, 0⟩, ⟨.integer 1, 0, 0⟩, ⟨.identifier "day", 0, 0⟩]
  | signed _ _ _ | term _ true => [⟨.integer 1, 0, 0⟩, ⟨.identifier "day", 0, 0⟩]
  | counted _ _ _ _ => [⟨.identifier "day", 0, 0⟩]

theorem Stage.run_completion (st : Stage) (hd : Head) :
    ∃ q, Progress.run ⟨st, hd⟩ st.completion = .ok q ∧ q.stage.mayClose = true := by
  cases st with
  | opening => exact ⟨_, rfl, rfl⟩
  | reference spaced => cases spaced <;> exact ⟨_, rfl, rfl⟩
  | signed s start spaced => exact ⟨_, rfl, rfl⟩
  | counted s start n spaced => exact ⟨_, rfl, rfl⟩
  | term s spaced => cases spaced <;> exact ⟨_, rfl, rfl⟩

/-- **Tokens are a head exactly if the reader may close behind them.** -/
theorem isAccepted_iff :
    IsAccepted ts ↔ ∃ p, Progress.run {} ts = .ok p ∧ p.stage.mayClose = true := by
  constructor
  · rintro ⟨hd, h⟩
    obtain ⟨st, hrun, hclose⟩ := h.run
    exact ⟨_, hrun, hclose⟩
  · rintro ⟨p, hrun, hclose⟩
    have hread : ofTokens ts 0 = .ok p.head := bind_eq_ok.mpr ⟨p, hrun, if_pos hclose⟩
    exact ⟨p.head, ofTokens_eq_ok_iff.mp hread⟩

/-- **Tokens are viable exactly if the reader gets through them.** -/
theorem isViable_iff : IsViable ts ↔ ∃ p, Progress.run {} ts = .ok p := by
  constructor
  · rintro ⟨us, h⟩
    obtain ⟨q, hrun, -⟩ := isAccepted_iff.mp h
    rw [run_append_eq] at hrun
    obtain ⟨p, hp, -⟩ := bind_eq_ok.mp hrun
    exact ⟨p, hp⟩
  · rintro ⟨p, hrun⟩
    obtain ⟨q, hq, hclose⟩ := p.stage.run_completion p.head
    refine ⟨p.stage.completion, isAccepted_iff.mpr ⟨q, ?_, hclose⟩⟩
    rw [run_append_eq, hrun]
    exact hq

/-- Behind tokens that are read, another keeps them viable exactly if it is taken. -/
theorem isViable_concat_iff (hrun : Progress.run {} before = .ok p) :
    IsViable (before ++ [t]) ↔ ∃ q, p.step t = .ok q := by
  have hstep : Progress.run {} (before ++ [t]) = p.step t := by
    rw [run_append_eq, hrun]
    show p.run [t] = p.step t
    rw [Progress.run]
    cases p.step t <;> rfl
  rw [isViable_iff, hstep]

/-! ### How far tokens are viable -/

/-- Whether the tokens in front of position `i` are viable, and the one there ends that. -/
structure IsFarthest (ts : List (Located Token)) (i : Nat) : Prop where
  le : i ≤ ts.length
  viable : IsViable (ts.take i)
  stuck : ∀ t ∈ ts[i]?, ¬ IsViable (ts.take i ++ [t])

theorem IsFarthest.not_lt {i j : Nat} (hi : IsFarthest ts i) (hj : IsFarthest ts j) : ¬ i < j := by
  intro hlt
  have hlen : i < ts.length := Nat.lt_of_lt_of_le hlt hj.le
  have hprefix : ts.take i ++ [ts[i]] <+: ts.take j := by
    rw [← List.take_succ_eq_append_getElem hlen]
    exact List.take_prefix_take_left hlt
  exact hi.stuck ts[i] (List.getElem?_eq_getElem hlen) (hj.viable.of_prefix hprefix)

theorem IsViable.isFarthest (h : IsViable ts) : IsFarthest ts ts.length :=
  ⟨Nat.le_refl _, by rwa [List.take_length], by simp⟩

theorem isFarthest_of_cut {after : List (Located Token)} (hviable : IsViable before)
    (hstuck : ¬ IsViable (before ++ [t])) : IsFarthest (before ++ t :: after) before.length := by
  refine ⟨by simp, ?_, ?_⟩
  · rwa [List.take_left]
  · rw [List.take_left, List.getElem?_append_right (Nat.le_refl _), Nat.sub_self]
    rintro _ ⟨⟩
    exact hstuck

/-- **Tokens are viable up to one position.** -/
theorem existsUnique_isFarthest (ts : List (Located Token)) : ∃! i, IsFarthest ts i := by
  have hexists : ∃ i, IsFarthest ts i := by
    cases hrun : Progress.run {} ts with
    | ok p => exact ⟨_, (isViable_iff.mpr ⟨p, hrun⟩).isFarthest⟩
    | error e =>
      obtain ⟨before, t, after, q, rfl, hq, ht⟩ := run_eq_error_iff.mp hrun
      refine ⟨_, isFarthest_of_cut (isViable_iff.mpr ⟨q, hq⟩) fun h => ?_⟩
      obtain ⟨q', hq'⟩ := (isViable_concat_iff hq).mp h
      rw [ht] at hq'
      cases hq'
  obtain ⟨i, hi⟩ := hexists
  exact ⟨i, hi, fun j hj => Nat.le_antisymm (Nat.not_lt.mp (hi.not_lt hj))
    (Nat.not_lt.mp (hj.not_lt hi))⟩

/-! ### Where a unit is wanted -/

/-- Whether a unit must follow: an integer stands last, perhaps with a space behind it, where a
term may start. -/
def WantsUnit (before : List (Located Token)) : Prop :=
  ∃ front n a gap, before = front ++ ⟨.integer n, a⟩ :: gap ∧ OptSpace gap ∧
    ∃ term m u span, IsTerm term m u span ∧ IsViable (front ++ term)

/-- An integer is the reference at the opening, and anywhere else a magnitude. -/
theorem stage_of_integer {n : Nat} {a : Span} (h : p.step ⟨.integer n, a⟩ = .ok q) :
    (p.stage = .opening ∧ q.stage = .reference false) ∨
      ∃ s start, q.stage = .counted s start n false := by
  simp only [Progress.step, Progress.number] at h
  split at h
  · next hstage =>
    cases h
    exact .inl ⟨hstage, rfl⟩
  · next s start spaced _ =>
    cases h
    exact .inr ⟨s, start, rfl⟩
  · next s _ =>
    cases h
    exact .inr ⟨s, a.start, rfl⟩
  · cases h

/-- A space that may be left out leads to the same stage, but for the space. -/
theorem stage_of_optSpace {gap : List (Located Token)} (hgap : OptSpace gap)
    (hs : p.stage.takesSpace = true) (h : p.run gap = .ok q) :
    q.stage = p.stage ∨ q.stage = p.stage.afterSpace := by
  rcases hgap.run p.stage p.head hs with hrun | hrun
  · rw [hrun] at h
    cases h
    exact .inl rfl
  · rw [hrun] at h
    cases h
    exact .inr rfl

/-- No term starts a head. -/
theorem stage_ne_opening_of_isTerm {term : List (Located Token)} {m : Nat} {u : TimeUnit}
    {span : Span} (hterm : IsTerm term m u span) (h : p.run term = .ok q) :
    p.stage ≠ .opening := by
  intro hopening
  obtain ⟨m, a, b, hgap, hu⟩ := hterm
  obtain ⟨p₁, hstep, hrest⟩ := bind_eq_ok.mp h
  rw [run_append_eq] at hrest
  obtain ⟨p₂, hp₂, hword⟩ := bind_eq_ok.mp hrest
  obtain ⟨p₃, hword, -⟩ := bind_eq_ok.mp hword
  rcases stage_of_integer hstep with ⟨-, hstage⟩ | ⟨s, start, hstage⟩
  · -- behind a reference comes no word
    have hspaced : ∃ spaced, p₂.stage = .reference spaced := by
      rcases stage_of_optSpace hgap (by rw [hstage]; rfl) hp₂ with h | h
      · exact ⟨false, by rw [h, hstage]⟩
      · exact ⟨true, by rw [h, hstage]; rfl⟩
    obtain ⟨spaced, hspaced⟩ := hspaced
    simp only [Progress.step, Progress.word, hspaced] at hword
    cases hword
  · simp only [Progress.step, Progress.number, hopening] at hstep
    cases hstep
    cases hstage

/-- What has just come to a magnitude ends with its integer. -/
theorem exists_integer_of_counted {s : Sign} {start n : Nat}
    (hrun : Progress.run {} before = .ok p) (hstage : p.stage = .counted s start n false) :
    ∃ front a p', before = front ++ [⟨.integer n, a⟩] ∧ Progress.run {} front = .ok p' ∧
      Takes p' ⟨.integer n, a⟩ p := by
  rcases List.eq_nil_or_concat' before with rfl | ⟨front, t, rfl⟩
  · cases hrun
    cases hstage
  · obtain ⟨p', hp', ht⟩ := run_concat_eq_ok hrun
    cases ht with
    | @space st h a hs => cases st <;> cases hstage
    | sign => cases hstage
    | reference => cases hstage
    | magnitude s start spaced n a =>
      cases hstage
      exact ⟨front, a, _, rfl, hp', .magnitude s start spaced n a⟩
    | laterMagnitude s n a =>
      cases hstage
      exact ⟨front, a, _, rfl, hp', .laterMagnitude s n a⟩
    | unit => cases hstage

/-- What has come to a magnitude with a space ends with that space. -/
theorem exists_space_of_counted {s : Sign} {start n : Nat}
    (hrun : Progress.run {} before = .ok p) (hstage : p.stage = .counted s start n true) :
    ∃ front b p', before = front ++ [⟨.space, b⟩] ∧ Progress.run {} front = .ok p' ∧
      p'.stage = .counted s start n false := by
  rcases List.eq_nil_or_concat' before with rfl | ⟨front, t, rfl⟩
  · cases hrun
    cases hstage
  · obtain ⟨p', hp', ht⟩ := run_concat_eq_ok hrun
    cases ht with
    | @space st h b hs =>
      refine ⟨front, b, _, rfl, hp', ?_⟩
      cases st with
      | counted s start n spaced =>
        cases hstage
        cases spaced with
        | false => rfl
        | true => cases hs
      | opening | reference | signed | term => cases hstage
    | sign => cases hstage
    | reference => cases hstage
    | magnitude => cases hstage
    | laterMagnitude => cases hstage
    | unit => cases hstage

theorem wantsUnit_of_takes {front gap : List (Located Token)} {p' : Progress} {s : Sign}
    {start n : Nat} {a : Span} (hgap : OptSpace gap) (hrun : Progress.run {} front = .ok p')
    (ht : Takes p' ⟨.integer n, a⟩ p) (hstage : p.stage = .counted s start n false) :
    WantsUnit (front ++ ⟨.integer n, a⟩ :: gap) := by
  have hday : TimeUnit.IsNamed .day "day" := .inl rfl
  refine ⟨front, n, a, gap, rfl, hgap, _, n, .day, _, .mk n a a .absent hday, ?_⟩
  obtain ⟨st, hd⟩ := p
  obtain rfl : st = .counted s start n false := hstage
  have hterm : p'.run [⟨.integer n, a⟩, ⟨.identifier "day", a⟩] = .ok _ :=
    (ht.run _).trans ((Takes.unit s start n false a hday).run [])
  rw [isViable_iff, run_append_eq, hrun]
  exact ⟨_, hterm⟩

/-- **A unit is wanted exactly behind the magnitude of a term.** -/
theorem wantsUnit_iff (hrun : Progress.run {} before = .ok p) :
    WantsUnit before ↔ ∃ s start n spaced, p.stage = .counted s start n spaced := by
  constructor
  · rintro ⟨front, n, a, gap, rfl, hgap, term, m, u, span, hterm, hviable⟩
    rw [run_append_eq] at hrun
    obtain ⟨p', hp', hrest⟩ := bind_eq_ok.mp hrun
    obtain ⟨p₁, hstep, hrest⟩ := bind_eq_ok.mp hrest
    have hne : p'.stage ≠ .opening := by
      obtain ⟨q, hq⟩ := isViable_iff.mp hviable
      rw [run_append_eq, hp'] at hq
      exact stage_ne_opening_of_isTerm hterm hq
    rcases stage_of_integer hstep with ⟨hopening, -⟩ | ⟨s, start, hstage⟩
    · exact absurd hopening hne
    · rcases stage_of_optSpace hgap (by rw [hstage]; rfl) hrest with h | h
      · exact ⟨s, start, n, false, by rw [h, hstage]⟩
      · exact ⟨s, start, n, true, by rw [h, hstage]; rfl⟩
  · rintro ⟨s, start, n, spaced, hstage⟩
    cases spaced with
    | false =>
      obtain ⟨front, a, p', rfl, hp', ht⟩ := exists_integer_of_counted hrun hstage
      exact wantsUnit_of_takes .absent hp' ht hstage
    | true =>
      -- a space stands last, and the integer in front of it
      obtain ⟨front, b, p', rfl, hp', hstage⟩ := exists_space_of_counted hrun hstage
      obtain ⟨front, a, p'', rfl, hp'', ht⟩ := exists_integer_of_counted hp' hstage
      rw [List.append_assoc]
      exact wantsUnit_of_takes (.present b) hp'' ht hstage

/-! ### What the error says -/

open Classical in
/-- What a message lists as expected behind some tokens: a space if it keeps them viable, and the
end of the placeholder if they are a head. -/
noncomputable def expectedBehind (before : List (Located Token)) : List String :=
  (if ∃ a, IsViable (before ++ [⟨.space, a⟩]) then ["whitespace"] else []) ++
    if IsAccepted before then ["end of placeholder"] else []

/-- What the error of a head says that goes wrong behind the tokens `before`, at the token that
comes next, or where none does at the end of the head, which is byte `stop`. -/
inductive Blames (before : List (Located Token)) (stop : Nat) :
    Option (Located Token) → SyntaxError → Prop
  /-- The head ends too early. -/
  | atEnd {d} (hspan : d.span = ⟨stop, stop⟩)
    (htext : d.fault.text = "Unexpected end of placeholder")
    (hexpected : d.fault.expected = expectedBehind before) : Blames before stop none d
  /-- A word stands for a unit and names none. -/
  | unknownUnit {next w d} (hunit : WantsUnit before) (hword : next.node = .identifier w)
    (hspan : d.span = next.span) (htext : d.fault.text = "Unknown time unit '" ++ w ++ "'")
    (hexpected : d.fault.expected = []) : Blames before stop (some next) d
  /-- The token cannot come there. -/
  | unexpected {next d} (hunit : ∀ w, next.node = .identifier w → ¬ WantsUnit before)
    (hspan : d.span = next.span) (htext : d.fault.text = "Unexpected " ++ next.node.shown)
    (hexpected : d.fault.expected = expectedBehind before) : Blames before stop (some next) d

/-- **The stage says what may come next.** -/
theorem expected_eq (hrun : Progress.run {} before = .ok p) :
    p.stage.expected.map Expectation.shown = expectedBehind before := by
  have hspace : (∃ a, IsViable (before ++ [⟨.space, a⟩])) ↔ p.stage.takesSpace = true := by
    simp only [isViable_concat_iff hrun, Progress.step]
    cases p.stage.takesSpace with
    | false => simp
    | true => exact ⟨fun _ => rfl, fun _ => ⟨⟨0, 0⟩, _, rfl⟩⟩
  have hclose : IsAccepted before ↔ p.stage.mayClose = true := by
    rw [isAccepted_iff, hrun]
    simp
  rw [Stage.expected, expectedBehind]
  simp only [hspace, hclose]
  cases p.stage.takesSpace <;> cases p.stage.mayClose <;> rfl

/-- A token that is refused is blamed. -/
theorem Refuses.blames {stop : Nat} (h : Refuses p t e) (hrun : Progress.run {} before = .ok p) :
    Blames before stop (some t) e := by
  cases h with
  | unknownUnit s start n spaced a =>
    exact .unknownUnit ((wantsUnit_iff hrun).mpr ⟨s, start, n, spaced, rfl⟩) rfl rfl rfl rfl
  | unexpected hunit =>
    refine .unexpected (fun w hw hwants => ?_) rfl rfl (expected_eq hrun)
    obtain ⟨s, start, n, spaced, hstage⟩ := (wantsUnit_iff hrun).mp hwants
    exact hunit w hw s start n spaced hstage

/-- A head that is refused is blamed for what stands where its tokens stop being viable. -/
theorem exists_blames_of_ofTokens {stop : Nat} (h : ofTokens ts stop = .error e) :
    ∃ i, IsFarthest ts i ∧ Blames (ts.take i) stop ts[i]? e := by
  rw [ofTokens] at h
  cases hrun : Progress.run {} ts with
  | ok p =>
    rw [hrun] at h
    have h : p.close stop = .error e := h
    rw [Progress.close] at h
    split at h
    · cases h
    · cases h
      refine ⟨_, (isViable_iff.mpr ⟨p, hrun⟩).isFarthest, ?_⟩
      rw [List.take_length, List.getElem?_length]
      exact .atEnd rfl rfl (expected_eq hrun)
  | error d =>
    rw [hrun] at h
    cases h
    obtain ⟨before, t, after, q, rfl, hq, ht⟩ := run_eq_error_iff.mp hrun
    have hstuck : ¬ IsViable (before ++ [t]) := fun hviable => by
      obtain ⟨q', hq'⟩ := (isViable_concat_iff hq).mp hviable
      rw [ht] at hq'
      cases hq'
    refine ⟨_, isFarthest_of_cut (isViable_iff.mpr ⟨q, hq⟩) hstuck, ?_⟩
    rw [List.take_left, List.getElem?_append_right (Nat.le_refl _), Nat.sub_self]
    exact (step_eq_error ht).blames hq

theorem read_eq_ofTokens {cs : List Char} {offset : Nat} (h : LexesTo cs offset ts) :
    Head.read cs offset = ofTokens ts (offset + utf8Width cs) := by
  rw [Head.read, tokens_eq_ok_iff.mpr h]
  rfl

end Head

open Text

/-- **A head goes wrong where its tokens stop being viable.** If a text is cut into tokens that are
no head, its error is at the one position up to which they are viable: at the token there, or at
the end of the text if all of them are. It names that token, or an unknown unit if a word stands
there where a unit must, and lists a space and the end of the placeholder as expected exactly if
the grammar allows them there. The placeholder of the head has the same error. -/
theorem Head.read_blames_farthest :
    (∀ cs offset ts, LexesTo cs offset ts → ¬ IsAccepted ts →
      ∃ e, Head.read cs offset = .error e ∧ (∃! i, IsFarthest ts i) ∧
        ∀ i, IsFarthest ts i → Blames (ts.take i) (offset + utf8Width cs) ts[i]? e) ∧
      ∀ interior offset span front back, Placeholder.IsCut (trim interior) front back →
        ∀ e, Head.read (trimEnd front) (Placeholder.trimmedSpan interior offset).start = .error e →
          Placeholder.read interior offset span = .error e := by
  refine ⟨fun cs offset ts hlex hrejected => ?_, fun interior offset span front back hcut e h => ?_⟩
  · rw [read_eq_ofTokens hlex]
    cases h : ofTokens ts (offset + utf8Width cs) with
    | ok hd => exact absurd ⟨hd, ofTokens_eq_ok_iff.mp h⟩ hrejected
    | error e =>
      obtain ⟨i, hi, hblames⟩ := exists_blames_of_ofTokens h
      refine ⟨e, rfl, existsUnique_isFarthest ts, fun j hj => ?_⟩
      rwa [(existsUnique_isFarthest ts).unique hj hi]
  · obtain ⟨rfl, -⟩ := Placeholder.isCut_iff.mp hcut
    have h : Head.read (trimEnd ((trim interior).takeWhile (· ≠ '|')))
        (offset + utf8Width (leadingBlanks interior)) = .error e := h
    rw [Placeholder.read, h]
    rfl

/-- No space stands between a reference and its shift. -/
theorem Head.read_blames_farthest_plus :
    ∃ ts e, LexesTo "d+1 day".toList 2 ts ∧ ¬ IsAccepted ts ∧
      Head.read "d+1 day".toList 2 = .error e ∧ e.fault.text = "Unexpected '+'" ∧
      e.fault.expected = ["whitespace", "end of placeholder"] ∧ e.span = ⟨3, 4⟩ ∧
      (∃! i, IsFarthest ts i) ∧ (∀ i, IsFarthest ts i → Blames (ts.take i) 9 ts[i]? e) ∧
      Placeholder.read " d+1 day |%Y".toList 1 ⟨0, 13⟩ = .error e := by
  have hread : Head.read "d+1 day".toList 2 =
      .error ⟨.unexpected (some .plus) [.space, .closing], 3, 4⟩ := by decide +kernel
  have hreadings : (lexemes "d+1 day".toList).map Lexeme.reading =
      [Token.identifier "d", .plus, .integer 1, .space, .identifier "day"].map .ok := by
    decide +kernel
  obtain ⟨ts, hlex, -⟩ := exists_lexesTo hreadings 2
  have hrejected : ¬ IsAccepted ts := by
    rintro ⟨hd, h⟩
    rw [read_eq_ofTokens hlex, h.ofTokens_eq] at hread
    cases hread
  obtain ⟨e, he, hunique, hblames⟩ := read_blames_farthest.1 _ _ _ hlex hrejected
  have hcut : Placeholder.IsCut (trim " d+1 day |%Y".toList) "d+1 day ".toList
      (some "%Y".toList) := @Placeholder.IsCut.atBar "d+1 day ".toList "%Y".toList (by decide)
  rw [hread] at he
  cases he
  exact ⟨ts, _, hlex, hrejected, hread, by decide, by decide, rfl, hunique, hblames,
    read_blames_farthest.2 _ _ _ _ _ hcut _ hread⟩

end PathTemplate
