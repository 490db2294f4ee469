/-
# The grammar of a placeholder head

The grammar that `Head` names, as relations between located tokens and what
they say:

    head      = nothing | reference | reference space shifts | shifts
    reference = identifier | integer
    shifts    = sign term (space [sign] term)*
    sign      = ('+' | '-') [space]
    term      = integer [space] unit

`Head.ofTokens` reads a token list exactly when the grammar derives it, and
then gives what the derivation says, places included (`ofTokens_eq_ok_iff`).

One direction runs the stages over a derivation, nonterminal by nonterminal
(`IsTerm.run`, `AreLaterTerms.run`, `AreShifts.run`). The other goes through
`Stage.Ends`, what may still follow at a stage: a token that a stage takes can
be put in front of what the next stage ends with (`Takes.ends`).

Key definitions: `IsHead`, `AreShifts`, `AreLaterTerms`, `Takes`, `Stage.Ends`.
Key theorems: `step_eq_ok`, `step_eq_error`, `ofTokens_eq_ok_iff`.
-/
import PathTemplate.Head
import PathTemplate.Proofs.Outcome

namespace PathTemplate

/-- A word names a unit in the singular or in the plural. -/
def TimeUnit.IsNamed (u : TimeUnit) (w : String) : Prop := w = u.word ∨ w = u.word ++ "s"

theorem TimeUnit.ofWord_eq_some_iff {w : String} {u : TimeUnit} :
    ofWord w = some u ↔ u.IsNamed w := by
  constructor
  · intro h
    simpa [IsNamed] using List.find?_some h
  · rintro (rfl | rfl)
    · exact ofWord_word u
    · exact ofWord_plural u

/-- The token that writes a sign. -/
def Sign.token : Sign → Token
  | plus => .plus
  | minus => .minus

namespace Head

/-! ### Derivations -/

/-- A space that may be left out. -/
inductive OptSpace : List (Located Token) → Prop
  | absent : OptSpace []
  | present (a : Span) : OptSpace [⟨.space, a⟩]

/-- `reference = identifier | integer` -/
inductive IsReference : List (Located Token) → Located Reference → Prop
  | named (w : String) (a : Span) : IsReference [⟨.identifier w, a⟩] ⟨.named w, a⟩
  | indexed (n : Nat) (a : Span) : IsReference [⟨.integer n, a⟩] ⟨.indexed n, a⟩

/-- `sign = ('+' | '-') [space]`, with the byte that it starts at. -/
inductive IsSign : List (Located Token) → Sign → Nat → Prop
  | mk {sp} (s : Sign) (a : Span) (h : OptSpace sp) : IsSign (⟨s.token, a⟩ :: sp) s a.start

/-- `term = integer [space] unit`, with its place. -/
inductive IsTerm : List (Located Token) → Nat → TimeUnit → Span → Prop
  | mk {sp w u} (n : Nat) (a b : Span) (h : OptSpace sp) (hu : TimeUnit.IsNamed u w) :
    IsTerm (⟨.integer n, a⟩ :: (sp ++ [⟨.identifier w, b⟩])) n u (a.through b)

/-- `(space [sign] term)*`, where `s` is the sign before: a term without a sign takes it. -/
inductive AreLaterTerms : Sign → List (Located Token) → List (Located Shift) → Prop
  | none (s : Sign) : AreLaterTerms s [] []
  | unsigned {s ts n u span us ls} (a : Span) (ht : IsTerm ts n u span)
    (hl : AreLaterTerms s us ls) :
    AreLaterTerms s (⟨.space, a⟩ :: (ts ++ us)) (⟨⟨s, n, u⟩, span⟩ :: ls)
  | signed {s gs s' start ts n u span us ls} (a : Span) (hg : IsSign gs s' start)
    (ht : IsTerm ts n u span) (hl : AreLaterTerms s' us ls) :
    AreLaterTerms s (⟨.space, a⟩ :: (gs ++ ts ++ us)) (⟨⟨s', n, u⟩, start, span.stop⟩ :: ls)

/-- `shifts = sign term (space [sign] term)*` -/
inductive AreShifts : List (Located Token) → List (Located Shift) → Prop
  | mk {gs s start ts n u span us ls} (hg : IsSign gs s start) (ht : IsTerm ts n u span)
    (hl : AreLaterTerms s us ls) :
    AreShifts (gs ++ ts ++ us) (⟨⟨s, n, u⟩, start, span.stop⟩ :: ls)

/-- `head = nothing | reference | reference space shifts | shifts` -/
inductive IsHead : List (Located Token) → Head → Prop
  | empty : IsHead [] {}
  | reference {ts r} (hr : IsReference ts r) : IsHead ts ⟨some r, []⟩
  | shifted {ts r us ls} (a : Span) (hr : IsReference ts r) (hs : AreShifts us ls) :
    IsHead (ts ++ ⟨.space, a⟩ :: us) ⟨some r, ls⟩
  | shifts {ts ls} (hs : AreShifts ts ls) : IsHead ts ⟨none, ls⟩

/-! ### What a step can do -/

/-- The head with one more shift read. -/
def addShifts (h : Head) (ls : List (Located Shift)) : Head := { h with shifts := h.shifts ++ ls }

@[simp] theorem addShifts_nil (h : Head) : h.addShifts [] = h := by simp [addShifts]

@[simp] theorem addShifts_addShifts (h : Head) (ls ms : List (Located Shift)) :
    (h.addShifts ls).addShifts ms = h.addShifts (ls ++ ms) := by simp [addShifts]

/-- The tokens that a stage takes, and what it becomes. -/
inductive Takes : Progress → Located Token → Progress → Prop
  | space {st h} (a : Span) (hs : st.takesSpace = true) :
    Takes ⟨st, h⟩ ⟨.space, a⟩ ⟨st.afterSpace, h⟩
  | sign {st h} (s : Sign) (a : Span) (hs : st.takesSign = true) :
    Takes ⟨st, h⟩ ⟨s.token, a⟩ ⟨.signed s a.start false, h⟩
  | reference {h t r} (hr : IsReference [t] r) :
    Takes ⟨.opening, h⟩ t ⟨.reference false, { h with reference := some r }⟩
  | magnitude {h} (s : Sign) (start : Nat) (spaced : Bool) (n : Nat) (a : Span) :
    Takes ⟨.signed s start spaced, h⟩ ⟨.integer n, a⟩ ⟨.counted s start n false, h⟩
  | laterMagnitude {h} (s : Sign) (n : Nat) (a : Span) :
    Takes ⟨.term s true, h⟩ ⟨.integer n, a⟩ ⟨.counted s a.start n false, h⟩
  | unit {h u w} (s : Sign) (start n : Nat) (spaced : Bool) (a : Span) (hu : TimeUnit.IsNamed u w) :
    Takes ⟨.counted s start n spaced, h⟩ ⟨.identifier w, a⟩
      ⟨.term s false, h.addShifts [⟨⟨s, n, u⟩, start, a.stop⟩]⟩

theorem step_eq_ok {p q : Progress} {t : Located Token} (h : p.step t = .ok q) : Takes p t q := by
  obtain ⟨st, hd⟩ := p
  obtain ⟨node, a⟩ := t
  cases node with
  | space =>
    simp only [Progress.step] at h
    split at h
    · next hs => cases h; exact .space a hs
    · cases h
  | plus =>
    simp only [Progress.step, Progress.sign] at h
    split at h
    · next hs => cases h; exact .sign .plus a hs
    · cases h
  | minus =>
    simp only [Progress.step, Progress.sign] at h
    split at h
    · next hs => cases h; exact .sign .minus a hs
    · cases h
  | integer n =>
    simp only [Progress.step, Progress.number] at h
    split at h
    · cases h; exact .reference (.indexed n a)
    · cases h; exact .magnitude _ _ _ n a
    · cases h; exact .laterMagnitude _ n a
    · cases h
  | identifier w =>
    simp only [Progress.step, Progress.word] at h
    split at h
    · cases h; exact .reference (.named w a)
    · split at h
      · next hu => cases h; exact .unit _ _ _ _ a (TimeUnit.ofWord_eq_some_iff.mp hu)
      · cases h
    · cases h

theorem Takes.step_eq {p q : Progress} {t : Located Token} (h : Takes p t q) : p.step t = .ok q := by
  cases h with
  | space a hs => simp [Progress.step, hs]
  | sign s a hs => cases s <;> simp [Sign.token, Progress.step, Progress.sign, hs]
  | reference hr => cases hr <;> rfl
  | magnitude => rfl
  | laterMagnitude => rfl
  | unit s start n spaced a hu =>
    simp [Progress.step, Progress.word, TimeUnit.ofWord_eq_some_iff.mpr hu, addShifts]

/-- Nothing leads back to the opening. -/
theorem Takes.stage_ne_opening {p q : Progress} {t : Located Token} (h : Takes p t q) :
    q.stage ≠ .opening := by
  cases h with
  | @space st _ _ hs =>
    cases st with
    | opening => cases hs
    | _ => nofun
  | _ => nofun

/-- What a stage refuses: behind a magnitude a word that names no unit, and elsewhere a token that
cannot come next. -/
inductive Refuses : Progress → Located Token → SyntaxError → Prop
  | unknownUnit {h w} (s : Sign) (start n : Nat) (spaced : Bool) (a : Span) :
    Refuses ⟨.counted s start n spaced, h⟩ ⟨.identifier w, a⟩ ⟨.unknownUnit w, a⟩
  | unexpected {p t} (hunit : ∀ w, t.node = .identifier w →
    ∀ s start n spaced, p.stage ≠ .counted s start n spaced) : Refuses p t (p.unexpected t)

theorem step_eq_error {p : Progress} {t : Located Token} {e : SyntaxError}
    (h : p.step t = .error e) : Refuses p t e := by
  have hsign : ∀ s, p.sign s t = .error e → e = p.unexpected t := by
    intro s h
    rw [Progress.sign] at h
    split at h <;> cases h
    rfl
  obtain ⟨node, a⟩ := t
  cases node with
  | space =>
    simp only [Progress.step] at h
    split at h <;> cases h
    exact .unexpected nofun
  | plus => exact hsign .plus h ▸ .unexpected nofun
  | minus => exact hsign .minus h ▸ .unexpected nofun
  | integer n =>
    simp only [Progress.step, Progress.number] at h
    split at h <;> cases h
    exact .unexpected nofun
  | identifier w =>
    obtain ⟨st, hd⟩ := p
    simp only [Progress.step, Progress.word] at h
    split at h
    · cases h
    · split at h <;> cases h
      exact .unknownUnit _ _ _ _ a
    · next hcounted =>
      cases h
      exact .unexpected fun _ _ s start n spaced => hcounted s start n spaced

/-! ### Reading a derivation -/

theorem run_nil (p : Progress) : p.run [] = .ok p := rfl

theorem Takes.run {p q : Progress} {t : Located Token} (h : Takes p t q)
    (ts : List (Located Token)) : p.run (t :: ts) = q.run ts := by
  rw [Progress.run, h.step_eq]
  rfl

theorem run_cons_eq_ok {p q : Progress} {t : Located Token} {ts : List (Located Token)}
    (h : p.run (t :: ts) = .ok q) : ∃ p', Takes p t p' ∧ p'.run ts = .ok q := by
  obtain ⟨p', hs, hr⟩ := bind_eq_ok.mp h
  exact ⟨p', step_eq_ok hs, hr⟩

theorem run_append (us : List (Located Token)) : ∀ (ts : List (Located Token)) (p q : Progress),
    p.run ts = .ok q → p.run (ts ++ us) = q.run us
  | [], p, q, h => by
    cases h
    rfl
  | t :: ts, p, q, h => by
    obtain ⟨p', ht, hr⟩ := run_cons_eq_ok h
    rw [List.cons_append, ht.run]
    exact run_append us ts p' q hr

/-- A space that may be left out leads from a stage to itself, perhaps with the space read. -/
theorem OptSpace.run {sp : List (Located Token)} (h : OptSpace sp) (st : Stage) (hd : Head)
    (hs : st.takesSpace = true) :
    Progress.run ⟨st, hd⟩ sp = .ok ⟨st, hd⟩ ∨ Progress.run ⟨st, hd⟩ sp = .ok ⟨st.afterSpace, hd⟩ := by
  cases h with
  | absent => exact .inl rfl
  | present a => exact .inr ((Takes.space a hs).run [])

theorem IsSign.run {gs : List (Located Token)} {s : Sign} {start : Nat} (h : IsSign gs s start)
    {st : Stage} (hd : Head) (hs : st.takesSign = true) :
    ∃ spaced, Progress.run ⟨st, hd⟩ gs = .ok ⟨.signed s start spaced, hd⟩ := by
  obtain ⟨s, a, hsp⟩ := h
  rw [(Takes.sign s a hs).run]
  rcases hsp.run (.signed s a.start false) hd rfl with h | h
  · exact ⟨false, h⟩
  · exact ⟨true, h⟩

/-- A term that starts where its magnitude is taken ends as a whole term. -/
theorem IsTerm.run {ts : List (Located Token)} {n : Nat} {u : TimeUnit} {span : Span}
    (h : IsTerm ts n u span) {st : Stage} {hd : Head} {s : Sign} {start : Nat}
    (hm : ∀ a, a.start = span.start → Takes ⟨st, hd⟩ ⟨.integer n, a⟩ ⟨.counted s start n false, hd⟩) :
    Progress.run ⟨st, hd⟩ ts = .ok ⟨.term s false, hd.addShifts [⟨⟨s, n, u⟩, start, span.stop⟩]⟩ := by
  obtain ⟨n, a, b, hsp, hu⟩ := h
  rw [(hm a rfl).run]
  rcases hsp.run (.counted s start n false) hd rfl with h | h
  all_goals
    rw [run_append _ _ _ _ h]
    exact (Takes.unit s start n _ b hu).run []

theorem run_signedTerm {gs ts : List (Located Token)} {s : Sign} {start n : Nat} {u : TimeUnit}
    {span : Span} (hg : IsSign gs s start) (ht : IsTerm ts n u span) {st : Stage} (hd : Head)
    (hs : st.takesSign = true) :
    Progress.run ⟨st, hd⟩ (gs ++ ts) =
      .ok ⟨.term s false, hd.addShifts [⟨⟨s, n, u⟩, start, span.stop⟩]⟩ := by
  obtain ⟨spaced, hg⟩ := hg.run hd hs
  rw [run_append _ _ _ _ hg]
  exact ht.run fun a _ => .magnitude s start spaced n a

theorem AreLaterTerms.run {s : Sign} {ts : List (Located Token)} {ls : List (Located Shift)}
    (h : AreLaterTerms s ts ls) (hd : Head) :
    ∃ s', Progress.run ⟨.term s false, hd⟩ ts = .ok ⟨.term s' false, hd.addShifts ls⟩ := by
  induction h generalizing hd with
  | none s => exact ⟨s, by simp [run_nil]⟩
  | @unsigned s ts n u span us ls a ht _ ih =>
    obtain ⟨s', ih⟩ := ih (hd.addShifts [⟨⟨s, n, u⟩, span⟩])
    have ht : Progress.run ⟨.term s true, hd⟩ ts =
        .ok ⟨.term s false, hd.addShifts [⟨⟨s, n, u⟩, span⟩]⟩ :=
      ht.run fun b hb => hb ▸ .laterMagnitude s n b
    refine ⟨s', ?_⟩
    calc Progress.run ⟨.term s false, hd⟩ (⟨.space, a⟩ :: (ts ++ us))
      _ = Progress.run ⟨.term s true, hd⟩ (ts ++ us) := (Takes.space a rfl).run _
      _ = Progress.run ⟨.term s false, hd.addShifts [⟨⟨s, n, u⟩, span⟩]⟩ us := run_append _ _ _ _ ht
      _ = .ok ⟨.term s' false, hd.addShifts (⟨⟨s, n, u⟩, span⟩ :: ls)⟩ := by
        rw [ih, addShifts_addShifts]; rfl
  | @signed s gs s₁ start ts n u span us ls a hg ht _ ih =>
    obtain ⟨s', ih⟩ := ih (hd.addShifts [⟨⟨s₁, n, u⟩, start, span.stop⟩])
    refine ⟨s', ?_⟩
    calc Progress.run ⟨.term s false, hd⟩ (⟨.space, a⟩ :: (gs ++ ts ++ us))
      _ = Progress.run ⟨.term s true, hd⟩ (gs ++ ts ++ us) := (Takes.space a rfl).run _
      _ = Progress.run ⟨.term s₁ false, hd.addShifts [⟨⟨s₁, n, u⟩, start, span.stop⟩]⟩ us :=
        run_append _ _ _ _ (run_signedTerm hg ht hd rfl)
      _ = .ok ⟨.term s' false, hd.addShifts (⟨⟨s₁, n, u⟩, start, span.stop⟩ :: ls)⟩ := by
        rw [ih, addShifts_addShifts]; rfl

theorem AreShifts.run {ts : List (Located Token)} {ls : List (Located Shift)}
    (h : AreShifts ts ls) (st : Stage) (hd : Head) (hs : st.takesSign = true) :
    ∃ s, Progress.run ⟨st, hd⟩ ts = .ok ⟨.term s false, hd.addShifts ls⟩ := by
  obtain ⟨hg, ht, hl⟩ := h
  obtain ⟨s, hl⟩ := hl.run (hd.addShifts _)
  rw [addShifts_addShifts] at hl
  exact ⟨s, (run_append _ _ _ _ (run_signedTerm hg ht hd hs)).trans hl⟩

/-- A derivation leads to a stage that may close, with the head that it says. -/
theorem IsHead.run {ts : List (Located Token)} {hd : Head} (h : IsHead ts hd) :
    ∃ st, Progress.run {} ts = .ok ⟨st, hd⟩ ∧ st.mayClose = true := by
  cases h with
  | empty => exact ⟨.opening, rfl, rfl⟩
  | reference hr => cases hr <;> exact ⟨.reference false, rfl, rfl⟩
  | shifted a hr hs =>
    rename_i r us ls
    obtain ⟨s, hs⟩ := hs.run (.reference true) ⟨some r, []⟩ rfl
    cases hr <;> exact ⟨.term s false, hs, rfl⟩
  | shifts hs =>
    obtain ⟨s, hs⟩ := hs.run .opening {} rfl
    exact ⟨.term s false, hs, rfl⟩

theorem IsHead.ofTokens_eq {ts : List (Located Token)} {hd : Head} (h : IsHead ts hd) (stop : Nat) :
    ofTokens ts stop = .ok hd := by
  obtain ⟨st, hr, hc⟩ := h.run
  simp [ofTokens, hr, Progress.close, hc, bind, Except.bind]

/-! ### Deriving what was read -/

/-- What may still follow at a stage, and the shifts that it adds to the head. -/
inductive Stage.Ends : Stage → List (Located Token) → List (Located Shift) → Prop
  | space {st ts ls} (a : Span) (hs : st.takesSpace = true) (h : Ends st.afterSpace ts ls) :
    Ends st (⟨.space, a⟩ :: ts) ls
  | reference : Ends (.reference false) [] []
  | shifts {ts ls} (h : AreShifts ts ls) : Ends (.reference true) ts ls
  | signed {ts n u span us ls} (s : Sign) (start : Nat) (spaced : Bool) (ht : IsTerm ts n u span)
    (hl : AreLaterTerms s us ls) :
    Ends (.signed s start spaced) (ts ++ us) (⟨⟨s, n, u⟩, start, span.stop⟩ :: ls)
  | counted {u w us ls} (s : Sign) (start n : Nat) (spaced : Bool) (a : Span)
    (hu : TimeUnit.IsNamed u w) (hl : AreLaterTerms s us ls) :
    Ends (.counted s start n spaced) (⟨.identifier w, a⟩ :: us) (⟨⟨s, n, u⟩, start, a.stop⟩ :: ls)
  | term {s ts ls} (h : AreLaterTerms s ts ls) : Ends (.term s false) ts ls
  | later {s ts ls} (h : ∀ a, AreLaterTerms s (⟨.space, a⟩ :: ts) ls) : Ends (.term s true) ts ls

/-- Behind a magnitude comes the rest of a term, and later terms. -/
theorem ends_counted {s : Sign} {start n : Nat} {ts : List (Located Token)}
    {ls : List (Located Shift)} (h : (Stage.counted s start n false).Ends ts ls) (a : Span) :
    ∃ us vs u span ms, ts = us ++ vs ∧ IsTerm (⟨.integer n, a⟩ :: us) n u span ∧
      span.start = a.start ∧ AreLaterTerms s vs ms ∧ ls = ⟨⟨s, n, u⟩, start, span.stop⟩ :: ms := by
  cases h with
  | space b _ h =>
    cases h with
    | space _ hs => cases hs
    | counted _ _ _ _ c hu hl =>
      exact ⟨_, _, _, _, _, rfl, .mk n a c (.present b) hu, rfl, hl, rfl⟩
  | counted _ _ _ _ c hu hl => exact ⟨_, _, _, _, _, rfl, .mk n a c .absent hu, rfl, hl, rfl⟩

/-- Behind a sign comes a term, and later terms. -/
theorem ends_signed {s : Sign} {start : Nat} {ts : List (Located Token)}
    {ls : List (Located Shift)} (h : (Stage.signed s start false).Ends ts ls) (a : Span)
    (ha : a.start = start) :
    ∃ gs us vs n u span ms, ⟨s.token, a⟩ :: ts = gs ++ us ++ vs ∧ IsSign gs s start ∧
      IsTerm us n u span ∧ AreLaterTerms s vs ms ∧ ls = ⟨⟨s, n, u⟩, start, span.stop⟩ :: ms := by
  subst ha
  cases h with
  | space b _ h =>
    cases h with
    | space _ hs => cases hs
    | signed _ _ _ ht hl => exact ⟨_, _, _, _, _, _, _, rfl, .mk s a (.present b), ht, hl, rfl⟩
  | signed _ _ _ ht hl => exact ⟨_, _, _, _, _, _, _, rfl, .mk s a .absent, ht, hl, rfl⟩

/-- A token that a stage behind the opening takes can be put in front of what the next stage
ends with. -/
theorem Takes.ends {p q : Progress} {t : Located Token} (h : Takes p t q)
    (hp : p.stage ≠ .opening) {ts : List (Located Token)} {ls : List (Located Shift)}
    (he : q.stage.Ends ts ls) :
    ∃ ms, p.stage.Ends (t :: ts) ms ∧ q.head.addShifts ls = p.head.addShifts ms := by
  cases h with
  | space a hs => exact ⟨ls, .space a hs he, rfl⟩
  | @sign st hd s a hs =>
    obtain ⟨gs, us, vs, n, u, span, ms, e, hg, ht, hl, rfl⟩ := ends_signed he a rfl
    refine ⟨_, ?_, rfl⟩
    rw [e]
    cases st with
    | opening => exact absurd rfl hp
    | reference spaced => cases hs; exact .shifts ⟨hg, ht, hl⟩
    | term s' spaced => cases hs; exact .later fun b => .signed b hg ht hl
    | signed => cases hs
    | counted => cases hs
  | reference => exact absurd rfl hp
  | magnitude s start spaced n a =>
    obtain ⟨us, vs, u, span, ms, rfl, ht, -, hl, rfl⟩ := ends_counted he a
    exact ⟨_, .signed s start spaced ht hl, rfl⟩
  | laterMagnitude s n a =>
    obtain ⟨us, vs, u, span, ms, rfl, ht, hspan, hl, rfl⟩ := ends_counted he a
    refine ⟨_, .later fun b => .unsigned b ht hl, ?_⟩
    rw [← hspan]
  | unit s start n spaced a hu =>
    cases he with
    | space b _ h =>
      cases h with
      | space _ hs => cases hs
      | later hl => exact ⟨_, .counted s start n spaced a hu (hl b), addShifts_addShifts ..⟩
    | term hl => exact ⟨_, .counted s start n spaced a hu hl, addShifts_addShifts ..⟩

/-- A run that closes, from a stage behind the opening, reads what that stage ends with. -/
theorem ends_of_run {stop : Nat} {hd : Head} : ∀ (ts : List (Located Token)) {p q : Progress},
    p.stage ≠ .opening → p.run ts = .ok q → q.close stop = .ok hd →
      ∃ ls, p.stage.Ends ts ls ∧ hd = p.head.addShifts ls
  | [], p, q, hp, hr, hc => by
    cases hr
    unfold Progress.close at hc
    split at hc
    · next hm =>
      cases hc
      obtain ⟨st, hd⟩ := p
      refine ⟨[], ?_, (addShifts_nil _).symm⟩
      cases st with
      | opening => exact absurd rfl hp
      | reference spaced => cases spaced <;> cases hm; exact .reference
      | term s spaced => cases spaced <;> cases hm; exact .term (.none s)
      | signed => cases hm
      | counted => cases hm
    · cases hc
  | t :: ts, p, q, hp, hr, hc => by
    obtain ⟨p', ht, hr⟩ := run_cons_eq_ok hr
    obtain ⟨ls, he, rfl⟩ := ends_of_run ts ht.stage_ne_opening hr hc
    exact ht.ends hp he

/-- The first token of a head is its reference or its first sign. -/
theorem isHead_of_takes {p : Progress} {t : Located Token} (h : Takes {} t p)
    {ts : List (Located Token)} {ls : List (Located Shift)} (he : p.stage.Ends ts ls) :
    IsHead (t :: ts) (p.head.addShifts ls) := by
  cases h with
  | space _ hs => cases hs
  | sign s a =>
    obtain ⟨gs, us, vs, n, u, span, ms, e, hg, ht, hl, rfl⟩ := ends_signed he a rfl
    rw [e]
    exact .shifts ⟨hg, ht, hl⟩
  | reference hr =>
    cases he with
    | space a _ h =>
      cases h with
      | space _ hs => cases hs
      | shifts h => exact .shifted a hr h
    | reference => exact .reference hr

theorem isHead_of_ofTokens {ts : List (Located Token)} {stop : Nat} {hd : Head}
    (h : ofTokens ts stop = .ok hd) : IsHead ts hd := by
  obtain ⟨q, hr, hc⟩ := bind_eq_ok.mp h
  cases ts with
  | nil => cases hr; cases hc; exact .empty
  | cons t ts =>
    obtain ⟨p, ht, hr⟩ := run_cons_eq_ok hr
    obtain ⟨ls, he, rfl⟩ := ends_of_run ts ht.stage_ne_opening hr hc
    exact isHead_of_takes ht he

/-- **The grammar is exact.** Some tokens are read as a head exactly when the grammar derives it
from them. -/
theorem ofTokens_eq_ok_iff {ts : List (Located Token)} {stop : Nat} {hd : Head} :
    ofTokens ts stop = .ok hd ↔ IsHead ts hd :=
  ⟨isHead_of_ofTokens, fun h => h.ofTokens_eq stop⟩

end Head

end PathTemplate
