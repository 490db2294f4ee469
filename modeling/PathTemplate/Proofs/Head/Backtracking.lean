/-
# Stages decide every choice

The stages of `Head` need no second try: they read the heads that the parser
with its choices reads, and report the errors that it reports
(`parse_eq_ofTokens`).

The proof goes through the parser with the stage in hand. A parser that comes to
a result leads the stage on (`Follows.read`); where it does not, the stage
refuses what stands at the farthest impasse (`Follows.lost`). The first token of
what may be left out decides whether it is there: if what has been begun goes
wrong, so does the head, and nothing that is tried from the tokens put back gets
as far (`Settles.past`).

Key definitions: `Progress.finish`, `Follows`, `PastSpace`, `Ended`, `Settles`.
Key theorems: `follows_take`, `follows_term`, `settles_many_nextTerm`, `settles_shifts`,
`settles_start`, `parse_eq_ofTokens`, `read_eq_parse`.
-/
import PathTemplate.Proofs.Head.Combinators

namespace PathTemplate

namespace Head

variable {α β : Type} {stop k : Nat} {p q : Progress} {s s' : Input} {es : List Expectation}
  {sg : Sign} {hd : Head} {rest : List (Located Token)}

/-! ### Reading on from a stage -/

/-- The head that some more tokens complete. -/
def Progress.finish (p : Progress) (ts : List (Located Token)) (stop : Nat) :
    Except SyntaxError Head := do
  (← p.run ts).close stop

theorem Takes.finish {t : Located Token} {ts : List (Located Token)} (h : Takes p t q)
    (hts : ts = t :: rest) : p.finish ts stop = q.finish rest stop := by
  rw [hts, Progress.finish, h.run]
  rfl

/-- Where a stage cannot go on, what it expects is missed. -/
theorem finish_of_refused (hclose : p.stage.mayClose = true → rest ≠ [])
    (hrefused : ∀ t ∈ rest.head?, p.step t = .error (p.unexpected t)) :
    p.finish rest stop = .error (Impasse.error ⟨rest, .unexpected p.stage.expected⟩ stop) := by
  cases rest with
  | nil =>
    have hopen : p.stage.mayClose = false := Bool.eq_false_iff.mpr fun h => hclose h rfl
    simp [Progress.finish, run_nil, Progress.close, hopen, bind, Except.bind, Impasse.error]
  | cons t rest =>
    rw [Progress.finish, Progress.run, hrefused t rfl]
    rfl

/-- How a parser fares that starts at the input `s`, the stage being `p` there. If it reads
something, it leads the stage on and `Q` holds of what it has read, of the stage and of the input
behind it. If it does not, the head goes wrong at the farthest impasse. Either way it gets so far
that at most `k` tokens are left. -/
inductive Follows (stop k : Nat) (p : Progress) (s : Input) (Q : α → Progress → Input → Prop) :
    Option α × Input → Prop
  | read {v q s'} (hfinish : p.finish s.rest stop = q.finish s'.rest stop)
    (hk : s'.rest.length ≤ k) (hq : Q v q s') : Follows stop k p s Q (some v, s')
  | lost {s' i} (hi : s'.farthest = some i) (hk : i.rest.length ≤ k)
    (hfinish : p.finish s.rest stop = .error (i.error stop)) : Follows stop k p s Q (none, s')

variable {Q : α → Progress → Input → Prop} {R : β → Progress → Input → Prop}

theorem Follows.pure {v : α} (hk : s.rest.length ≤ k) (h : Q v p s) :
    Follows stop k p s Q ((pure v : Parser α) s) :=
  .read rfl hk h

/-- What a parser does behind another counts from where the first one started. -/
theorem Follows.behind {o : Option β × Input} (h : Follows stop k q s' R o)
    (hfinish : p.finish s.rest stop = q.finish s'.rest stop) : Follows stop k p s R o := by
  cases h with
  | read hfinish' hk hr => exact .read (hfinish.trans hfinish') hk hr
  | lost hi hk hfinish' => exact .lost hi hk (hfinish.trans hfinish')

theorem Follows.bind {x : Parser α} {f : α → Parser β} (h : Follows stop k p s Q (x s))
    (hf : ∀ v q s', s'.rest.length ≤ k → Q v q s' → Follows stop k q s' R (f v s')) :
    Follows stop k p s R ((x >>= f) s) := by
  cases hx : x s with
  | mk o s' =>
  rw [hx] at h
  cases h with
  | read hfinish hk hq =>
    rw [Parser.bind_eq_some hx]
    exact (hf _ _ _ hk hq).behind hfinish
  | lost hi hk hfinish =>
    rw [Parser.bind_eq_none hx]
    exact .lost hi hk hfinish

/-! ### Single tokens -/

theorem length_le_of_eq_cons {t : Located Token} (hs : s.rest = t :: rest)
    (hk : s.rest.length ≤ k) : rest.length ≤ k := by
  rw [hs] at hk
  exact Nat.le_of_succ_le hk

/-- A token that a stage takes leads it on. -/
theorem Takes.follows {t : Located Token} {v : α} {Q : α → Progress → Prop} (ht : Takes p t q)
    (hs : s.rest = t :: rest) (hk : rest.length ≤ k) (hlists : s.Lists es) (hq : Q v q) :
    Follows stop k p s (fun v q s' => Q v q ∧ s'.IsFresh) (some v, { s with rest }) :=
  .read (ht.finish hs) hk ⟨hq, hlists.isFresh_tail hs⟩

/-- A stage that refuses what comes next is lost there. -/
theorem lost_of_refused (hk : s.rest.length ≤ k) (hlists : s.Lists p.stage.expected)
    (hopen : p.stage.mayClose = false)
    (hrefused : ∀ t ∈ s.rest.head?, p.step t = .error (p.unexpected t)) :
    Follows stop k p s Q (none, s.note ⟨s.rest, .unexpected []⟩) := by
  have hjoin : (Miss.unexpected p.stage.expected).join (.unexpected []) =
    .unexpected p.stage.expected := by simp [Miss.join]
  rw [hlists.note, hjoin]
  exact .lost rfl hk (finish_of_refused (by simp [hopen]) hrefused)

/-- A token that must come is read, or the stage refuses what comes instead. -/
theorem follows_take {f : Token → Option α} {Q : Located α → Progress → Prop}
    (hk : s.rest.length ≤ k) (hlists : s.Lists p.stage.expected) (hopen : p.stage.mayClose = false)
    (htakes : ∀ t a, f t.node = some a → ∃ q, Takes p t q ∧ Q ⟨a, t.span⟩ q)
    (hrefuses : ∀ t ∈ s.rest.head?, f t.node = none → p.step t = .error (p.unexpected t)) :
    Follows stop k p s (fun v q s' => Q v q ∧ s'.IsFresh) (Parser.take [] f s) := by
  by_cases hf : ∀ t ∈ s.rest.head?, f t.node = none
  · rw [take_eq_none hf]
    exact lost_of_refused hk hlists hopen fun t ht => hrefuses t ht (hf t ht)
  · obtain ⟨t, rest, a, hs, ha⟩ : ∃ t rest a, s.rest = t :: rest ∧ f t.node = some a := by
      cases hs : s.rest with
      | nil => simp [hs] at hf
      | cons t rest =>
        obtain ⟨a, ha⟩ := Option.ne_none_iff_exists'.mp (by simpa [hs] using hf)
        exact ⟨t, rest, a, rfl, ha⟩
    obtain ⟨q, ht, hq⟩ := htakes t a ha
    rw [take_eq_some hs ha]
    exact ht.follows hs (length_le_of_eq_cons hs hk) hlists hq

/-- Whether a space that may come has been tried: none comes next, and that is what has been
missed. -/
structure PastSpace (p : Progress) (s : Input) : Prop where
  lists : s.Lists (if p.stage.takesSpace then [.space] else [])
  stops : p.stage.takesSpace = true → ∀ t ∈ s.rest.head?, t.node ≠ .space

theorem PastSpace.lists_expected (h : PastSpace p s) (hopen : p.stage.mayClose = false) :
    s.Lists p.stage.expected := by
  simpa [Stage.expected, hopen] using h.lists

/-- Where a space has been tried, another is refused. -/
theorem PastSpace.step_space (h : PastSpace p s) {t : Located Token} (ht : t ∈ s.rest.head?)
    (hspace : t.node = .space) : p.step t = .error (p.unexpected t) := by
  have hnot : p.stage.takesSpace ≠ true := fun hs => h.stops hs t ht hspace
  simp [Progress.step, hspace, hnot]

theorem Stage.takesSpace_afterSpace {st : Stage} (h : st.takesSpace = true) :
    st.afterSpace.takesSpace = false := by
  cases st with
  | opening => cases h
  | _ => rfl

/-- A space that may be left out. -/
theorem follows_optional_space (hk : s.rest.length ≤ k) (hfresh : s.IsFresh)
    (hs : p.stage.takesSpace = true) :
    Follows stop k p s (fun _ q s' => (q = p ∨ q = ⟨p.stage.afterSpace, p.head⟩) ∧ PastSpace q s')
      (Parser.space.optional s) := by
  rw [Parser.optional]
  rcases space_or_not s.rest with ⟨a, rest, hrest⟩ | hnone
  · rw [space_eq_some hrest]
    have hpast := Stage.takesSpace_afterSpace hs
    refine .read ((Takes.space a hs).finish hrest) (length_le_of_eq_cons hrest hk)
      ⟨.inr rfl, ?_, by simp [hpast]⟩
    rw [hpast]
    exact (hfresh.lists.isFresh_tail hrest).lists
  · rw [space_eq_none hnone, hfresh.lists.note]
    refine .read rfl hk ⟨.inl rfl, ?_, fun _ => hnone⟩
    rw [hs]
    exact .inr rfl

/-- A sign has just been read. -/
def JustSigned (hd : Head) (g : Located Sign) (q : Progress) (s : Input) : Prop :=
  q = ⟨.signed g.node g.span.start false, hd⟩ ∧ s.IsFresh

/-- A magnitude has just been read, of a term with the sign `sg` that starts at byte `start`, which
may depend on where the magnitude is. -/
def JustCounted (hd : Head) (sg : Sign) (start : Nat → Nat) (n : Located Nat) (q : Progress)
    (s : Input) : Prop :=
  q = ⟨.counted sg (start n.span.start) n.node false, hd⟩ ∧ s.IsFresh

/-- Behind a sign comes a magnitude. -/
theorem follows_magnitude_signed {start : Nat} {spaced : Bool} (hk : s.rest.length ≤ k)
    (h : PastSpace ⟨.signed sg start spaced, hd⟩ s) :
    Follows stop k ⟨.signed sg start spaced, hd⟩ s (JustCounted hd sg fun _ => start)
      (Parser.magnitude s) := by
  refine follows_take hk (h.lists_expected rfl) rfl (fun t n hn => ?_) (fun t ht hn => ?_)
  · obtain ⟨node, a⟩ := t
    cases node <;> cases hn
    exact ⟨_, .magnitude sg start spaced _ a, rfl⟩
  · cases hnode : t.node with
    | space => exact h.step_space ht hnode
    | integer => rw [hnode] at hn; cases hn
    | plus | minus | identifier => simp only [Progress.step, hnode]; rfl

/-- Behind a term and a space comes a magnitude, unless a sign does. -/
theorem follows_magnitude_term (hk : s.rest.length ≤ k) (hlists : s.Lists [])
    (hsign : ∀ t ∈ s.rest.head?, ∀ g : Sign, t.node ≠ g.token) :
    Follows stop k ⟨.term sg true, hd⟩ s (JustCounted hd sg id) (Parser.magnitude s) := by
  refine follows_take hk hlists rfl (fun t n hn => ?_) (fun t ht hn => ?_)
  · obtain ⟨node, a⟩ := t
    cases node <;> cases hn
    exact ⟨_, .laterMagnitude sg _ a, rfl⟩
  · cases hnode : t.node with
    | integer => rw [hnode] at hn; cases hn
    | plus => exact absurd hnode (hsign t ht .plus)
    | minus => exact absurd hnode (hsign t ht .minus)
    | space | identifier => simp only [Progress.step, hnode]; rfl

/-- Behind a reference and a space comes a sign. -/
theorem follows_sign_reference (hk : s.rest.length ≤ k) (hfresh : s.IsFresh) :
    Follows stop k ⟨.reference true, hd⟩ s (JustSigned hd) (Parser.sign s) := by
  refine follows_take hk hfresh.lists rfl (fun t g hg => ?_) (fun t ht hg => ?_)
  · obtain ⟨node, a⟩ := t
    cases node <;> cases hg
    · exact ⟨_, .sign .plus a rfl, rfl⟩
    · exact ⟨_, .sign .minus a rfl, rfl⟩
  · cases hnode : t.node with
    | plus | minus => rw [hnode] at hg; cases hg
    | space | integer | identifier => simp only [Progress.step, hnode]; rfl

/-- A sign that comes where one may. -/
theorem follows_sign (p : Progress) {g : Sign} {a : Span} (hlists : s.Lists es)
    (hs : s.rest = ⟨g.token, a⟩ :: rest) (hk : rest.length ≤ k) (hp : p.stage.takesSign = true) :
    Follows stop k p s (JustSigned p.head) (Parser.sign s) := by
  rw [sign_eq_some hs]
  exact (Takes.sign g a hp).follows hs hk hlists rfl

/-- Behind a magnitude comes a unit; a word that names none is told before what was missed
there. -/
theorem follows_unit {start n : Nat} {spaced : Bool} (hk : s.rest.length ≤ k)
    (h : PastSpace ⟨.counted sg start n spaced, hd⟩ s) :
    Follows stop k ⟨.counted sg start n spaced, hd⟩ s
      (fun u q s' => q = ⟨.term sg false, hd.addShifts [⟨⟨sg, n, u.node⟩, start, u.span.stop⟩]⟩ ∧
        s'.IsFresh) (Parser.unit s) := by
  have hlists := h.lists_expected rfl
  rw [Parser.unit, Parser.tryMap]
  by_cases hword : ∃ w a rest, s.rest = ⟨.identifier w, a⟩ :: rest
  · obtain ⟨w, a, rest, hs⟩ := hword
    have hread : Parser.word s = (some ⟨w, a⟩, { s with rest }) := take_eq_some hs rfl
    cases hu : TimeUnit.ofWord w with
    | some u =>
      simp only [hread, hu]
      exact (Takes.unit sg start n spaced a (TimeUnit.ofWord_eq_some_iff.mp hu)).follows hs
        (length_le_of_eq_cons hs hk) hlists rfl
    | none =>
      simp only [hread, hu]
      rw [Input.note_farthest, hlists.note]
      refine .lost rfl hk ?_
      rw [hs, Progress.finish, Progress.run]
      simp only [Progress.step, Progress.word, hu]
      rfl
  · have hother : ∀ t ∈ s.rest.head?, ∀ w, t.node ≠ .identifier w := by
      intro t ht w hw
      obtain ⟨rest, hs⟩ := List.head?_eq_some_iff.mp ht
      exact hword ⟨w, t.span, rest, by rw [hs, ← hw]⟩
    have hnone : Parser.word s = (none, s.note ⟨s.rest, .unexpected []⟩) :=
      take_eq_none fun t ht => by
        cases hnode : t.node with
        | identifier w => exact absurd hnode (hother t ht w)
        | _ => rfl
    rw [hnone]
    refine lost_of_refused hk hlists rfl fun t ht => ?_
    cases hnode : t.node with
    | space => exact h.step_space ht hnode
    | identifier w => exact absurd hnode (hother t ht w)
    | plus | minus | integer => simp only [Progress.step, hnode]; rfl

/-! ### Terms -/

/-- A magnitude that leads on makes a term lead on. -/
theorem follows_term {start : Nat → Nat}
    (hmagnitude : Follows stop k p s (JustCounted hd sg start) (Parser.magnitude s)) :
    Follows stop k p s (fun t q s' => q = ⟨.term sg false, hd.addShifts
        [⟨⟨sg, t.node.1, t.node.2⟩, start t.span.start, t.span.stop⟩]⟩ ∧ s'.IsFresh)
      (Parser.term s) := by
  refine hmagnitude.bind fun n q s' hk ⟨hq, hfresh⟩ => ?_
  subst hq
  refine (follows_optional_space hk hfresh rfl).bind fun _ q s' hk ⟨hq, hpast⟩ => ?_
  obtain ⟨spaced, rfl⟩ : ∃ spaced, q = ⟨.counted sg (start n.span.start) n.node spaced, hd⟩ := by
    rcases hq with rfl | rfl <;> exact ⟨_, rfl⟩
  exact (follows_unit hk hpast).bind fun u q s' hk hu => .pure hk hu

/-- A sign that leads on does so with a space behind it too. -/
theorem follows_signed (hsign : Follows stop k p s (JustSigned hd) (Parser.sign s)) :
    Follows stop k p s (fun g q s' => ∃ spaced, q = ⟨.signed g.node g.span.start spaced, hd⟩ ∧
      PastSpace q s') (Parser.signed s) := by
  refine hsign.bind fun g q s' hk ⟨hq, hfresh⟩ => ?_
  subst hq
  refine (follows_optional_space hk hfresh rfl).bind fun _ q s' hk ⟨hq, hpast⟩ => ?_
  rcases hq with rfl | rfl <;> exact .pure hk ⟨_, rfl, hpast⟩

theorem follows_firstTerm (hsign : Follows stop k p s (JustSigned hd) (Parser.sign s)) :
    Follows stop k p s
      (fun l q s' => q = ⟨.term l.node.sign false, hd.addShifts [l]⟩ ∧ s'.IsFresh)
      (Parser.firstTerm s) := by
  refine (follows_signed hsign).bind fun g q s' hk ⟨spaced, hq, hpast⟩ => ?_
  subst hq
  exact (follows_term (follows_magnitude_signed hk hpast)).bind fun t q s' hk ht => .pure hk ht

/-- The sign of a later term, if it has one, and where its magnitude comes: behind that sign, or
else behind the space. -/
theorem follows_optional_signed (hk : s.rest.length ≤ k) (hfresh : s.IsFresh) :
    Follows stop k ⟨.term sg true, hd⟩ s
      (fun o q s' => (∃ g spaced, o = some g ∧ q = ⟨.signed g.node g.span.start spaced, hd⟩ ∧
          PastSpace q s') ∨
        (o = none ∧ q = ⟨.term sg true, hd⟩ ∧ s'.Lists [] ∧
          ∀ t ∈ s'.rest.head?, ∀ g : Sign, t.node ≠ g.token))
      (Parser.signed.optional s) := by
  rw [Parser.optional]
  rcases sign_or_not s.rest with ⟨g, a, rest, hs⟩ | hnone
  · have hfollows : Follows stop k ⟨.term sg true, hd⟩ s _ (Parser.signed s) :=
      follows_signed (follows_sign _ hfresh.lists hs (length_le_of_eq_cons hs hk) rfl)
    obtain ⟨o, s', ho⟩ := Parser.exists_optional Parser.space { s with rest }
    have hsigned : Parser.signed s = (some ⟨g, a⟩, s') :=
      (Parser.bind_eq_some (sign_eq_some hs)).trans (Parser.bind_eq_some ho)
    rw [hsigned] at hfollows ⊢
    cases hfollows with
    | read hfinish hk hq =>
      obtain ⟨spaced, rfl, hpast⟩ := hq
      exact .read hfinish hk (.inl ⟨_, spaced, rfl, rfl, hpast⟩)
  · have hsigned : Parser.signed s = (none, s.note ⟨s.rest, .unexpected []⟩) :=
      Parser.bind_eq_none (sign_eq_none hnone)
    rw [hsigned, hfresh.lists.note]
    exact .read rfl hk (.inr ⟨rfl, rfl, .inr rfl, hnone⟩)

/-- A later term takes the sign before it, unless it has its own. -/
theorem follows_laterTerm (stop : Nat) (sg : Sign) (hd : Head) (hk : s.rest.length ≤ k)
    (hfresh : s.IsFresh) :
    Follows stop k ⟨.term sg true, hd⟩ s
      (fun t q s' => q = ⟨.term (t.1.getD sg) false, hd.addShifts (Parser.carry sg [t])⟩ ∧
        s'.IsFresh) (Parser.laterTerm s) := by
  refine (follows_optional_signed hk hfresh).bind fun o q s' hk ho => ?_
  rcases ho with ⟨g, spaced, rfl, rfl, hpast⟩ | ⟨rfl, rfl, hlists, hnone⟩
  · exact (follows_term (follows_magnitude_signed hk hpast)).bind fun t q s' hk ht => .pure hk ht
  · exact (follows_term (follows_magnitude_term hk hlists hnone)).bind
      fun t q s' hk ht => .pure hk ht

/-! ### Repetition and options -/

/-- Whether a head may end at a stage, and what comes next is refused there. -/
structure Ended (p : Progress) (s : Input) : Prop where
  closes : p.stage.mayClose = true
  lists : s.Lists (if p.stage.takesSpace then [.space] else [])
  refuses : ∀ t ∈ s.rest.head?, p.step t = .error (p.unexpected t)

/-- How a parser fares that may give something up and go on. If the head goes wrong in what it has
given up, that is behind the tokens that it has put back. -/
inductive Settles (stop k : Nat) (p : Progress) (s : Input) (Q : α → Progress → Prop) :
    Option α × Input → Prop
  | read {v q s'} (hfinish : p.finish s.rest stop = q.finish s'.rest stop) (hended : Ended q s')
    (hq : Q v q) : Settles stop k p s Q (some v, s')
  | past {v s' i} (hi : s'.farthest = some i) (hlt : i.rest.length < s'.rest.length)
    (hfinish : p.finish s.rest stop = .error (i.error stop)) : Settles stop k p s Q (some v, s')
  | lost {s' i} (hi : s'.farthest = some i) (hk : i.rest.length ≤ k)
    (hfinish : p.finish s.rest stop = .error (i.error stop)) : Settles stop k p s Q (none, s')

/-- Where a head may end or a space may come, only a space goes on. -/
theorem ended_of_no_space (hclose : p.stage.mayClose = true) (hspace : p.stage.takesSpace = true)
    (hlists : s.Lists [.space]) (hnone : ∀ t ∈ s.rest.head?, t.node ≠ .space) : Ended p s := by
  refine ⟨hclose, by rwa [hspace], fun t ht => ?_⟩
  have hne := hnone t ht
  obtain ⟨st, hd⟩ := p
  obtain ⟨node, a⟩ := t
  cases st with
  | opening => cases hspace
  | signed | counted => cases hclose
  | reference spaced | term _ spaced =>
    cases spaced with
    | true => cases hspace
    | false =>
      cases node with
      | space => exact absurd rfl hne
      | plus | minus | integer | identifier => rfl

theorem Settles.behind {Q : α → Progress → Prop} {o : Option α × Input}
    (h : Settles stop k q s' Q o) (hfinish : p.finish s.rest stop = q.finish s'.rest stop) :
    Settles stop k p s Q o := by
  cases h with
  | read hfinish' hended hq => exact .read (hfinish.trans hfinish') hended hq
  | past hi hlt hfinish' => exact .past hi hlt (hfinish.trans hfinish')
  | lost hi hk hfinish' => exact .lost hi hk (hfinish.trans hfinish')

theorem Follows.bind_settles {R : β → Progress → Prop} {x : Parser α} {f : α → Parser β}
    (h : Follows stop k p s Q (x s))
    (hf : ∀ v q s', Q v q s' → Settles stop k q s' R (f v s')) :
    Settles stop k p s R ((x >>= f) s) := by
  cases hx : x s with
  | mk o s' =>
  rw [hx] at h
  cases h with
  | read hfinish hk hq =>
    rw [Parser.bind_eq_some hx]
    exact (hf _ _ _ hq).behind hfinish
  | lost hi hk hfinish =>
    rw [Parser.bind_eq_none hx]
    exact .lost hi hk hfinish

theorem Settles.map {Q : α → Progress → Prop} {R : β → Progress → Prop} {o : Option α × Input}
    (f : α → β) (h : Settles stop k p s Q o) (hf : ∀ v q, Q v q → R (f v) q) :
    Settles stop k p s R (o.1.map f, o.2) := by
  cases h with
  | read hfinish hended hq => exact .read hfinish hended (hf _ _ hq)
  | past hi hlt hfinish => exact .past hi hlt hfinish
  | lost hi hk hfinish => exact .lost hi hk hfinish

theorem Settles.bind_pure {Q : α → Progress → Prop} {R : β → Progress → Prop} {x : Parser α}
    {f : α → β} (h : Settles stop k p s Q (x s)) (hf : ∀ v q, Q v q → R (f v) q) :
    Settles stop k p s R ((x >>= fun v => pure (f v)) s) := by
  have heq : (x >>= fun v => pure (f v)) s = ((x s).1.map f, (x s).2) := by
    cases hx : x s with
    | mk o s' => cases o <;> simp [bind, pure, hx]
  rw [heq]
  exact h.map f hf

/-- What is begun and goes wrong farther on may be left out. -/
theorem Settles.optional {Q : α → Progress → Prop} {R : Option α → Progress → Prop} {k' : Nat}
    {x : Parser α} (h : Settles stop k p s Q (x s)) (hlt : k < s.rest.length)
    (hR : ∀ v q, Q v q → R (some v) q) : Settles stop k' p s R (x.optional s) := by
  rw [Parser.optional]
  generalize x s = o at h
  cases h with
  | read hfinish hended hq => exact .read hfinish hended (hR _ _ hq)
  | past hi hlt hfinish => exact .past hi hlt hfinish
  | lost hi hk hfinish => exact .past hi (Nat.lt_of_le_of_lt hk hlt) hfinish

/-- **Later terms** are read for as long as they come. A term that is begun and goes wrong is put
back, and the repetition ends in front of it. -/
theorem settles_many_nextTerm {s : Input} (sg : Sign) (hd : Head) (hfresh : s.IsFresh) :
    Settles stop k ⟨.term sg false, hd⟩ s
      (fun ts q => ∃ sg', q = ⟨.term sg' false, hd.addShifts (Parser.carry sg ts)⟩)
      (Parser.nextTerm.many s) := by
  rw [Parser.many]
  rcases space_or_not s.rest with ⟨a, rest, hs⟩ | hnone
  · have hspace : Progress.finish ⟨.term sg false, hd⟩ s.rest stop =
        Progress.finish ⟨.term sg true, hd⟩ rest stop := (Takes.space a rfl).finish hs
    have hlt : rest.length < s.rest.length := by simp [hs]
    have hnext : Parser.nextTerm s = Parser.laterTerm { s with rest } :=
      Parser.bind_eq_some (space_eq_some hs)
    have hlater := follows_laterTerm stop sg hd (Nat.le_refl _) (hfresh.lists.isFresh_tail hs)
    rw [hnext]
    generalize Parser.laterTerm { s with rest } = o at hlater
    cases hlater with
    | @read t q s' hfinish hle hq =>
      -- the repetition goes on behind the term, with the sign that it leaves
      obtain ⟨rfl, hfresh'⟩ := hq
      have hlt' : s'.rest.length < s.rest.length := Nat.lt_of_le_of_lt hle hlt
      have hrest := settles_many_nextTerm (t.1.getD sg) (hd.addShifts (Parser.carry sg [t]))
        hfresh'
      simp only [if_pos hlt']
      refine (hrest.map (t :: ·) fun ts q ⟨sg', hq⟩ => ⟨sg', ?_⟩).behind (hspace.trans hfinish)
      rw [hq, addShifts_addShifts]
      rfl
    | lost hi hle hfinish =>
      exact .past hi (Nat.lt_of_le_of_lt hle hlt) (hspace.trans hfinish)
  · have hnext : Parser.nextTerm s = (none, s.note ⟨s.rest, .unexpected [.space]⟩) :=
      Parser.bind_eq_none (space_eq_none hnone)
    rw [hnext, hfresh.lists.note]
    exact .read rfl (ended_of_no_space rfl rfl (.inr rfl) hnone) ⟨sg, by simp [Parser.carry]⟩
termination_by s.rest.length

/-- A first sign that leads on makes shifts lead on. -/
theorem settles_shifts (hsign : Follows stop k p s (JustSigned hd) (Parser.sign s)) :
    Settles stop k p s (fun ls q => q.head = hd.addShifts ls) (Parser.shifts s) := by
  refine (follows_firstTerm hsign).bind_settles fun l q s' ⟨hq, hfresh⟩ => ?_
  subst hq
  refine (settles_many_nextTerm l.node.sign (hd.addShifts [l]) hfresh).bind_pure
    fun ts q ⟨sg, hq⟩ => ?_
  rw [hq, addShifts_addShifts]
  rfl

/-- Behind a reference may come a space and shifts. -/
theorem settles_optional_spacedShifts (hd : Head) (hfresh : s.IsFresh) :
    Settles stop k ⟨.reference false, hd⟩ s (fun o q => q.head = hd.addShifts (o.getD []))
      (Parser.spacedShifts.optional s) := by
  rcases space_or_not s.rest with ⟨a, rest, hs⟩ | hnone
  · have hspace : Progress.finish ⟨.reference false, hd⟩ s.rest stop =
        Progress.finish ⟨.reference true, hd⟩ rest stop := (Takes.space a rfl).finish hs
    have heq : Parser.spacedShifts s = Parser.shifts { s with rest } :=
      Parser.bind_eq_some (space_eq_some hs)
    have hshifts : Settles stop rest.length ⟨.reference false, hd⟩ s _ (Parser.spacedShifts s) :=
      heq ▸ (settles_shifts (follows_sign_reference (Nat.le_refl _)
        (hfresh.lists.isFresh_tail hs))).behind hspace
    exact hshifts.optional (by simp [hs]) fun ls q hq => hq
  · have heq : Parser.spacedShifts s = (none, s.note ⟨s.rest, .unexpected [.space]⟩) :=
      Parser.bind_eq_none (space_eq_none hnone)
    rw [Parser.optional, heq, hfresh.lists.note]
    exact .read rfl (ended_of_no_space rfl rfl (.inr rfl) hnone) (addShifts_nil hd).symm

/-! ### Whole heads -/

variable {ts : List (Located Token)}

/-- Behind a first reference no other choice is tried. -/
theorem settles_of_reference {t : Located Token} {r : Located Reference} (hr : IsReference [t] r) :
    Settles stop k {} ⟨t :: ts, none⟩ (fun o q => q.head = o.getD {})
      (Parser.start ⟨t :: ts, none⟩) := by
  have hfresh : Input.IsFresh ⟨ts, none⟩ := by simp [Input.IsFresh]
  have href : Parser.reference ⟨t :: ts, none⟩ = (some r, ⟨ts, none⟩) := by cases hr <;> rfl
  obtain ⟨o, s', ho⟩ := Parser.exists_optional Parser.spacedShifts ⟨ts, none⟩
  have hreferred : Parser.referred ⟨t :: ts, none⟩ = (some ⟨some r, o.getD []⟩, s') :=
    (Parser.bind_eq_some href).trans (Parser.bind_eq_some ho)
  have hshifts : Settles stop k ⟨.reference false, ⟨some r, []⟩⟩ ⟨ts, none⟩ _ (some o, s') :=
    ho ▸ settles_optional_spacedShifts ⟨some r, []⟩ hfresh
  have hhead := hshifts.map (R := fun h q => q.head = h.getD {})
    (fun o => some ⟨some r, o.getD []⟩) fun o q hq => hq
  rw [Parser.start, Parser.optional, Parser.orElse, hreferred]
  exact hhead.behind ((Takes.reference hr).finish rfl)

/-- Where no reference comes, the other choice is tried from the same token on. -/
theorem orElse_of_no_reference
    (hnone : Parser.reference ⟨ts, none⟩ = (none, ⟨ts, some ⟨ts, .unexpected []⟩⟩)) :
    (Parser.referred.orElse Parser.unreferred) ⟨ts, none⟩ =
      Parser.unreferred ⟨ts, some ⟨ts, .unexpected []⟩⟩ := by
  have hreferred : Parser.referred ⟨ts, none⟩ = _ := Parser.bind_eq_none hnone
  rw [Parser.orElse, hreferred]

/-- A first sign starts shifts. -/
theorem settles_of_sign (g : Sign) (a : Span) :
    Settles stop k {} ⟨⟨g.token, a⟩ :: ts, none⟩ (fun o q => q.head = o.getD {})
      (Parser.start ⟨⟨g.token, a⟩ :: ts, none⟩) := by
  have hshifts : Settles stop ts.length {}
      ⟨⟨g.token, a⟩ :: ts, some ⟨⟨g.token, a⟩ :: ts, .unexpected []⟩⟩ _ (Parser.shifts _) :=
    settles_shifts (follows_sign {} (.inr rfl) rfl (Nat.le_refl _) rfl)
  have hhead : Settles stop ts.length {} ⟨⟨g.token, a⟩ :: ts, none⟩ (fun h q => q.head = h)
      ((Parser.referred.orElse Parser.unreferred) ⟨⟨g.token, a⟩ :: ts, none⟩) := by
    rw [orElse_of_no_reference (by cases g <;> rfl)]
    exact (hshifts.bind_pure fun ls q hq => hq).behind rfl
  exact hhead.optional (Nat.lt_succ_self _) fun h q hq => hq

/-- What starts with neither is given up at once. -/
theorem start_eq_none
    (hreference : Parser.reference ⟨ts, none⟩ = (none, ⟨ts, some ⟨ts, .unexpected []⟩⟩))
    (hsign : ∀ t ∈ ts.head?, ∀ g : Sign, t.node ≠ g.token) :
    Parser.start ⟨ts, none⟩ = (some none, ⟨ts, some ⟨ts, .unexpected []⟩⟩) := by
  have hlists : Input.Lists ⟨ts, some ⟨ts, .unexpected []⟩⟩ [] := .inr rfl
  have hunreferred : Parser.unreferred ⟨ts, some ⟨ts, .unexpected []⟩⟩ = _ :=
    Parser.bind_eq_none (Parser.bind_eq_none (Parser.bind_eq_none (Parser.bind_eq_none
      (sign_eq_none hsign))))
  rw [Parser.start, Parser.optional, orElse_of_no_reference hreference, hunreferred, hlists.note]
  rfl

/-- A head starts with its reference or with a sign, or there is nothing to it. -/
theorem settles_start (ts : List (Located Token)) :
    Settles stop k {} ⟨ts, none⟩ (fun o q => q.head = o.getD {}) (Parser.start ⟨ts, none⟩) := by
  cases ts with
  | nil =>
    rw [start_eq_none rfl (by simp)]
    exact .read rfl ⟨rfl, .inr rfl, by simp⟩ rfl
  | cons t ts =>
    obtain ⟨node, a⟩ := t
    cases node with
    | space =>
      rw [start_eq_none rfl (by rintro _ ⟨⟩ g; cases g <;> nofun)]
      exact .read rfl ⟨rfl, .inr rfl, by rintro _ ⟨⟩; rfl⟩ rfl
    | plus => exact settles_of_sign .plus a
    | minus => exact settles_of_sign .minus a
    | integer n => exact settles_of_reference (.indexed n a)
    | identifier w => exact settles_of_reference (.named w a)

/-- What has been missed where a head may end, and the end itself, are all that is expected. -/
theorem Ended.note_closing (h : Ended p s) : s.note ⟨s.rest, .unexpected [.closing]⟩ =
    ⟨s.rest, some ⟨s.rest, .unexpected p.stage.expected⟩⟩ := by
  rw [h.lists.note, Stage.expected, h.closes]
  cases p.stage.takesSpace <;> rfl

/-- **The choices are decided by the stages.** The parser with its choices reads the heads that the
stages read, and reports the errors that they report. -/
theorem parse_eq_ofTokens (ts : List (Located Token)) (span : Span) :
    parse ts span = ofTokens ts span.stop := by
  obtain ⟨o, s, hstart⟩ : ∃ o s, Parser.start ⟨ts, none⟩ = (some o, s) :=
    Parser.exists_optional _ _
  have h : Settles span.stop ts.length {} ⟨ts, none⟩ _ (some o, s) := hstart ▸ settles_start ts
  show parse ts span = Progress.finish {} ts span.stop
  cases h with
  | @read _ q _ hfinish hended hq =>
    rw [show Progress.finish {} ts span.stop = _ from hfinish]
    by_cases hrest : s.rest = []
    -- all is read, or the stage refuses the token at which the parser has stopped
    · have hend : Parser.atEnd s = (some (), s) := by simp [Parser.atEnd, hrest]
      rw [parse_eq_ok ((Parser.bind_eq_some hstart).trans (Parser.bind_eq_some hend)), hrest, ← hq]
      exact (if_pos hended.closes).symm
    · rw [parse_eq_error ((Parser.bind_eq_some hstart).trans
        (Parser.bind_eq_none (atEnd_eq_none hrest))) (by rw [hended.note_closing]),
        finish_of_refused (fun _ => hrest) hended.refuses]
  | past hi hlt hfinish =>
    have hrest : s.rest ≠ [] := List.ne_nil_of_length_pos (Nat.zero_lt_of_lt hlt)
    rw [show Progress.finish {} ts span.stop = _ from hfinish]
    refine parse_eq_error ((Parser.bind_eq_some hstart).trans
      (Parser.bind_eq_none (atEnd_eq_none hrest))) ?_
    rw [Input.note_of_lt hi hlt, hi]

/-- The second term is begun and given up, and all the same the head goes wrong where its unit
should stand. -/
example : parse [⟨.plus, 0, 1⟩, ⟨.integer 1, 1, 2⟩, ⟨.identifier "day", 2, 5⟩, ⟨.space, 5, 6⟩,
    ⟨.integer 2, 6, 7⟩] ⟨0, 7⟩ = .error ⟨.unexpected none [.space], 7, 7⟩ := by
  rw [parse_eq_ofTokens]
  rfl

/-- A head is read from its tokens by the parser with its choices. -/
theorem read_eq_parse (cs : List Char) (offset : Nat) : Head.read cs offset = (do
    parse (← tokens (locatedLexemes cs offset)) ⟨offset, offset + utf8Width cs⟩) := by
  simp only [Head.read, parse_eq_ofTokens]

end Head

end PathTemplate
