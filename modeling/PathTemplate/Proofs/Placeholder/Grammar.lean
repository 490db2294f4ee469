/-
# The grammar of a placeholder

The interior of a placeholder, without the blanks at its edges, is cut at its
first bar. What stands before the bar is a head; what stands behind it is a
pattern: text without blanks, quotes and bars, or any text between quotes.

`Derives` puts these parts together with their places, and reading an
interior succeeds exactly when the grammar derives a placeholder from it, and
then gives that placeholder (`read_iff_derives`). In particular an interior has
one reading at most.

Key definitions: `LexesTo`, `IsPattern`, `Derives`.
Key theorems: `readPattern_eq_ok_iff`, `read_iff_derives`.
-/
import Mathlib.Data.List.TakeWhile
import PathTemplate.Placeholder
import PathTemplate.Proofs.Head.Grammar
import PathTemplate.Proofs.Text.Runs

namespace PathTemplate

open Text

namespace Head

/-- The text `cs`, at byte `offset`, is cut into the tokens `ts` without a fault. -/
def LexesTo (cs : List Char) (offset : Nat) (ts : List (Located Token)) : Prop :=
  (locatedLexemes cs offset).map (fun l => (l.node.reading, l.span)) =
    ts.map fun t => (.ok t.node, t.span)

theorem tokens_eq_ok_iff : ∀ {ls : List (Located Lexeme)} {ts : List (Located Token)},
    tokens ls = .ok ts ↔
      ls.map (fun l => (l.node.reading, l.span)) = ts.map fun t => (.ok t.node, t.span)
  | [], ts => by
    cases ts with
    | nil => simp [tokens]
    | cons => simp [tokens]
  | ⟨l, a⟩ :: ls, ts => by
    rw [tokens]
    cases hl : l.reading with
    | error e => cases ts <;> simp [hl]
    | ok t =>
      simp only [hl, List.map_cons, bind_eq_ok, tokens_eq_ok_iff]
      constructor
      · rintro ⟨us, hus, h⟩
        cases h
        simp [hus]
      · cases ts with
        | nil => simp
        | cons u us =>
          obtain ⟨u, b⟩ := u
          simp only [List.map_cons, List.cons.injEq, Prod.mk.injEq, Except.ok.injEq]
          rintro ⟨⟨rfl, rfl⟩, hus⟩
          exact ⟨us, hus, rfl⟩

theorem read_eq_ok_iff {cs : List Char} {offset : Nat} {h : Head} :
    Head.read cs offset = .ok h ↔ ∃ ts, LexesTo cs offset ts ∧ IsHead ts h := by
  simp only [Head.read, bind_eq_ok, tokens_eq_ok_iff, ofTokens_eq_ok_iff, LexesTo]

/-- A text whose lexemes read as tokens is cut into these tokens, wherever it stands. -/
theorem exists_lexesTo {cs : List Char} {ns : List Token}
    (h : (lexemes cs).map Lexeme.reading = ns.map .ok) (offset : Nat) :
    ∃ ts, LexesTo cs offset ts ∧ ts.map Located.node = ns := by
  have hn : (locatedLexemes cs offset).map Located.node = lexemes cs := layOut_map_node ..
  unfold LexesTo
  rw [← hn] at h
  generalize locatedLexemes cs offset = ls at h
  induction ls generalizing ns with
  | nil => exact ⟨[], rfl, by simpa using h⟩
  | cons l ls ih =>
    cases ns with
    | nil => cases h
    | cons n ns =>
      injection h with hl h
      obtain ⟨ts, hts, rfl⟩ := ih h
      exact ⟨⟨n, l.span⟩ :: ts, by simp [hl, hts], rfl⟩

end Head

namespace Placeholder

/-! ### Derivations -/

/-- A text, what stands in it before the first bar, and what stands behind it if there is one. -/
inductive IsCut : List Char → List Char → Option (List Char) → Prop
  | whole {cs} (h : '|' ∉ cs) : IsCut cs cs none
  | atBar {front raw} (h : '|' ∉ front) : IsCut (front ++ '|' :: raw) front (some raw)

/-- `pattern = bare text | '"' any text '"'` -/
inductive IsPattern : List Char → String → Prop
  | bare {cs} (hne : cs ≠ []) (h : ∀ c ∈ cs, isBlank c = false ∧ c ≠ '"' ∧ c ≠ '|') :
    IsPattern cs (String.ofList cs)
  | quoted (cs : List Char) : IsPattern ('"' :: (cs ++ ['"'])) (String.ofList cs)

/-- The place of a text without the blanks at its edges, the text starting at byte `offset`. -/
def trimmedSpan (cs : List Char) (offset : Nat) : Span :=
  ⟨offset + utf8Width (leadingBlanks cs),
    offset + utf8Width (leadingBlanks cs) + utf8Width (trim cs)⟩

/-- The pattern that stands behind a bar, `offset` being the byte behind it. -/
inductive IsPatternPart : Option (List Char) → Nat → Option (Located String) → Prop
  | none (offset : Nat) : IsPatternPart .none offset .none
  | some {raw text} (offset : Nat) (h : IsPattern (trim raw) text) :
    IsPatternPart (.some raw) offset (.some ⟨text, trimmedSpan raw offset⟩)

/-- `placeholder = head ['|' pattern]`, blanks at the edges of each part left out. A reference
that is not written is implicit and stands for the whole placeholder. -/
inductive Derives (interior : List Char) (offset : Nat) (span : Span) : Placeholder → Prop
  | mk {front back ts head pattern} (hcut : IsCut (trim interior) front back)
    (hlex : Head.LexesTo (trimEnd front) (trimmedSpan interior offset).start ts)
    (hhead : Head.IsHead ts head)
    (hpat : IsPatternPart back ((trimmedSpan interior offset).start + utf8Width front + 1) pattern) :
    Derives interior offset span ⟨head.reference.getD ⟨.implicit, span⟩, head.shifts, pattern⟩

/-! ### The two parts -/

/-- The front of a cut is what the first bar ends. -/
theorem isCut_iff {cs front : List Char} {back : Option (List Char)} :
    IsCut cs front back ↔
      front = cs.takeWhile (· ≠ '|') ∧ back = (cs.dropWhile (· ≠ '|')).tail? := by
  constructor
  · rintro (h | h)
    · rw [List.takeWhile_eq_self_iff.mpr (forall_ne_iff.mpr h),
        List.dropWhile_eq_nil_iff.mpr (forall_ne_iff.mpr h)]
      exact ⟨rfl, rfl⟩
    · rw [List.takeWhile_append_of_pos (forall_ne_iff.mpr h),
        List.dropWhile_append_of_pos (forall_ne_iff.mpr h)]
      simp
  · rintro ⟨rfl, rfl⟩
    have hcs := @List.takeWhile_append_dropWhile _ (fun c => decide (c ≠ '|')) cs
    cases hd : cs.dropWhile (· ≠ '|') with
    | nil =>
      rw [hd, List.append_nil] at hcs
      rw [hcs]
      exact .whole (forall_ne_iff.mp (List.dropWhile_eq_nil_iff.mp hd))
    | cons c raw =>
      have hc : c = '|' := by simpa using Piece.dropWhile_ne_head hd
      rw [hd, hc] at hcs
      have hbar : '|' ∉ cs.takeWhile (· ≠ '|') := forall_ne_iff.mp fun _ => List.mem_takeWhile_imp
      have hcut : IsCut (cs.takeWhile (· ≠ '|') ++ '|' :: raw) _ (some raw) := .atBar hbar
      rwa [hcs] at hcut

/-- What stands in front of the first bar of a text, and behind it. -/
theorem IsCut.exists_append {cs front : List Char} {back : Option (List Char)}
    (h : IsCut cs front back) : '|' ∉ front ∧ ∃ rest, cs = front ++ rest ∧
      ∀ raw ∈ back, rest = '|' :: raw := by
  cases h with
  | whole h => exact ⟨h, [], (List.append_nil _).symm, nofun⟩
  | @atBar front raw h =>
    refine ⟨h, '|' :: raw, rfl, ?_⟩
    rintro _ ⟨⟩
    rfl

theorem exists_isCut (cs : List Char) : ∃ front back, IsCut cs front back :=
  ⟨_, _, isCut_iff.mpr ⟨rfl, rfl⟩⟩

theorem not_needsQuotes {c : Char} :
    (!needsQuotes c) = true ↔ isBlank c = false ∧ c ≠ '"' ∧ c ≠ '|' := by
  simp [needsQuotes, and_assoc]

theorem readPattern_eq_ok_iff {raw : List Char} {offset : Nat} {l : Located String} :
    readPattern raw offset = .ok l ↔
      ∃ text, IsPattern (trim raw) text ∧ l = ⟨text, trimmedSpan raw offset⟩ := by
  unfold readPattern trimmedSpan
  generalize trim raw = cs
  simp only
  split
  · constructor
    · intro h
      cases h
    · rintro ⟨_, h, _⟩
      cases h
      contradiction
  · next rest =>
    constructor
    · intro h
      split at h
      · next hq =>
        obtain ⟨inner, rfl⟩ := List.getLast?_eq_some_iff.mp hq
        cases h
        refine ⟨_, ?_, rfl⟩
        rw [List.dropLast_concat]
        exact .quoted inner
      · cases h
    · rintro ⟨_, h, rfl⟩
      cases h with
      | bare _ h => exact absurd rfl (h '"' List.mem_cons_self).2.1
      | quoted cs => simp
  · next h0 hq =>
    constructor
    · intro h
      split at h
      · next hd =>
        cases h
        refine ⟨_, .bare h0 fun c hc => ?_, rfl⟩
        exact not_needsQuotes.mp (List.dropWhile_eq_nil_iff.mp hd c hc)
      · cases h
    · rintro ⟨_, h, rfl⟩
      cases h with
      | bare _ h =>
        rw [List.dropWhile_eq_nil_iff.mpr fun c hc => not_needsQuotes.mpr (h c hc)]
      | quoted cs => exact absurd rfl (hq _)

theorem derives_of_read {interior : List Char} {offset : Nat} {span : Span} {p : Placeholder}
    (h : read interior offset span = .ok p) : Derives interior offset span p := by
  unfold read at h
  obtain ⟨head, hread, h⟩ := bind_eq_ok.mp h
  obtain ⟨ts, hlex, hhead⟩ := Head.read_eq_ok_iff.mp hread
  split at h
  · next hd =>
    cases h
    exact .mk (isCut_iff.mpr ⟨rfl, by rw [hd]; rfl⟩) hlex hhead (.none _)
  · next raw hd =>
    obtain ⟨pattern, hp, h⟩ := bind_eq_ok.mp h
    cases h
    cases hr : readPattern raw _ with
    | error e => rw [hr] at hp; cases hp
    | ok l =>
      rw [hr] at hp
      cases hp
      obtain ⟨text, ht, rfl⟩ := readPattern_eq_ok_iff.mp hr
      exact .mk (isCut_iff.mpr ⟨rfl, by rw [hd]; rfl⟩) hlex hhead (.some _ ht)

theorem Derives.read_eq {interior : List Char} {offset : Nat} {span : Span} {p : Placeholder}
    (h : Derives interior offset span p) : read interior offset span = .ok p := by
  obtain ⟨hcut, hlex, hhead, hpat⟩ := h
  obtain ⟨rfl, hback⟩ := isCut_iff.mp hcut
  refine bind_eq_ok.mpr ⟨_, Head.read_eq_ok_iff.mpr ⟨_, hlex, hhead⟩, ?_⟩
  split
  · next hd =>
    rw [hd] at hback
    subst hback
    cases hpat
    rfl
  · next raw hd =>
    rw [hd] at hback
    subst hback
    obtain _ | ⟨_, ht⟩ := hpat
    rw [readPattern_eq_ok_iff.mpr ⟨_, ht, rfl⟩]
    rfl

/-- **The grammar is exact.** Reading an interior gives a placeholder exactly when the grammar
derives it. -/
theorem read_iff_derives (interior : List Char) (offset : Nat) (span : Span) (p : Placeholder) :
    read interior offset span = .ok p ↔ Derives interior offset span p :=
  ⟨derives_of_read, Derives.read_eq⟩

end Placeholder

end PathTemplate
