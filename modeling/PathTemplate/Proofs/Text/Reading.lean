/-
# What readers take from a text

A reader that takes a text in front of what is left of it goes on with what is
left; readers one after another take texts one after another, and what they have
given says what they have taken. Numbers of a fixed width are taken as they are
written, whatever stands behind them.

Key definitions: `Reader.Reads`, `Reader.Gives`.
Key theorems: `Reads.bind_eq`, `Reads.bind`, `bind_eq_some_iff`, `exists_of_digits`, `Gives.bind`,
`Gives.many`, `reads_digits`.
-/
import PathTemplate.Proofs.Decimal.Digits
import PathTemplate.Proofs.Text.Runs
import PathTemplate.Text.Reader

namespace PathTemplate.Text.Reader

open Decimal

variable {α β : Type} {r : Reader α} {f : α → Reader β} {cs cs' rest : List Char} {a : α} {b : β}

/-- Whether a reader takes a text as a value when the text goes on with `rest`. -/
def Reads (r : Reader α) (cs : List Char) (a : α) (rest : List Char) : Prop :=
  r (cs ++ rest) = some (a, rest)

theorem bind_apply (r : Reader α) (f : α → Reader β) (cs : List Char) :
    (r >>= f) cs = (r cs).bind fun p => f p.1 p.2 := rfl

/-! ### Readers one after another -/

/-- The reader behind goes on with what is left. -/
theorem Reads.bind_eq (h : Reads r cs a rest) : (r >>= f) (cs ++ rest) = f a rest := by
  unfold Reads at h
  rw [bind_apply, h]
  rfl

/-- Readers one after another take texts one after another. -/
theorem Reads.bind (h : Reads r cs a (cs' ++ rest)) (h' : Reads (f a) cs' b rest) :
    Reads (r >>= f) (cs ++ cs') b rest := by
  unfold Reads
  rw [List.append_assoc, h.bind_eq]
  exact h'

/-- A reader behind that takes nothing. -/
theorem Reads.bind_nil (h : Reads r cs a rest) (h' : Reads (f a) [] b rest) :
    Reads (r >>= f) cs b rest := h.bind_eq.trans h'

/-- A reader in front that takes nothing. -/
theorem Reads.nil_bind (h : Reads r [] a (cs ++ rest)) (h' : Reads (f a) cs b rest) :
    Reads (r >>= f) cs b rest := h.bind_eq.trans h'

theorem bind_eq_none (h : r cs = none) : (r >>= f) cs = none := by
  rw [bind_apply, h]
  rfl

theorem Reads.whole_eq (h : Reads r cs a []) : r.whole cs = some a := by
  unfold Reads at h
  rw [List.append_nil] at h
  rw [whole, h]

theorem whole_eq_none (h : r cs = none) : r.whole cs = none := by
  rw [whole, h]

/-! ### What has been taken -/

theorem bind_eq_some_iff {p : β × List Char} :
    (r >>= f) cs = some p ↔ ∃ a rest, r cs = some (a, rest) ∧ f a rest = some p := by
  rw [bind_apply, Option.bind_eq_some_iff, Prod.exists]

theorem whole_eq_some_iff : r.whole cs = some a ↔ r cs = some (a, []) := by
  unfold whole
  split
  · next h => rw [h, Option.some.injEq, Option.some.injEq, Prod.mk.injEq, and_iff_left rfl]
  · next h => exact ⟨nofun, fun heq => absurd heq (h a)⟩

theorem eq_cons_of_charOf {p : Char → Bool} {c : Char} (h : charOf p cs = some (c, rest)) :
    cs = c :: rest ∧ p c = true := by
  unfold charOf at h
  split at h
  · cases h
  · split at h
    · next hp =>
      cases h
      exact ⟨rfl, hp⟩
    · cases h

theorem eq_cons_of_char {c : Char} {u : Unit} (h : char c cs = some (u, rest)) : cs = c :: rest := by
  obtain ⟨d, rest', hd, hrest⟩ := bind_eq_some_iff.mp h
  cases hrest
  obtain ⟨rfl, hc⟩ := eq_cons_of_charOf hd
  rw [eq_of_beq hc]

/-- A number is taken from digits, of which there are enough. -/
theorem exists_of_digits {least most n : Nat} (h : digits least most cs = some (n, rest)) :
    ∃ ds, cs = ds ++ rest ∧ least ≤ ds.length ∧ ∀ d ∈ ds, d.isDigit = true := by
  unfold digits at h
  simp only at h
  split at h
  · cases h
  · next hlen =>
    cases h
    refine ⟨(cs.take most).takeWhile Char.isDigit, ?_, Nat.not_lt.mp hlen,
      fun _ => List.mem_takeWhile_imp⟩
    have hprefix : (cs.take most).takeWhile Char.isDigit <+: cs :=
      (List.takeWhile_prefix _).trans (List.take_prefix most cs)
    exact (List.prefix_iff_eq_append.mp hprefix).symm

/-! ### What can be given -/

/-- Whether everything that a reader gives meets a condition. -/
def Gives (P : α → Prop) (r : Reader α) : Prop := ∀ cs a rest, r cs = some (a, rest) → P a

section

variable {P : α → Prop} {Q : β → Prop}

theorem Gives.bind (h : Gives P r) (h' : ∀ a, P a → Gives Q (f a)) : Gives Q (r >>= f) := by
  intro cs b rest hb
  obtain ⟨a, cs', ha, hb⟩ := bind_eq_some_iff.mp hb
  exact h' a (h cs a cs' ha) cs' b rest hb

/-- What stands in front does not matter if the rest gives what it should whatever that is. -/
theorem gives_bind (h : ∀ a, Gives Q (f a)) : Gives Q (r >>= f) := by
  intro cs b rest hb
  obtain ⟨a, cs', -, hb⟩ := bind_eq_some_iff.mp hb
  exact h a cs' b rest hb

theorem gives_pure (h : P a) : Gives P (pure a : Reader α) := by
  intro cs b rest hb
  cases hb
  exact h

theorem gives_failure : Gives P (failure : Reader α) := nofun

theorem Gives.map {g : α → β} (h : Gives P r) (h' : ∀ a, P a → Q (g a)) : Gives Q (g <$> r) := by
  intro cs b rest hb
  obtain ⟨⟨a, cs'⟩, ha, hg⟩ := Option.bind_eq_some_iff.mp hb
  cases hg
  exact h' a (h cs a rest ha)

theorem gives_map {g : α → β} (h : ∀ a, Q (g a)) : Gives Q (g <$> r) := by
  intro cs b rest hb
  obtain ⟨⟨a, cs'⟩, -, hg⟩ := Option.bind_eq_some_iff.mp hb
  cases hg
  exact h a

theorem Gives.orElse {s : Reader α} (h : Gives P r) (h' : Gives P s) : Gives P (r <|> s) := by
  intro cs a rest ha
  have ha : (r cs <|> s cs) = some (a, rest) := ha
  cases hr : r cs with
  | none =>
    rw [hr] at ha
    exact h' cs a rest ha
  | some p =>
    rw [hr] at ha
    cases ha
    exact h cs a rest hr

theorem gives_bounded {r : Nat → Reader α} (h : ∀ n, Gives P (r n)) : Gives P (bounded r) :=
  fun cs => h cs.length cs

theorem Gives.manyUpTo (h : Gives P r) (n : Nat) : Gives (∀ a ∈ ·, P a) (manyUpTo r n) := by
  induction n with
  | zero => exact gives_pure nofun
  | succ n ih =>
    intro cs as rest has
    simp only [Reader.manyUpTo] at has
    split at has
    · cases has
      exact nofun
    · next a cs' ha =>
      obtain ⟨⟨as', rest'⟩, has', heq⟩ := Option.bind_eq_some_iff.mp has
      cases heq
      exact List.forall_mem_cons.mpr ⟨h cs a cs' ha, ih cs' as' rest' has'⟩

/-- A reader that is used again and again gives nothing but what it gives once. -/
theorem Gives.many (h : Gives P r) : Gives (∀ a ∈ ·, P a) (many r) := gives_bounded h.manyUpTo

theorem Gives.of_whole (h : Gives P r) (hw : r.whole cs = some a) : P a :=
  h cs a [] (whole_eq_some_iff.mp hw)

end

/-! ### Single readers -/

/-- Looking at what is left takes nothing. -/
theorem get_bind_eq (f : List Char → Reader β) (cs : List Char) :
    ((get : Reader (List Char)) >>= f) cs = f cs cs := rfl

/-- Behind a text that is put in place the text goes on. -/
theorem set_bind_eq (f : PUnit → Reader β) (cs cs' : List Char) :
    ((set cs' : Reader PUnit) >>= f) cs = f ⟨⟩ cs' := rfl

theorem reads_pure (a : α) (rest : List Char) : Reads (pure a) [] a rest := rfl

theorem reads_accept {p : Bool} (hp : p = true) (a : α) (rest : List Char) :
    Reads (accept p a) [] a rest := by
  unfold Reads accept
  rw [if_pos hp]
  rfl

theorem reads_charOf {p : Char → Bool} {c : Char} (hc : p c = true) (rest : List Char) :
    Reads (charOf p) [c] c rest := by
  change (if p c = true then some (c, rest) else none) = some (c, rest)
  rw [if_pos hc]

theorem reads_char (c : Char) (rest : List Char) : Reads (char c) [c] () rest :=
  Reads.bind_nil (reads_charOf (beq_self_eq_true c) rest) (reads_pure () rest)

theorem char_eq_none {c d : Char} (h : d ≠ c) (rest : List Char) : char c (d :: rest) = none := by
  refine bind_eq_none ?_
  change (if (d == c) = true then some (d, rest) else none) = none
  rw [if_neg (by simpa using h)]

/-- Behind a character that is looked for the text goes on. -/
theorem char_bind_eq {f : Unit → Reader β} (c : Char) (rest : List Char) :
    (char c >>= f) (c :: rest) = f () rest := (reads_char c rest).bind_eq

/-- Behind a character of a class the text goes on. -/
theorem charOf_bind_eq {f : Char → Reader β} {p : Char → Bool} {c : Char} (hc : p c = true)
    (rest : List Char) : (charOf p >>= f) (c :: rest) = f c rest := (reads_charOf hc rest).bind_eq

theorem Reads.char_bind {f : Unit → Reader β} {c : Char} (h : Reads (f ()) cs b rest) :
    Reads (char c >>= f) (c :: cs) b rest := (char_bind_eq c (cs ++ rest)).trans h

theorem Reads.charOf_bind {f : Char → Reader β} {p : Char → Bool} {c : Char} (hc : p c = true)
    (h : Reads (f c) cs b rest) : Reads (charOf p >>= f) (c :: cs) b rest :=
  (charOf_bind_eq hc (cs ++ rest)).trans h

/-- Digits in fixed number are taken as the number that they write. -/
theorem reads_digits {least width n : Nat} (hleast : least ≤ width) (hw : 0 < width)
    (hn : n < tenTo width) (rest : List Char) :
    Reads (digits least width) (zeroPadded width n) n rest := by
  have hlen := length_zeroPadded hw hn
  have htake : (zeroPadded width n ++ rest).take width = zeroPadded width n := by
    rw [List.take_left' hlen]
  have hrun : (zeroPadded width n).takeWhile Char.isDigit = zeroPadded width n :=
    List.takeWhile_eq_self_iff.mpr fun _ => isDigit_of_mem_zeroPadded
  unfold Reads digits
  simp only [htake, hrun, hlen, Nat.not_lt.mpr hleast, if_false, digitsValue_zeroPadded,
    List.drop_left' hlen]

end PathTemplate.Text.Reader
