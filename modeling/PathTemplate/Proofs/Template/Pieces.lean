/-
# Where pieces end

Each piece has a shape of its own, and it ends where the text does not go on
with more of it. Both are decided by the piece and the next character, so the
first piece of a text is found from its shape and its end
(`pieces_text_append`), and putting more text behind the rest does not change
it (`Piece.EndsBefore.append`).

Key definitions: `Piece.IsShaped`, `Piece.EndsBefore`.
Key theorems: `Piece.first_spec`, `Piece.first_text_append`, `pieces_text_append`,
`exists_text_append_of_ne_nil`, `spec_of_pieces_eq`.
-/
import PathTemplate.Piece
import PathTemplate.Proofs.Text.Runs

namespace PathTemplate

namespace Piece

/-- Whether a character, right behind a dollar sign, starts a placeholder with it. -/
def opens (c : Char) : Bool := isWordChar c || c == '{'

/-- What stands between the delimiters of a piece. -/
def IsShaped : Piece → Prop
  | literal cs => cs ≠ [] ∧ ∀ c ∈ cs, (decide (c ≠ '$')) = true
  | braced cs | unterminated cs => ∀ c ∈ cs, (decide (c ≠ '}')) = true
  | bare cs => cs ≠ [] ∧ ∀ c ∈ cs, isWordChar c = true
  | dollar => True

/-- Whether a piece ends where the text goes on with `rest`. -/
def EndsBefore (rest : List Char) : Piece → Prop
  | literal _ => StopsAt (· ≠ '$') rest
  | braced _ => True
  | unterminated _ => rest = []
  | bare _ => StopsAt isWordChar rest
  | dollar => StopsAt opens rest

theorem first_brace (cs : List Char) : first '$' ('{' :: cs) = ofOpenBrace cs := rfl

theorem first_dollar {cs : List Char} (hb : ∀ rest, cs ≠ '{' :: rest) :
    first '$' cs = ofDollar cs := by
  unfold first
  rw [if_pos rfl]
  split
  · exact absurd rfl (hb _)
  · rfl

theorem first_literal {c : Char} (hc : c ≠ '$') (cs : List Char) : first c cs =
    (literal (c :: cs.takeWhile (· ≠ '$')), cs.dropWhile (· ≠ '$')) := by
  unfold first
  exact if_neg hc

theorem forall_mem_takeWhile {p : Char → Bool} {cs : List Char} :
    ∀ c ∈ cs.takeWhile p, p c = true := fun _ hc => List.mem_takeWhile_imp hc

/-- A dollar sign alone is followed by nothing that would start a placeholder with it. -/
theorem stopsAt_opens {cs : List Char} (hb : ∀ rest, cs ≠ '{' :: rest)
    (hw : cs.takeWhile isWordChar = []) : StopsAt opens cs := by
  cases cs with
  | nil => nofun
  | cons c cs =>
    have hc : c ≠ '{' := fun h => hb cs (by rw [h])
    have hn : isWordChar c = false := by
      by_contra h
      simp [h] at hw
    rw [stopsAt_cons, opens, hn]
    simpa using hc

theorem ofOpenBrace_spec (cs : List Char) :
    (ofOpenBrace cs).1.IsShaped ∧ (ofOpenBrace cs).1.EndsBefore (ofOpenBrace cs).2 := by
  rw [ofOpenBrace]
  split
  · next h => exact ⟨fun c hc => List.dropWhile_eq_nil_iff.mp h c hc, rfl⟩
  · exact ⟨forall_mem_takeWhile, trivial⟩

theorem ofDollar_spec {cs : List Char} (hb : ∀ rest, cs ≠ '{' :: rest) :
    (ofDollar cs).1.IsShaped ∧ (ofDollar cs).1.EndsBefore (ofDollar cs).2 := by
  rw [ofDollar]
  split
  · next h => exact ⟨trivial, stopsAt_opens hb h⟩
  · next c name h =>
    exact ⟨⟨List.cons_ne_nil c name, h ▸ forall_mem_takeWhile⟩, stopsAt_dropWhile isWordChar cs⟩

/-- The first piece of a text has its shape and ends before what follows. -/
theorem first_spec (c : Char) (cs : List Char) :
    (first c cs).1.IsShaped ∧ (first c cs).1.EndsBefore (first c cs).2 := by
  by_cases hc : c = '$'
  · subst hc
    by_cases hb : ∃ rest, cs = '{' :: rest
    · obtain ⟨rest, rfl⟩ := hb
      exact ofOpenBrace_spec rest
    · have hb : ∀ rest, cs ≠ '{' :: rest := fun rest h => hb ⟨rest, h⟩
      rw [first_dollar hb]
      exact ofDollar_spec hb
  · rw [first_literal hc]
    refine ⟨⟨List.cons_ne_nil _ _, fun d hd => ?_⟩, stopsAt_dropWhile _ cs⟩
    rcases List.mem_cons.mp hd with rfl | hd
    · exact decide_eq_true hc
    · exact forall_mem_takeWhile d hd

/-- A piece is found again from its shape and from what follows it. -/
theorem first_text_append {p : Piece} {rest : List Char} (hp : p.IsShaped)
    (he : p.EndsBefore rest) :
    ∃ c cs, p.text ++ rest = c :: cs ∧ first c cs = (p, rest) := by
  cases p with
  | literal cs =>
    obtain ⟨hne, hcs⟩ := hp
    cases cs with
    | nil => exact absurd rfl hne
    | cons c cs =>
      have hc : c ≠ '$' := of_decide_eq_true (hcs c List.mem_cons_self)
      have hcs : ∀ d ∈ cs, decide (d ≠ '$') = true := fun d hd => hcs d (List.mem_cons_of_mem c hd)
      refine ⟨c, cs ++ rest, rfl, ?_⟩
      rw [first_literal hc, takeWhile_stop hcs he, dropWhile_stop hcs he]
  | braced cs =>
    have hstop : StopsAt (fun c => decide (c ≠ '}')) ('}' :: rest) := stopsAt_cons.mpr (by decide)
    refine ⟨'$', '{' :: (cs ++ '}' :: rest), by simp [text], ?_⟩
    rw [first_brace]
    simp only [ofOpenBrace, dropWhile_stop hp hstop, takeWhile_stop hp hstop]
  | unterminated cs =>
    have hrest : rest = [] := he
    have hcs : cs.dropWhile (fun c => decide (c ≠ '}')) = [] := List.dropWhile_eq_nil_iff.mpr hp
    refine ⟨'$', '{' :: cs, by simp [text, hrest], ?_⟩
    rw [first_brace]
    simp only [ofOpenBrace, hcs, hrest]
  | bare cs =>
    obtain ⟨hne, hcs⟩ := hp
    cases cs with
    | nil => exact absurd rfl hne
    | cons c cs =>
      have hb : ∀ more, c :: cs ++ rest ≠ '{' :: more := by
        intro more h
        obtain ⟨rfl, -⟩ := List.cons.inj h
        exact absurd (hcs '{' List.mem_cons_self) (by decide)
      refine ⟨'$', c :: cs ++ rest, rfl, ?_⟩
      rw [first_dollar hb, ofDollar, takeWhile_stop hcs he, dropWhile_stop hcs he]
  | dollar =>
    have hb : ∀ more, rest ≠ '{' :: more := by
      rintro more rfl
      exact absurd (stopsAt_cons.mp he) (by decide)
    have hw : rest.takeWhile isWordChar = [] := by
      cases rest with
      | nil => rfl
      | cons c rest =>
        have hc : opens c = false := stopsAt_cons.mp he
        rw [opens, Bool.or_eq_false_iff] at hc
        simp [hc.1]
    refine ⟨'$', rest, rfl, ?_⟩
    rw [first_dollar hb, ofDollar, hw]

theorem IsShaped.text_ne_nil {p : Piece} (hp : p.IsShaped) : p.text ≠ [] := by
  cases p with
  | literal cs => exact hp.1
  | braced | unterminated | bare | dollar => exact List.cons_ne_nil _ _

/-- At its end a text does not go on with any piece. -/
theorem endsBefore_nil (p : Piece) : p.EndsBefore [] := by
  cases p with
  | braced => trivial
  | unterminated => rfl
  | literal | bare | dollar => exact nofun

/-- Only the next character decides where a piece ends, unless nothing closes it. -/
theorem EndsBefore.append {p : Piece} {rest : List Char} (h : p.EndsBefore rest)
    (hne : rest ≠ []) (more : List Char) : p.EndsBefore (rest ++ more) := by
  cases p with
  | literal => exact StopsAt.append h fun he => absurd he hne
  | braced => trivial
  | unterminated => exact absurd h hne
  | bare => exact StopsAt.append h fun he => absurd he hne
  | dollar => exact StopsAt.append h fun he => absurd he hne

/-- A piece still ends where it did when the text is cut further on, in front of something. -/
theorem EndsBefore.of_append {p : Piece} {rest more : List Char} (h : p.EndsBefore (rest ++ more))
    (hmore : more ≠ []) : p.EndsBefore rest := by
  cases p with
  | literal => exact StopsAt.of_append h
  | braced => trivial
  | unterminated => exact absurd (List.append_eq_nil_iff.mp h).2 hmore
  | bare => exact StopsAt.of_append h
  | dollar => exact StopsAt.of_append h

end Piece

/-! ### The pieces of a text -/

/-- A text that begins with a piece, and does not go on with more of it, is cut behind it. -/
theorem pieces_text_append {p : Piece} {rest : List Char} (hp : p.IsShaped)
    (he : p.EndsBefore rest) : pieces (p.text ++ rest) = p :: pieces rest := by
  obtain ⟨c, cs, htext, hfirst⟩ := Piece.first_text_append hp he
  rw [htext, pieces, hfirst]

/-- A text that is not empty begins with a piece, and its other pieces are those of what follows. -/
theorem exists_text_append_of_ne_nil {cs : List Char} (h : cs ≠ []) :
    ∃ p rest, cs = Piece.text p ++ rest ∧ p.IsShaped ∧ p.EndsBefore rest ∧
      rest.length < cs.length := by
  cases cs with
  | nil => exact absurd rfl h
  | cons c cs =>
    obtain ⟨hshape, hends⟩ := Piece.first_spec c cs
    exact ⟨_, _, (Piece.first_text c cs).symm, hshape, hends, Piece.first_rest_length c cs⟩

/-- The pieces behind some first pieces of a text are those of the rest of it. -/
theorem pieces_of_eq_append {cs : List Char} {before after : List Piece}
    (h : pieces cs = before ++ after) : pieces (after.flatMap Piece.text) = after := by
  induction before generalizing cs with
  | nil => rw [← List.nil_append after, ← h, pieces_flatMap_text]
  | cons p before ih =>
    cases cs with
    | nil => simp [pieces] at h
    | cons c cs =>
      rw [pieces] at h
      exact ih (List.cons.inj h).2

/-- Every piece of a text has its shape and ends before the pieces behind it. -/
theorem spec_of_pieces_eq {cs : List Char} {before after : List Piece} {p : Piece}
    (h : pieces cs = before ++ p :: after) :
    p.IsShaped ∧ p.EndsBefore (after.flatMap Piece.text) := by
  have hrest := pieces_of_eq_append h
  have hne : (p :: after).flatMap Piece.text ≠ [] := by
    intro hnil
    rw [hnil, pieces] at hrest
    cases hrest
  obtain ⟨q, rest, hcs, hshape, hends, -⟩ := exists_text_append_of_ne_nil hne
  rw [hcs, pieces_text_append hshape hends] at hrest
  obtain ⟨rfl, rfl⟩ := List.cons.inj hrest
  rw [pieces_flatMap_text]
  exact ⟨hshape, hends⟩

theorem forall_isShaped_pieces (cs : List Char) : ∀ p ∈ pieces cs, p.IsShaped := by
  intro p hp
  obtain ⟨before, after, h⟩ := List.append_of_mem hp
  exact (spec_of_pieces_eq h).1

end PathTemplate
