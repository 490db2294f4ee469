/-
# Pieces are longest matches

Five rules say what a piece can be: text without a dollar sign, `${...}` up to its
brace, `${` with no brace behind it, a dollar sign with a name, and a dollar sign
alone. Where a piece starts several of them match, and `${...}` begins with a match
of the rule for a missing brace at every length; the longest match decides. A piece
that has its shape, and ends where the text does not go on with it, is the longest
match there (`Piece.isLongest`), and no other match is as long
(`IsLongest.unique`). So the pieces of a text are the only way to lay it out in
longest matches (`isTiling_iff`).

Key definitions: `PieceRule`, `PieceRule.Matches`, `IsLongest`, `IsTiling`.
Key theorems: `PieceRule.matches_iff`, `Piece.isLongest`, `IsLongest.unique`, `isTiling_iff`,
`pieces_longest_match`.
-/
import PathTemplate.Proofs.Template.Pieces
import PathTemplate.Proofs.Text.Edges

namespace PathTemplate

/-- What a piece can be. -/
inductive PieceRule
  /-- Text without a dollar sign. -/
  | literal
  /-- `${` and all up to the first brace. -/
  | braced
  /-- `${` and what has no brace in it. -/
  | unterminated
  /-- A dollar sign and word characters. -/
  | bare
  /-- A dollar sign. -/
  | dollar
deriving DecidableEq, Repr

/-- Whether a rule matches a text as a whole. -/
def PieceRule.Matches : PieceRule → List Char → Prop
  | literal, cs => cs ≠ [] ∧ '$' ∉ cs
  | braced, cs => ∃ interior, '}' ∉ interior ∧ cs = '$' :: '{' :: (interior ++ ['}'])
  | unterminated, cs => ∃ interior, '}' ∉ interior ∧ cs = '$' :: '{' :: interior
  | bare, cs => ∃ name, name ≠ [] ∧ (∀ c ∈ name, isWordChar c = true) ∧ cs = '$' :: name
  | dollar, cs => cs = ['$']

/-- The rule that a piece comes under. -/
def Piece.rule : Piece → PieceRule
  | literal _ => .literal
  | braced _ => .braced
  | unterminated _ => .unterminated
  | bare _ => .bare
  | dollar => .dollar

/-- Whether a rule matches `front`, and no rule matches more of the text `front ++ rest` from its
start. -/
structure IsLongest (r : PieceRule) (front rest : List Char) : Prop where
  matched : r.Matches front
  longest : ∀ (s : PieceRule) front' rest', s.Matches front' → front' ++ rest' = front ++ rest →
    front'.length ≤ front.length

/-- Whether a place under a rule is that of a longest match in a text. -/
def IsTile (text : List Char) (t : Located PieceRule) : Prop :=
  ∃ before front rest, text = before ++ (front ++ rest) ∧
    t.span = ⟨utf8Width before, utf8Width before + utf8Width front⟩ ∧ IsLongest t.node front rest

/-- Whether places under rules lay out a text in longest matches from its start to its end. -/
structure IsTiling (text : List Char) (ts : List (Located PieceRule)) : Prop where
  consecutive : AreConsecutive (utf8Width text) 0 (ts.map Located.span)
  longest : ∀ t ∈ ts, IsTile text t

/-! ### Matches -/

/-- A rule matches what a piece under it has for text. -/
theorem PieceRule.matches_iff {r : PieceRule} {cs : List Char} :
    r.Matches cs ↔ ∃ p : Piece, p.IsShaped ∧ p.rule = r ∧ p.text = cs := by
  constructor
  · intro h
    cases r with
    | literal => exact ⟨.literal cs, ⟨h.1, forall_ne_iff.mpr h.2⟩, rfl, rfl⟩
    | braced =>
      obtain ⟨interior, hmem, rfl⟩ := h
      exact ⟨.braced interior, forall_ne_iff.mpr hmem, rfl, rfl⟩
    | unterminated =>
      obtain ⟨interior, hmem, rfl⟩ := h
      exact ⟨.unterminated interior, forall_ne_iff.mpr hmem, rfl, rfl⟩
    | bare =>
      obtain ⟨name, hne, hname, rfl⟩ := h
      exact ⟨.bare name, ⟨hne, hname⟩, rfl, rfl⟩
    | dollar => exact ⟨.dollar, trivial, rfl, h.symm⟩
  · rintro ⟨p, hp, rfl, rfl⟩
    cases p with
    | literal cs => exact ⟨hp.1, forall_ne_iff.mp hp.2⟩
    | braced interior => exact ⟨interior, forall_ne_iff.mp hp, rfl⟩
    | unterminated interior => exact ⟨interior, forall_ne_iff.mp hp, rfl⟩
    | bare name => exact ⟨name, hp.1, hp.2, rfl⟩
    | dollar => rfl

/-- The text of a piece is one piece. -/
theorem Piece.IsShaped.pieces_text {p : Piece} (hp : p.IsShaped) : pieces p.text = [p] := by
  have h := pieces_text_append hp p.endsBefore_nil
  rw [List.append_nil, pieces] at h
  exact h

/-- **A piece is the longest match where it starts.** -/
theorem Piece.isLongest {p : Piece} {rest : List Char} (hp : p.IsShaped) (he : p.EndsBefore rest) :
    IsLongest p.rule p.text rest := by
  refine ⟨PieceRule.matches_iff.mpr ⟨p, hp, rfl, rfl⟩, fun s front rest' hs h => ?_⟩
  obtain ⟨q, hq, -, rfl⟩ := PieceRule.matches_iff.mp hs
  rcases List.append_eq_append_iff.mp h with ⟨more, htext, -⟩ | ⟨more, htext, hrest⟩
  · rw [htext, List.length_append]
    exact Nat.le_add_right _ _
  · -- a longer match would be cut in two where the piece ends
    have hmore : p.EndsBefore more := by
      by_cases hrest' : rest' = []
      · rwa [hrest, hrest', List.append_nil] at he
      · rw [hrest] at he
        exact he.of_append hrest'
    have hcut : [q] = p :: pieces more := by
      rw [← hq.pieces_text, htext, pieces_text_append hp hmore]
    have hnil : more = [] := by
      rw [← pieces_flatMap_text more, ← (List.cons.inj hcut).2]
      rfl
    rw [htext, hnil, List.append_nil]

/-- **There is one longest match**, and one rule that gives it. -/
theorem IsLongest.unique {r s : PieceRule} {front front' rest rest' : List Char}
    (h : IsLongest r front rest) (h' : IsLongest s front' rest')
    (htext : front ++ rest = front' ++ rest') : r = s ∧ front = front' ∧ rest = rest' := by
  have hlen : front.length = front'.length :=
    Nat.le_antisymm (h'.longest r front rest h.matched htext)
      (h.longest s front' rest' h'.matched htext.symm)
  obtain ⟨hfront, hrest⟩ := List.append_inj htext hlen
  obtain ⟨p, hp, rfl, hptext⟩ := PieceRule.matches_iff.mp h.matched
  obtain ⟨q, hq, rfl, hqtext⟩ := PieceRule.matches_iff.mp h'.matched
  have hpieces : [p] = [q] := by
    rw [← hp.pieces_text, ← hq.pieces_text, hptext, hqtext, hfront]
  rw [(List.cons.inj hpieces).1]
  exact ⟨rfl, hfront, hrest⟩

/-! ### Tilings -/

/-- A rule at the place of a piece. -/
def Located.rule (p : Located Piece) : Located PieceRule := ⟨p.node.rule, p.span⟩

variable {done cs front rest : List Char} {r : PieceRule} {t : Located PieceRule}
  {ts : List (Located PieceRule)}

theorem IsLongest.ne_nil (h : IsLongest r front rest) : front ≠ [] := by
  obtain ⟨p, hp, -, rfl⟩ := PieceRule.matches_iff.mp h.matched
  exact hp.text_ne_nil

/-- A tile that starts behind `done` is the longest match there. -/
theorem IsTile.exists_front (h : IsTile (done ++ cs) t) (hstart : t.span.start = utf8Width done) :
    ∃ front rest, cs = front ++ rest ∧
      t.span = ⟨utf8Width done, utf8Width done + utf8Width front⟩ ∧
      IsLongest t.node front rest := by
  obtain ⟨before, front, rest, htext, hspan, hlongest⟩ := h
  rw [hspan] at hstart
  obtain ⟨rfl, hcs⟩ := append_inj_of_utf8Width htext hstart.symm
  exact ⟨front, rest, hcs, hspan, hlongest⟩

/-- Whether the text behind `done` is laid out in longest matches. -/
def TilesBehind (done cs : List Char) (ts : List (Located PieceRule)) : Prop :=
  AreConsecutive (utf8Width (done ++ cs)) (utf8Width done) (ts.map Located.span) ∧
    ∀ t ∈ ts, IsTile (done ++ cs) t

theorem tilesBehind_nil_iff : TilesBehind done [] ts ↔ ts = [] := by
  constructor
  · rintro ⟨hconsecutive, hlongest⟩
    cases ts with
    | nil => rfl
    | cons t ts =>
      obtain ⟨front, rest, hcs, -, ht⟩ :=
        (hlongest t List.mem_cons_self).exists_front hconsecutive.1
      exact absurd (List.append_eq_nil_iff.mp hcs.symm).1 ht.ne_nil
  · rintro rfl
    refine ⟨?_, nofun⟩
    rw [List.append_nil]
    rfl

/-- A tiling begins with the longest match, and goes on behind it. -/
theorem tilesBehind_append_iff (h : IsLongest r front rest) :
    TilesBehind done (front ++ rest) ts ↔
      ∃ us, ts = ⟨r, utf8Width done, utf8Width done + utf8Width front⟩ :: us ∧
        TilesBehind (done ++ front) rest us := by
  have hpos := utf8Width_pos h.ne_nil
  unfold TilesBehind
  rw [List.append_assoc, utf8Width_append done front]
  constructor
  · rintro ⟨hconsecutive, hlongest⟩
    cases ts with
    | nil =>
      have hend : utf8Width done = utf8Width (done ++ (front ++ rest)) := hconsecutive
      rw [utf8Width_append, utf8Width_append] at hend
      omega
    | cons t us =>
      obtain ⟨hstart, -, hbehind⟩ := hconsecutive
      obtain ⟨ht, hus⟩ := List.forall_mem_cons.mp hlongest
      obtain ⟨front', rest', hcs, hspan, hfirst⟩ := ht.exists_front hstart
      obtain ⟨hr, rfl, rfl⟩ := h.unique hfirst hcs
      refine ⟨us, ?_, ?_, hus⟩
      · obtain ⟨node, span⟩ := t
        rw [hr, ← hspan]
      · rwa [hspan] at hbehind
  · rintro ⟨us, rfl, hbehind, hus⟩
    refine ⟨⟨rfl, ?_, hbehind⟩, List.forall_mem_cons.mpr ⟨?_, hus⟩⟩
    · exact Nat.lt_add_of_pos_right hpos
    · exact ⟨done, front, rest, rfl, rfl, h⟩

/-- The text behind `done` is laid out by its pieces, and by nothing else. -/
theorem tilesBehind_iff : TilesBehind done cs ts ↔
    ts = (layOut Piece.width (utf8Width done) (pieces cs)).map Located.rule := by
  induction cs using pieces.induct generalizing done ts with
  | case1 =>
    rw [pieces]
    exact tilesBehind_nil_iff
  | case2 c cs ih =>
    obtain ⟨hshape, hends⟩ := Piece.first_spec c cs
    have hplace : utf8Width (done ++ (Piece.first c cs).1.text) =
        utf8Width done + (Piece.first c cs).1.width := utf8Width_append _ _
    have hfirst : TilesBehind done _ ts ↔ _ :=
      tilesBehind_append_iff (Piece.isLongest hshape hends)
    rw [Piece.first_text] at hfirst
    simp only [hfirst, ih, hplace, exists_eq_right]
    rw [pieces, layOut, List.map_cons]
    rfl

/-- **The pieces of a text are the only way to lay it out in longest matches.** -/
theorem isTiling_iff {text : List Char} :
    IsTiling text ts ↔ ts = (locatedPieces text).map Located.rule := by
  rw [locatedPieces, ← utf8Width_nil, ← tilesBehind_iff]
  exact ⟨fun h => ⟨h.consecutive, h.longest⟩, fun h => ⟨h.1, h.2⟩⟩

/-! ### The first piece of a text -/

theorem pieces_literal {c : Char} (hc : c ≠ '$') (cs : List Char) : pieces (c :: cs) =
    .literal (c :: cs.takeWhile (· ≠ '$')) :: pieces (cs.dropWhile (· ≠ '$')) := by
  rw [pieces, Piece.first_literal hc]

theorem pieces_braced_append {interior : List Char} (h : '}' ∉ interior) (rest : List Char) :
    pieces ('$' :: '{' :: (interior ++ '}' :: rest)) = .braced interior :: pieces rest := by
  have hshape : (Piece.braced interior).IsShaped := forall_ne_iff.mpr h
  have hends : (Piece.braced interior).EndsBefore rest := trivial
  have hpieces := pieces_text_append hshape hends
  simpa [Piece.text] using hpieces

theorem pieces_unterminated {interior : List Char} (h : '}' ∉ interior) :
    pieces ('$' :: '{' :: interior) = [.unterminated interior] :=
  Piece.IsShaped.pieces_text (p := .unterminated interior) (forall_ne_iff.mpr h)

theorem pieces_bare_append {name rest : List Char} (hne : name ≠ [])
    (hname : ∀ c ∈ name, isWordChar c = true) (hrest : StopsAt isWordChar rest) :
    pieces ('$' :: (name ++ rest)) = .bare name :: pieces rest :=
  pieces_text_append (p := .bare name) ⟨hne, hname⟩ hrest

theorem pieces_dollar {rest : List Char} (h : StopsAt Piece.opens rest) :
    pieces ('$' :: rest) = .dollar :: pieces rest :=
  pieces_text_append (p := .dollar) trivial h

/-- Text without a dollar sign is one piece up to the next. -/
theorem not_literal_literal {text : List Char} {before after : List Piece} {p q : Piece}
    (h : pieces text = before ++ p :: q :: after) : ¬ (p.rule = .literal ∧ q.rule = .literal) := by
  rintro ⟨hp, hq⟩
  have hends := (spec_of_pieces_eq h).2
  have hshape : q.IsShaped := forall_isShaped_pieces text q (by simp [h])
  cases p with
  | literal as =>
    cases q with
    | literal bs =>
      obtain ⟨b, bs, rfl⟩ := List.exists_cons_of_ne_nil hshape.1
      have hstop : decide (b ≠ '$') = false := hends b rfl
      rw [hshape.2 b List.mem_cons_self] at hstop
      cases hstop
    | braced | unterminated | bare | dollar => cases hq
  | braced | unterminated | bare | dollar => cases hp

/-- What no brace closes goes to the end of the text. -/
theorem eq_nil_of_unterminated {text : List Char} {before after : List Piece} {p : Piece}
    (h : pieces text = before ++ p :: after) (hp : p.rule = .unterminated) : after = [] := by
  have hends := (spec_of_pieces_eq h).2
  have hcut : pieces text = (before ++ [p]) ++ after := by simpa using h
  have hafter := pieces_of_eq_append hcut
  cases p with
  | unterminated interior =>
    have hnil : after.flatMap Piece.text = [] := hends
    rw [hnil, pieces] at hafter
    exact hafter.symm
  | literal | braced | bare | dollar => cases hp

/-- **Templates are cut by maximal munch.** The places and the rules of the pieces are the only way
to lay out a text in consecutive places, none of them empty, each of which is the longest match of
any rule where it starts and stands under a rule that matches it. A rule matches wherever there is
text left, so no character is without one. Text without a dollar sign runs to the next one or to the
end; `${` runs through the first brace, or to the end without one; a dollar sign takes all word
characters behind it, and stands alone without any. Only the last piece can want its brace, and no
two pieces without a dollar sign stand side by side. -/
theorem pieces_longest_match (text : List Char) :
    (∀ ts, IsTiling text ts ↔ ts = (locatedPieces text).map Located.rule) ∧
      (∀ p ∈ locatedPieces text, ∃ before, p.span.Shows text 0 before p.node.text) ∧
      (∀ cs : List Char, cs ≠ [] → ∃ r front rest, cs = front ++ rest ∧ IsLongest r front rest) ∧
      (∀ c cs, c ≠ '$' → pieces (c :: cs) =
        .literal (c :: cs.takeWhile (· ≠ '$')) :: pieces (cs.dropWhile (· ≠ '$'))) ∧
      (∀ interior rest, '}' ∉ interior →
        pieces ('$' :: '{' :: (interior ++ '}' :: rest)) = .braced interior :: pieces rest) ∧
      (∀ interior, '}' ∉ interior →
        pieces ('$' :: '{' :: interior) = [.unterminated interior]) ∧
      (∀ name rest, name ≠ [] → (∀ c ∈ name, isWordChar c = true) →
        (∀ c ∈ rest.head?, isWordChar c = false) →
        pieces ('$' :: (name ++ rest)) = .bare name :: pieces rest) ∧
      (∀ rest : List Char, (∀ c ∈ rest.head?, isWordChar c = false ∧ c ≠ '{') →
        pieces ('$' :: rest) = .dollar :: pieces rest) ∧
      (∀ before p after, pieces text = before ++ p :: after → p.rule = .unterminated →
        after = []) ∧
      ∀ before p q after, pieces text = before ++ p :: q :: after →
        ¬ (p.rule = .literal ∧ q.rule = .literal) := by
  refine ⟨fun _ => isTiling_iff, fun p hp => ?_, fun cs hcs => ?_, fun _ cs hc => pieces_literal hc cs,
    fun _ rest h => pieces_braced_append h rest, fun _ h => pieces_unterminated h,
    fun _ _ hne hname hrest => pieces_bare_append hne hname hrest, fun rest hrest => ?_,
    fun _ _ _ h hp => eq_nil_of_unterminated h hp, fun _ _ _ _ h => not_literal_literal h⟩
  · have hwidth : ∀ q : Piece, q.width = utf8Width q.text := fun _ => rfl
    have hshows := shows_of_mem_layOut hwidth 0 [] (pieces text) p hp
    rwa [List.nil_append, pieces_flatMap_text] at hshows
  · obtain ⟨p, rest, rfl, hshape, hends, -⟩ := exists_text_append_of_ne_nil hcs
    exact ⟨p.rule, p.text, rest, rfl, Piece.isLongest hshape hends⟩
  · refine pieces_dollar fun c hc => ?_
    obtain ⟨hword, hbrace⟩ := hrest c hc
    simp [Piece.opens, hword, hbrace]

end PathTemplate
