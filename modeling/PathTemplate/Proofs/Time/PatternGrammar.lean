/-
# The grammar of time patterns

    pattern = (character | specifier)*

A character is any but the percent sign, and a specifier starts with one. No
specifier is the start of another, so a pattern in front of more text is read as
it stands (`IsWritten.items_append`), and a text is no pattern exactly if a
pattern stands in it in front of a percent sign that starts no specifier
(`items_eq_none_iff`).

The items of a pattern can be written for every time or for none: the offset in
any spelling has no text, and all other items do (`write_eq_none_iff`).

Key definitions: `IsSpecifier`, `IsWritten`, `IsBroken`.
Key theorems: `items_eq_some_iff`, `items_eq_none_iff`, `write_eq_none_iff`.
-/
import PathTemplate.Time.Pattern

namespace PathTemplate.Time.Pattern

/-! ### Specifiers -/

/-- A specifier, and the items that it asks for. -/
inductive IsSpecifier : List Char → List Item → Prop
  /-- A letter by itself. -/
  | letter {c is} (h : itemsOfLetter c = some is) : IsSpecifier ['%', c] is
  /-- A number with a padding of its own. -/
  | padded {mark padding c field usual}
    (hmark : (mark, padding) ∈ [('-', Padding.none), ('_', .space), ('0', .zero)])
    (h : numberOfLetter c = some (field, usual)) :
    IsSpecifier ['%', mark, c] [.number field padding]
  /-- Digits of the fraction, behind a point or not. -/
  | digits {d count} (hcount : (d, count) ∈ [('3', 3), ('6', 6), ('9', 9)]) (point : Bool) :
    IsSpecifier ('%' :: ((if point then ['.'] else []) ++ [d, 'f'])) [.text (.digits count point)]
  | fraction : IsSpecifier ['%', '.', 'f'] [.text .fraction]
  | offset : IsSpecifier ['%', ':', 'z'] [.text (.offset true)]
  | offsetSeconds : IsSpecifier ['%', ':', ':', 'z'] [.text .offsetSeconds]
  | offsetHours : IsSpecifier ['%', ':', ':', ':', 'z'] [.text .offsetHours]
  /-- The offset in any spelling, which can only be read. -/
  | offsetAny : IsSpecifier ['%', '#', 'z'] [.text .offsetAny]

variable {spec as cs : List Char} {js is : List Item} {c : Char}

/-- The characters behind a percent sign that more of the specifier must follow. -/
def isMark (c : Char) : Bool := ['-', '_', '0', '#', ':', '.', '3', '6', '9'].contains c

theorem isMark_of_itemsOfLetter (h : itemsOfLetter c = some is) : isMark c = false := by
  refine eq_false_of_ne_true fun hmark => ?_
  simp only [isMark, List.contains_iff_mem, List.mem_cons, List.not_mem_nil, or_false] at hmark
  rcases hmark with rfl | rfl | rfl | rfl | rfl | rfl | rfl | rfl | rfl <;> cases h

/-- A letter that is a specifier by itself starts no other one. -/
theorem items_letter (h : itemsOfLetter c = some is) (cs : List Char) :
    items ('%' :: c :: cs) = (is ++ ·) <$> items cs := by
  have hmark := isMark_of_itemsOfLetter h
  rw [items, h]
  · cases items cs <;> rfl
  all_goals
    intros
    subst c
    cases hmark

/-- **A specifier in front of more text is read as it stands.** -/
theorem IsSpecifier.items_append (h : IsSpecifier spec js) (cs : List Char) :
    items (spec ++ cs) = (js ++ ·) <$> items cs := by
  cases h with
  | letter h => exact items_letter h cs
  | @padded mark padding c field usual hmark h =>
    have hitem : paddedItem padding c = some (.number field padding) := by
      rw [paddedItem, h]
      rfl
    simp only [List.mem_cons, Prod.mk.injEq, List.not_mem_nil, or_false] at hmark
    rcases hmark with ⟨rfl, rfl⟩ | ⟨rfl, rfl⟩ | ⟨rfl, rfl⟩
    all_goals
      simp only [List.cons_append, List.nil_append, items, hitem]
      cases items cs <;> rfl
  | digits hcount point =>
    simp only [List.mem_cons, Prod.mk.injEq, List.not_mem_nil, or_false] at hcount
    rcases hcount with ⟨rfl, rfl⟩ | ⟨rfl, rfl⟩ | ⟨rfl, rfl⟩
    all_goals
      cases point
      all_goals
        simp only [List.cons_append, List.nil_append, if_true, Bool.false_eq_true, if_false, items]
        cases items cs <;> rfl
  | fraction | offset | offsetSeconds | offsetHours | offsetAny =>
    simp only [List.cons_append, List.nil_append, items]
    cases items cs <;> rfl

/-- **What is read behind a percent sign starts with a specifier.** -/
theorem exists_isSpecifier (h : items ('%' :: cs) = some is) : ∃ spec js rest ks,
    IsSpecifier spec js ∧ '%' :: cs = spec ++ rest ∧ items rest = some ks ∧ is = js ++ ks := by
  have hone {spec rest : List Char} {i : Item} (hspec : IsSpecifier spec [i])
      (hcut : '%' :: cs = spec ++ rest) (h : (do return i :: (← items rest)) = some is) :
      ∃ spec js rest ks, IsSpecifier spec js ∧ '%' :: cs = spec ++ rest ∧
        items rest = some ks ∧ is = js ++ ks := by
    obtain ⟨ks, hks, his⟩ := Option.bind_eq_some_iff.mp h
    exact ⟨spec, [i], rest, ks, hspec, hcut, hks, (Option.some.inj his).symm⟩
  have hpadded {mark c : Char} {padding : Padding} {rest : List Char}
      (hmark : (mark, padding) ∈ [('-', Padding.none), ('_', .space), ('0', .zero)])
      (hcut : '%' :: cs = '%' :: mark :: c :: rest)
      (h : (do return (← paddedItem padding c) :: (← items rest)) = some is) :
      ∃ spec js rest ks, IsSpecifier spec js ∧ '%' :: cs = spec ++ rest ∧
        items rest = some ks ∧ is = js ++ ks := by
    obtain ⟨i, hitem, h⟩ := Option.bind_eq_some_iff.mp h
    obtain ⟨⟨field, usual⟩, hletter, rfl⟩ := Option.map_eq_some_iff.mp hitem
    exact hone (.padded hmark hletter) hcut h
  unfold items at h
  split at h
  · next hnil => cases hnil
  · next hcut => exact hpadded (by decide) hcut h
  · next hcut => exact hpadded (by decide) hcut h
  · next hcut => exact hpadded (by decide) hcut h
  · next hcut => exact hone .offsetAny hcut h
  · next hcut => exact hone .offset hcut h
  · next hcut => exact hone .offsetSeconds hcut h
  · next hcut => exact hone .offsetHours hcut h
  · next hcut => exact hone .fraction hcut h
  · next hcut => exact hone (@IsSpecifier.digits '3' 3 (by decide) true) hcut h
  · next hcut => exact hone (@IsSpecifier.digits '6' 6 (by decide) true) hcut h
  · next hcut => exact hone (@IsSpecifier.digits '9' 9 (by decide) true) hcut h
  · next hcut => exact hone (@IsSpecifier.digits '3' 3 (by decide) false) hcut h
  · next hcut => exact hone (@IsSpecifier.digits '6' 6 (by decide) false) hcut h
  · next hcut => exact hone (@IsSpecifier.digits '9' 9 (by decide) false) hcut h
  · next c rest _ _ _ _ _ _ _ _ _ _ _ _ _ _ hcut =>
    obtain ⟨js, hjs, h⟩ := Option.bind_eq_some_iff.mp h
    obtain ⟨ks, hks, his⟩ := Option.bind_eq_some_iff.mp h
    exact ⟨_, js, rest, ks, .letter hjs, hcut, hks, (Option.some.inj his).symm⟩
  · cases h
  · next hletter hend hcut =>
    obtain ⟨rfl, rfl⟩ := List.cons.inj hcut
    cases cs with
    | nil => exact (hend rfl rfl).elim
    | cons c cs => exact (hletter c cs rfl rfl).elim

/-! ### Patterns -/

/-- A pattern, and the items that it asks for. -/
inductive IsWritten : List Char → List Item → Prop
  | nil : IsWritten [] []
  | character {c : Char} {rest : List Char} {ks : List Item} (hc : c ≠ '%') (h : IsWritten rest ks) :
    IsWritten (c :: rest) (.literal c :: ks)
  | specifier {spec rest : List Char} {js ks : List Item} (hspec : IsSpecifier spec js)
    (h : IsWritten rest ks) : IsWritten (spec ++ rest) (js ++ ks)

/-- A character other than the percent sign stands for itself. -/
theorem items_character (hc : c ≠ '%') (cs : List Char) :
    items (c :: cs) = ([.literal c] ++ ·) <$> items cs := by
  rw [items]
  · cases items cs <;> rfl
  all_goals
    intros
    contradiction

/-- **A pattern in front of more text is read as it stands.** -/
theorem IsWritten.items_append (h : IsWritten as is) (cs : List Char) :
    items (as ++ cs) = (is ++ ·) <$> items cs := by
  induction h with
  | nil => simp
  | character hc _ ih =>
    rw [List.cons_append, items_character hc, ih]
    cases items cs <;> rfl
  | specifier hspec _ ih =>
    rw [List.append_assoc, hspec.items_append, ih]
    cases items cs <;> simp

theorem IsSpecifier.length_lt {rest : List Char} (h : IsSpecifier spec js)
    (hcut : cs = spec ++ rest) : rest.length < cs.length := by
  rw [hcut]
  cases h <;> simp +arith

theorem isWritten_of_items : ∀ {cs : List Char} {is : List Item}, items cs = some is →
    IsWritten cs is
  | [], is, h => by
    cases h
    exact .nil
  | c :: cs, is, h => by
    by_cases hc : c = '%'
    · subst hc
      obtain ⟨spec, js, rest, ks, hspec, hcut, hks, rfl⟩ := exists_isSpecifier h
      have hlt : rest.length ≤ cs.length := Nat.le_of_lt_succ (hspec.length_lt hcut)
      rw [hcut]
      exact .specifier hspec (isWritten_of_items hks)
    · rw [items_character hc] at h
      obtain ⟨ks, hks, rfl⟩ := Option.map_eq_some_iff.mp h
      exact .character hc (isWritten_of_items hks)
termination_by cs => cs.length

/-- **The patterns are the texts that have items.** -/
theorem items_eq_some_iff : items cs = some is ↔ IsWritten cs is := by
  constructor
  · exact isWritten_of_items
  · intro h
    have happend := h.items_append []
    rw [List.append_nil] at happend
    rw [happend, items]
    simp

/-! ### Texts that are no pattern -/

/-- Whether a text is cut at a percent sign that starts no specifier, behind a pattern. -/
structure IsBroken (cs before after : List Char) : Prop where
  cut : cs = before ++ '%' :: after
  before : ∃ is, IsWritten before is
  after : ∀ spec js more, IsSpecifier spec js → '%' :: after ≠ spec ++ more

theorem exists_isBroken : ∀ {cs : List Char}, items cs = none →
    ∃ before after, IsBroken cs before after
  | [], h => by cases h
  | c :: cs, h => by
    by_cases hc : c = '%'
    · subst hc
      by_cases hstarts : ∃ spec js rest, IsSpecifier spec js ∧ '%' :: cs = spec ++ rest
      · obtain ⟨spec, js, rest, hspec, hcut⟩ := hstarts
        have hlt : rest.length ≤ cs.length := Nat.le_of_lt_succ (hspec.length_lt hcut)
        rw [hcut, hspec.items_append] at h
        obtain ⟨before, after, rfl, ⟨ks, hbefore⟩, hafter⟩ :=
          exists_isBroken (Option.map_eq_none_iff.mp h)
        refine ⟨spec ++ before, after, ?_, ⟨_, .specifier hspec hbefore⟩, hafter⟩
        rw [hcut, List.append_assoc]
      · exact ⟨[], cs, rfl, ⟨[], .nil⟩, fun spec js rest hspec hcut =>
          hstarts ⟨spec, js, rest, hspec, hcut⟩⟩
    · rw [items_character hc] at h
      obtain ⟨before, after, rfl, ⟨ks, hbefore⟩, hafter⟩ :=
        exists_isBroken (Option.map_eq_none_iff.mp h)
      exact ⟨c :: before, after, rfl, ⟨_, .character hc hbefore⟩, hafter⟩
termination_by cs => cs.length

/-- **A text is no pattern exactly if it is broken**, at the start, at the end or in between. -/
theorem items_eq_none_iff : items cs = none ↔ ∃ before after, IsBroken cs before after := by
  constructor
  · exact exists_isBroken
  · rintro ⟨before, after, rfl, ⟨is, hbefore⟩, hafter⟩
    rw [hbefore.items_append]
    cases h : items ('%' :: after) with
    | none => rfl
    | some ks =>
      obtain ⟨spec, js, rest, -, hspec, hcut, -⟩ := exists_isSpecifier h
      exact absurd hcut (hafter spec js rest hspec)

/-! ### Writing -/

/-- One item has no text, whatever the time. -/
theorem Item.write_eq_none_iff {t : ZonedTime} {i : Item} :
    i.write t = none ↔ i = .text .offsetAny := by
  cases i with
  | literal c => simp [write]
  | number field padding => simp [write]
  | text field => cases field <;> simp [write, TextField.write]

/-- **Whether items can be written does not depend on the time.** -/
theorem write_eq_none_iff {t : ZonedTime} : write t is = none ↔ .text .offsetAny ∈ is := by
  induction is with
  | nil => simp [write]
  | cons i is ih =>
    have hitem : Item.text .offsetAny = i ↔ i.write t = none := by
      rw [Item.write_eq_none_iff, eq_comm]
    rw [List.mem_cons, ← ih, hitem, write]
    cases i.write t <;> cases write t is <;> simp

end PathTemplate.Time.Pattern
