/-
# Lines and columns

The line of a place is counted by the line breaks in front of it, and its column
by the characters between the last of these and the place; both are numbered
from 1. A carriage return with a line feed is one line break, which ends at the
line feed, and a line break at the end of the text starts no line. The line that
`lineAt` finds for a place has this number and begins where this column is
counted from (`lineAt_eq`). No two places have one line and one column
(`eq_of_line_of_column`).

Key definitions: `breaksBehind`, `lineBreaks`, `lineStart`, `lineNumber`, `columnNumber`.
Key theorems: `lineBreaks_cons`, `lineStart_cons`, `lineAt_eq`, `eq_of_line_of_column`.
-/
import PathTemplate.Text.Line

namespace PathTemplate.Text

/-! ### Line breaks in front of a place -/

/-- Whether a line break ends with the character at place `i`, and there is text behind it. -/
def breaksBehind (cs : List Char) (i : Nat) : Bool :=
  match cs[i]?, cs[i + 1]? with
  | some c, some d => isLineBreak c && !(c == '\r' && d == '\n')
  | _, _ => false

/-- The number of line breaks in front of a place. -/
def lineBreaks (cs : List Char) : Nat → Nat
  | 0 => 0
  | n + 1 => lineBreaks cs n + if breaksBehind cs n then 1 else 0

/-- The place behind the last line break in front of a place, or the first place. -/
def lineStart (cs : List Char) : Nat → Nat
  | 0 => 0
  | n + 1 => if breaksBehind cs n then n + 1 else lineStart cs n

/-- The number of the line of a place, from 1. -/
def lineNumber (cs : List Char) (n : Nat) : Nat := lineBreaks cs n + 1

/-- The number of the column of a place, from 1. -/
def columnNumber (cs : List Char) (n : Nat) : Nat := n - lineStart cs n + 1

theorem breaksBehind_cons (c : Char) (cs : List Char) (i : Nat) :
    breaksBehind (c :: cs) (i + 1) = breaksBehind cs i := rfl

/-- One character more in front of a text brings one line break more, or none. -/
theorem lineBreaks_cons (c : Char) (cs : List Char) (n : Nat) : lineBreaks (c :: cs) (n + 1) =
    (if breaksBehind (c :: cs) 0 then 1 else 0) + lineBreaks cs n := by
  induction n with
  | zero => simp [lineBreaks]
  | succ n ih => rw [lineBreaks, ih, lineBreaks, breaksBehind_cons, Nat.add_assoc]

theorem lineStart_cons (c : Char) (cs : List Char) (n : Nat) : lineStart (c :: cs) (n + 1) =
    if lineStart cs n = 0 then (if breaksBehind (c :: cs) 0 then 1 else 0)
      else lineStart cs n + 1 := by
  induction n with
  | zero => simp [lineStart]
  | succ n ih =>
    rw [lineStart, breaksBehind_cons, ih, lineStart]
    cases breaksBehind cs n <;> simp

theorem lineStart_le (cs : List Char) (n : Nat) : lineStart cs n ≤ n := by
  induction n with
  | zero => exact Nat.le_refl 0
  | succ n ih =>
    rw [lineStart]
    split
    · exact Nat.le_refl _
    · exact Nat.le_succ_of_le ih

/-- Line breaks in front of a place are in front of the places behind it as well. -/
theorem lineBreaks_mono (cs : List Char) {m n : Nat} (h : m ≤ n) :
    lineBreaks cs m ≤ lineBreaks cs n := by
  induction h with
  | refl => exact Nat.le_refl _
  | step _ ih => exact Nat.le_trans ih (Nat.le_add_right _ _)

/-- Places without a line break between them are on a line that starts at one place. -/
theorem lineStart_eq_of_lineBreaks_eq {cs : List Char} {m n : Nat} (hmn : m ≤ n)
    (h : lineBreaks cs m = lineBreaks cs n) : lineStart cs m = lineStart cs n := by
  induction hmn with
  | refl => rfl
  | @step n hmn ih =>
    have hle := lineBreaks_mono cs hmn
    rw [lineBreaks] at h
    rw [lineStart]
    cases hbreak : breaksBehind cs n with
    | true =>
      rw [hbreak, if_pos rfl] at h
      omega
    | false =>
      rw [hbreak] at h
      exact ih h

/-- **A place is known by its line and its column.** -/
theorem eq_of_line_of_column {cs : List Char} {m n : Nat}
    (hline : lineNumber cs m = lineNumber cs n) (hcolumn : columnNumber cs m = columnNumber cs n) :
    m = n := by
  have hbreaks : lineBreaks cs m = lineBreaks cs n := Nat.succ.inj hline
  have hstart : lineStart cs m = lineStart cs n := by
    rcases Nat.le_total m n with h | h
    · exact lineStart_eq_of_lineBreaks_eq h hbreaks
    · exact (lineStart_eq_of_lineBreaks_eq h hbreaks.symm).symm
  have hm := lineStart_le cs m
  have hn := lineStart_le cs n
  rw [columnNumber, columnNumber, hstart] at hcolumn
  omega

/-! ### The line of a place -/

/-- The last of some lines that starts at or before a place. -/
def lastStarted (ls : List Line) (place : Nat) : Option Line :=
  (ls.filter fun l => decide (l.start ≤ place)).getLast?

variable {index start place : Nat}

/-- A line that has started is the line of a place if none behind it has. -/
theorem lastStarted_cons {l : Line} (h : l.start ≤ place) (ls : List Line) :
    lastStarted (l :: ls) place = some ((lastStarted ls place).getD l) := by
  have hfilter : (l :: ls).filter (fun l => decide (l.start ≤ place)) =
      l :: ls.filter fun l => decide (l.start ≤ place) := List.filter_cons_of_pos (decide_eq_true h)
  rw [lastStarted, hfilter, List.getLast?_cons]
  rfl

theorem start_le_of_mem_placeLines {l : Line} {ls : List (List Char)}
    (h : l ∈ placeLines index start ls) : start ≤ l.start := by
  induction ls generalizing index start with
  | nil => cases h
  | cons cs ls ih =>
    rcases List.mem_cons.mp h with rfl | h
    · exact Nat.le_refl _
    · exact Nat.le_trans (Nat.le_add_right _ _) (ih h)

theorem lastStarted_placeLines_eq_none (ls : List (List Char)) (h : place < start) :
    lastStarted (placeLines index start ls) place = none := by
  rw [lastStarted, List.filter_eq_nil_iff.mpr]
  · rfl
  · intro l hl
    have := start_le_of_mem_placeLines hl
    simp only [decide_eq_true_eq]
    omega

theorem ne_nil_of_mem_splitLines {cs l : List Char} (h : l ∈ splitLines cs) : l ≠ [] := by
  induction cs generalizing l with
  | nil => cases h
  | cons c cs ih =>
    rw [splitLines] at h
    split at h
    · rcases List.mem_cons.mp h with rfl | h
      · exact List.cons_ne_nil _ _
      · exact ih h
    · split at h
      · obtain rfl := List.mem_singleton.mp h
        exact List.cons_ne_nil _ _
      · next hls =>
        rcases List.mem_cons.mp h with rfl | h
        · exact List.cons_ne_nil _ _
        · exact ih (hls ▸ List.mem_cons_of_mem _ h)

theorem exists_splitLines_eq_cons {cs : List Char} (hne : cs ≠ []) :
    ∃ l ls, splitLines cs = l :: ls ∧ l ≠ [] := by
  have hlines : splitLines cs ≠ [] := fun hnil => hne (by rw [← splitLines_flatten cs, hnil]; rfl)
  obtain ⟨l, ls, hls⟩ := List.exists_cons_of_ne_nil hlines
  exact ⟨l, ls, hls, ne_nil_of_mem_splitLines (hls ▸ List.mem_cons_self)⟩

theorem splitLines_of_breaksBehind {c d : Char} {cs : List Char}
    (h : breaksBehind (c :: d :: cs) 0 = true) :
    splitLines (c :: d :: cs) = [c] :: splitLines (d :: cs) := by
  have h : (isLineBreak c && !(c == '\r' && d == '\n')) = true := h
  rw [splitLines, if_pos]
  simpa using h

theorem splitLines_of_not_breaksBehind {c d : Char} {cs l : List Char} {ls : List (List Char)}
    (h : breaksBehind (c :: d :: cs) 0 = false) (hls : splitLines (d :: cs) = l :: ls) :
    splitLines (c :: d :: cs) = (c :: l) :: ls := by
  have h : (isLineBreak c && !(c == '\r' && d == '\n')) = false := h
  rw [splitLines, if_neg, hls]
  simpa using h

/-- The lines of a text, numbered from `index` and placed from `start` on: the last of them that
starts at or before a place has the number and the start that the line breaks say. -/
theorem lastStarted_placeLines {cs : List Char} (hne : cs ≠ []) {n : Nat} (hn : n ≤ cs.length)
    (index start : Nat) : ∃ l, lastStarted (placeLines index start (splitLines cs)) (start + n) =
      some l ∧ l.index = index + lineBreaks cs n ∧ l.start = start + lineStart cs n := by
  induction cs generalizing n index start with
  | nil => exact absurd rfl hne
  | cons c cs ih =>
    cases n with
    | zero =>
      -- all lines but the first start further on
      obtain ⟨l, ls, hls, hl⟩ := exists_splitLines_eq_cons hne
      have hlater : start < start + l.length :=
        Nat.lt_add_of_pos_right (List.length_pos_iff.mpr hl)
      refine ⟨⟨index, start, l⟩, ?_, rfl, rfl⟩
      rw [hls, Nat.add_zero, placeLines, lastStarted_cons (Nat.le_refl _),
        lastStarted_placeLines_eq_none ls hlater]
      rfl
    | succ n =>
      have hn : n ≤ cs.length := Nat.le_of_succ_le_succ hn
      have hplace : start + (n + 1) = start + 1 + n := by omega
      cases cs with
      | nil =>
        obtain rfl : n = 0 := Nat.le_zero.mp hn
        have hsplit : splitLines [c] = [[c]] := by
          rw [splitLines]
          split <;> rfl
        rw [hsplit]
        exact ⟨_, lastStarted_cons (Nat.le_add_right _ _) [], rfl, rfl⟩
      | cons d cs =>
        cases hbreak : breaksBehind (c :: d :: cs) 0 with
        | true =>
          -- the first line is the one character, and the others are those of the rest
          obtain ⟨l, hl, hindex, hstart⟩ := ih (List.cons_ne_nil d cs) hn (index + 1) (start + 1)
          refine ⟨l, ?_, ?_, ?_⟩
          · rw [splitLines_of_breaksBehind hbreak, placeLines, lastStarted_cons (by simp), hplace]
            simp only [List.length_singleton, hl, Option.getD_some]
          · rw [hindex, lineBreaks_cons, hbreak, if_pos rfl, Nat.add_assoc]
          · rw [hstart, lineStart_cons, hbreak, if_pos rfl]
            split <;> omega
        | false =>
          -- the first line has one character more than that of the rest
          obtain ⟨l₀, ls, hls, hl₀⟩ := exists_splitLines_eq_cons (List.cons_ne_nil d cs)
          obtain ⟨l, hl, hindex, hstart⟩ := ih (List.cons_ne_nil d cs) hn index (start + 1)
          have hbehind : start + (c :: l₀).length = start + 1 + l₀.length := by
            rw [List.length_cons]
            omega
          rw [hls, placeLines, lastStarted_cons (Nat.le_add_right _ _), Option.some_inj] at hl
          rw [splitLines_of_not_breaksBehind hbreak hls, placeLines,
            lastStarted_cons (Nat.le_add_right _ _), hbehind, hplace, lineBreaks_cons,
            lineStart_cons, hbreak]
          cases hlater : lastStarted (placeLines (index + 1) (start + 1 + l₀.length) ls)
              (start + 1 + n) with
          | none =>
            obtain rfl : ⟨index, start + 1, l₀⟩ = l := by rw [← hl, hlater]; rfl
            have hbreaks : lineBreaks (d :: cs) n = 0 := (Nat.add_eq_left.mp hindex.symm)
            have hzero : lineStart (d :: cs) n = 0 := (Nat.add_eq_left.mp hstart.symm)
            exact ⟨_, rfl, by simp [hbreaks], by simp [hzero]⟩
          | some l' =>
            obtain rfl : l' = l := by rw [← hl, hlater]; rfl
            have hpast : start + 1 + l₀.length ≤ l'.start :=
              start_le_of_mem_placeLines (List.mem_filter.mp (List.mem_of_getLast? hlater)).1
            have hpos : lineStart (d :: cs) n ≠ 0 := by
              have := List.length_pos_iff.mpr hl₀
              omega
            refine ⟨_, rfl, by simpa using hindex, ?_⟩
            rw [if_neg hpos, Option.getD_some, hstart]
            omega

/-- **The line of a place** is numbered by the line breaks in front of it and begins behind the
last of them. -/
theorem lineAt_eq {cs : List Char} (hne : cs ≠ []) {n : Nat} (hn : n ≤ cs.length) :
    ∃ l, lineAt cs n = some l ∧ l.index + 1 = lineNumber cs n ∧
      n - l.start + 1 = columnNumber cs n := by
  obtain ⟨l, hl, hindex, hstart⟩ := lastStarted_placeLines hne hn 0 0
  rw [Nat.zero_add] at hl hindex hstart
  refine ⟨l, ?_, ?_, ?_⟩
  · rw [lineAt, if_pos hn]
    exact hl
  · rw [hindex]
    rfl
  · rw [hstart]
    rfl

theorem lineAt_eq_none {cs : List Char} {n : Nat} (hn : cs.length < n) : lineAt cs n = none := by
  rw [lineAt, if_neg (Nat.not_le_of_lt hn)]

end PathTemplate.Text
