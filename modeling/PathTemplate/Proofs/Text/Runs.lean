/-
# Runs at the edges of a text

A run of characters of one class ends where the text does not go on with that
class. Trimming takes the runs of blanks from both edges: a text whose edges
are no blanks stays as it is, and blanks put around any text do not count. What
is no blank keeps all that stands behind it from being trimmed in front, and all
that stands in front of it from being trimmed behind.

Key definitions: `StopsAt`, `IsTrimmed`.
Key theorems: `takeWhile_stop`, `dropWhile_stop`, `StopsAt.dropWhile_append`, `trimEnd_append`,
`trim_append_left`, `trim_append_right`, `IsTrimmed.trim_append`.
-/
import Mathlib.Data.List.TakeWhile
import PathTemplate.Text.Blank

namespace PathTemplate

/-- The text `rest` does not go on with a character of a class. -/
def StopsAt (p : Char → Bool) (rest : List Char) : Prop := ∀ c ∈ rest.head?, p c = false

theorem stopsAt_cons {p : Char → Bool} {c : Char} {cs : List Char} :
    StopsAt p (c :: cs) ↔ p c = false := by simp [StopsAt]

theorem StopsAt.dropWhile_eq {p : Char → Bool} {rest : List Char} (hr : StopsAt p rest) :
    rest.dropWhile p = rest := by
  cases rest with
  | nil => rfl
  | cons c rest => simp [hr c rfl]

theorem takeWhile_stop {p : Char → Bool} {cs rest : List Char} (h : ∀ c ∈ cs, p c = true)
    (hr : StopsAt p rest) : (cs ++ rest).takeWhile p = cs := by
  rw [List.takeWhile_append_of_pos h]
  cases rest with
  | nil => simp
  | cons c rest => simp [hr c rfl]

theorem dropWhile_stop {p : Char → Bool} {cs rest : List Char} (h : ∀ c ∈ cs, p c = true)
    (hr : StopsAt p rest) : (cs ++ rest).dropWhile p = rest := by
  rw [List.dropWhile_append_of_pos h, hr.dropWhile_eq]

/-- A run ends where it is stopped. -/
theorem stopsAt_dropWhile (p : Char → Bool) (cs : List Char) : StopsAt p (cs.dropWhile p) := by
  intro c hc
  have hhead := List.head?_dropWhile_not p cs
  rw [Option.mem_def.mp hc] at hhead
  exact hhead

/-- A run at the end of a text begins where the text in front of it is stopped. -/
theorem exists_run_behind (p : Char → Bool) (cs : List Char) : ∃ front run, cs = front ++ run ∧
    (∀ c ∈ run, p c = true) ∧ StopsAt p front.reverse := by
  refine ⟨(cs.reverse.dropWhile p).reverse, (cs.reverse.takeWhile p).reverse, ?_, ?_, ?_⟩
  · rw [← List.reverse_append, List.takeWhile_append_dropWhile, List.reverse_reverse]
  · intro c hc
    exact List.mem_takeWhile_imp (List.mem_reverse.mp hc)
  · rw [List.reverse_reverse]
    exact stopsAt_dropWhile p cs.reverse

/-- A run that ends inside a text is the same in front of more text. -/
theorem takeWhile_append_of_ne {p : Char → Bool} {cs : List Char} (h : cs.dropWhile p ≠ [])
    (rest : List Char) : (cs ++ rest).takeWhile p = cs.takeWhile p := by
  have hcut := @List.takeWhile_append_dropWhile _ p cs
  have hlen : (cs.takeWhile p).length ≠ cs.length := by
    intro hlen
    have hsum := congrArg List.length hcut
    rw [List.length_append, hlen] at hsum
    exact h (List.length_eq_zero_iff.mp (by omega))
  rw [List.takeWhile_append, if_neg hlen]

/-- What follows a run that ends inside a text goes on with the text behind it. -/
theorem dropWhile_append_of_ne {p : Char → Bool} {cs : List Char} (h : cs.dropWhile p ≠ [])
    (rest : List Char) : (cs ++ rest).dropWhile p = cs.dropWhile p ++ rest := by
  rw [List.dropWhile_append, if_neg (by simpa using h)]

/-- What stops a run in front of it does not go into the run. -/
theorem StopsAt.takeWhile_append {p : Char → Bool} {rest : List Char} (hr : StopsAt p rest)
    (cs : List Char) : (cs ++ rest).takeWhile p = cs.takeWhile p := by
  by_cases h : cs.dropWhile p = []
  · have hall := List.dropWhile_eq_nil_iff.mp h
    rw [takeWhile_stop hall hr, List.takeWhile_eq_self_iff.mpr hall]
  · exact takeWhile_append_of_ne h rest

/-- What stops a run in front of it stays behind what the run leaves. -/
theorem StopsAt.dropWhile_append {p : Char → Bool} {rest : List Char} (hr : StopsAt p rest)
    (cs : List Char) : (cs ++ rest).dropWhile p = cs.dropWhile p ++ rest := by
  by_cases h : cs.dropWhile p = []
  · rw [h, dropWhile_stop (List.dropWhile_eq_nil_iff.mp h) hr, List.nil_append]
  · exact dropWhile_append_of_ne h rest

/-- A run of all characters but one holds none of that one. -/
theorem forall_ne_iff {d : Char} {cs : List Char} :
    (∀ c ∈ cs, decide (c ≠ d) = true) ↔ d ∉ cs := by
  simp only [decide_eq_true_eq]
  exact ⟨fun h hd => h _ hd rfl, fun h c hc e => h (e ▸ hc)⟩

/-- Two runs that are stopped are the same if the texts that they begin are. -/
theorem append_inj_of_stop {p : Char → Bool} {as bs rest rest' : List Char}
    (ha : ∀ c ∈ as, p c = true) (hb : ∀ c ∈ bs, p c = true) (hr : StopsAt p rest)
    (hr' : StopsAt p rest') (h : as ++ rest = bs ++ rest') : as = bs ∧ rest = rest' := by
  constructor
  · rw [← takeWhile_stop ha hr, h, takeWhile_stop hb hr']
  · rw [← dropWhile_stop ha hr, h, dropWhile_stop hb hr']

theorem StopsAt.append {p : Char → Bool} {as bs : List Char} (ha : StopsAt p as)
    (hb : as = [] → StopsAt p bs) : StopsAt p (as ++ bs) := by
  cases as with
  | nil => exact hb rfl
  | cons a as => exact ha

/-- What stops a run stops it still when the text is cut further on. -/
theorem StopsAt.of_append {p : Char → Bool} {as bs : List Char} (h : StopsAt p (as ++ bs)) :
    StopsAt p as := by
  cases as with
  | nil => nofun
  | cons a as => exact h

namespace Text

/-- A text with no blank at either edge. -/
structure IsTrimmed (cs : List Char) : Prop where
  start : StopsAt isBlank cs
  stop : StopsAt isBlank cs.reverse

theorem isTrimmed_of_forall {cs : List Char} (h : ∀ c ∈ cs, isBlank c = false) : IsTrimmed cs :=
  ⟨fun c hc => h c (List.mem_of_mem_head? hc),
    fun c hc => h c (List.mem_reverse.mp (List.mem_of_mem_head? hc))⟩

theorem IsTrimmed.append {as bs : List Char} (ha : IsTrimmed as) (hb : StopsAt isBlank bs.reverse)
    (h : as = [] → StopsAt isBlank bs) : IsTrimmed (as ++ bs) :=
  ⟨ha.start.append h, by rw [List.reverse_append]; exact hb.append fun _ => ha.stop⟩

theorem forall_isBlank_of_trimStart_eq_nil {cs : List Char} (h : trimStart cs = []) :
    ∀ c ∈ cs, isBlank c = true := List.dropWhile_eq_nil_iff.mp h

/-- A text that is not blank throughout is trimmed in front as if nothing stood behind it. -/
theorem trimStart_append {as : List Char} (h : trimStart as ≠ []) (bs : List Char) :
    trimStart (as ++ bs) = trimStart as ++ bs := dropWhile_append_of_ne h bs

/-- Trimming the end takes nothing from what ends with no blank. -/
theorem trimEnd_append_of_stop {as : List Char} (ha : StopsAt isBlank as.reverse)
    (bs : List Char) : trimEnd (as ++ bs) = as ++ trimEnd bs := by
  rw [trimEnd, List.reverse_append, ha.dropWhile_append, List.reverse_append, List.reverse_reverse]
  rfl

/-- A text that is not blank throughout is trimmed behind as if nothing stood in front of it. -/
theorem trimEnd_append_of_ne {bs : List Char} (h : trimEnd bs ≠ []) (as : List Char) :
    trimEnd (as ++ bs) = as ++ trimEnd bs := by
  have hne : bs.reverse.dropWhile isBlank ≠ [] := fun hnil => h (by rw [trimEnd, hnil]; rfl)
  rw [trimEnd, List.reverse_append, dropWhile_append_of_ne hne, List.reverse_append,
    List.reverse_reverse]
  rfl

theorem trimEnd_append_blanks {gap : List Char} (hg : ∀ c ∈ gap, isBlank c = true)
    (cs : List Char) : trimEnd (cs ++ gap) = trimEnd cs := by
  rw [trimEnd, List.reverse_append,
    List.dropWhile_append_of_pos fun c hc => hg c (List.mem_reverse.mp hc)]
  rfl

theorem trimEnd_eq_nil {cs : List Char} (h : ∀ c ∈ cs, isBlank c = true) : trimEnd cs = [] :=
  trimEnd_append_blanks h []

theorem forall_isBlank_of_trimEnd_eq_nil {cs : List Char} (h : trimEnd cs = []) :
    ∀ c ∈ cs, isBlank c = true := fun c hc =>
  List.dropWhile_eq_nil_iff.mp (List.reverse_eq_nil_iff.mp h) c (List.mem_reverse.mpr hc)

/-- **Blanks in front of a text do not count.** -/
theorem trim_append_left {gap : List Char} (hg : ∀ c ∈ gap, isBlank c = true) (cs : List Char) :
    trim (gap ++ cs) = trim cs := by
  rw [trim, trimStart, List.dropWhile_append_of_pos hg]
  rfl

/-- **Blanks behind a text do not count.** -/
theorem trim_append_right {gap : List Char} (hg : ∀ c ∈ gap, isBlank c = true) (cs : List Char) :
    trim (cs ++ gap) = trim cs := by
  by_cases h : trimStart cs = []
  · have hblank := forall_isBlank_of_trimStart_eq_nil h
    rw [trim_append_left hblank, trim, trim, h, trimEnd_eq_nil]
    · rfl
    · exact fun c hc => hg c ((List.dropWhile_suffix isBlank).subset hc)
  · rw [trim, trimStart_append h, trimEnd_append_blanks hg]
    rfl

/-- Blanks behind a text do not count. -/
theorem trimEnd_append {cs gap : List Char} (hcs : StopsAt isBlank cs.reverse)
    (hg : ∀ c ∈ gap, isBlank c = true) : trimEnd (cs ++ gap) = cs := by
  rw [trimEnd_append_of_stop hcs, trimEnd_eq_nil hg, List.append_nil]

/-- A trimmed end has nothing left to trim. -/
theorem trimEnd_trimEnd (cs : List Char) : trimEnd (trimEnd cs) = trimEnd cs := by
  obtain ⟨front, gap, rfl, hgap, hstop⟩ := exists_run_behind isBlank cs
  have hfront := trimEnd_append hstop (List.forall_mem_nil fun c => isBlank c = true)
  rw [List.append_nil] at hfront
  rw [trimEnd_append hstop hgap, hfront]

/-- Trimming an end before the rest changes nothing. -/
theorem trim_trimEnd (cs : List Char) : trim (trimEnd cs) = trim cs := by
  obtain ⟨front, gap, rfl, hgap, hstop⟩ := exists_run_behind isBlank cs
  rw [trimEnd_append hstop hgap, trim_append_right hgap]

/-- A character that is no blank parts what is trimmed in front from what is trimmed behind. -/
theorem trim_append_cons {c : Char} (hc : isBlank c = false) (as bs : List Char) :
    trim (as ++ c :: bs) = trimStart as ++ c :: trimEnd bs := by
  have hstart : trimStart (as ++ c :: bs) = trimStart as ++ [c] ++ bs := by
    rw [trimStart, (stopsAt_cons.mpr hc).dropWhile_append, List.append_assoc]
    rfl
  have hstop : StopsAt isBlank (trimStart as ++ [c]).reverse := by
    rw [List.reverse_append]
    exact stopsAt_cons.mpr hc
  rw [trim, hstart, trimEnd_append_of_stop hstop, List.append_assoc]
  rfl

/-- Nothing is left of a text exactly if it is blank throughout. -/
theorem trim_eq_nil_iff {cs : List Char} : trim cs = [] ↔ ∀ c ∈ cs, isBlank c = true := by
  constructor
  · intro h
    have hblank := forall_isBlank_of_trimEnd_eq_nil h
    cases hstart : trimStart cs with
    | nil => exact forall_isBlank_of_trimStart_eq_nil hstart
    | cons c rest =>
      rw [hstart] at hblank
      have hc : isBlank c = false := stopsAt_dropWhile isBlank cs c (by rw [← trimStart, hstart]; rfl)
      rw [hblank c List.mem_cons_self] at hc
      cases hc
  · intro h
    have hcs := trim_append_left h []
    rwa [List.append_nil] at hcs

/-- Trimming does not reach behind what is not blank throughout. -/
theorem trim_append_append {as bs : List Char} (ha : trimStart as ≠ []) (hb : trimEnd bs ≠ [])
    (cs : List Char) : trim (as ++ (cs ++ bs)) = trimStart as ++ (cs ++ trimEnd bs) := by
  rw [trim, trimStart_append ha, ← List.append_assoc, trimEnd_append_of_ne hb, List.append_assoc]

theorem IsTrimmed.trimEnd_eq {cs : List Char} (h : IsTrimmed cs) : trimEnd cs = cs := by
  rw [trimEnd, h.stop.dropWhile_eq, List.reverse_reverse]

/-- Blanks in front of a text do not count. -/
theorem IsTrimmed.trim_append {cs : List Char} (h : IsTrimmed cs) {gap : List Char}
    (hg : ∀ c ∈ gap, isBlank c = true) : trim (gap ++ cs) = cs := by
  rw [trim_append_left hg, trim, trimStart, h.start.dropWhile_eq, h.trimEnd_eq]

end Text

end PathTemplate
