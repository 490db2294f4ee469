/-
# Layout does not matter

What an interior says, places aside, depends on two things alone: how the
lexemes of its trimmed head read, and its trimmed pattern (`substance`). Blanks
at either end of the interior and on either side of its first bar are trimmed
away, and a run of spaces in the head is one token, however long it is and
whatever spaces it is made of. So interiors that differ in such blanks alone
have one substance, and are read as the same placeholder or refused with the
same fault.

Key definitions: `nowhere`, `Placeholder.substance`, `Respaced`.
Key theorems: `Head.read_nowhere_congr`, `Placeholder.read_nowhere_congr`,
`Placeholder.substance_atBar`, `Respaced.substance_eq`, `Placeholder.read_ignores_layout`.
-/
import Mathlib.Logic.Relation
import PathTemplate.Proofs.Head.Lexing
import PathTemplate.Proofs.Placeholder.Places
import PathTemplate.Proofs.Text.Edges

namespace PathTemplate

open Text

/-! ### Readings without their places -/

/-- The place that stands for any other where places do not matter. -/
def nowhere : Span → Span := mapEnds fun _ => 0

theorem layOut_map_nowhere {α : Type} (width : α → Nat) (place : Nat) (xs : List α) :
    (layOut width place xs).map (Located.relocate nowhere) = xs.map (⟨·, 0, 0⟩) := by
  have hnode : Located.relocate nowhere = (fun x : α => ⟨x, 0, 0⟩) ∘ Located.node := rfl
  rw [hnode, ← List.map_map, layOut_map_node]

namespace Head

/-- Only the readings of lexemes make tokens. -/
theorem tokens_congr {ls ms : List Lexeme} (h : ls.map Lexeme.reading = ms.map Lexeme.reading)
    (span : Span) : tokens (ls.map (⟨·, span⟩)) = tokens (ms.map (⟨·, span⟩)) := by
  induction ls generalizing ms with
  | nil =>
    cases List.map_eq_nil_iff.mp h.symm
    rfl
  | cons l ls ih =>
    obtain ⟨m, ms, rfl, hm, hms⟩ := List.map_eq_cons_iff.mp h.symm
    simp only [List.map_cons, tokens, hm, ih hms.symm]

/-- **Texts whose lexemes read alike make the same head**, places aside, wherever they stand. -/
theorem read_nowhere_congr {cs ds : List Char} (h : readings cs = readings ds)
    (offset offset' : Nat) :
    relocateReading nowhere (Head.relocate nowhere) (Head.read cs offset) =
      relocateReading nowhere (Head.relocate nowhere) (Head.read ds offset') := by
  have key : ∀ (cs : List Char) (offset : Nat),
      relocateReading nowhere (Head.relocate nowhere) (Head.read cs offset) =
        tokens ((lexemes cs).map (⟨·, 0, 0⟩)) >>= fun ts => ofTokens ts 0 := by
    intro cs offset
    have hlexemes := layOut_map_nowhere Lexeme.width offset (lexemes cs)
    rw [← hlexemes, tokens_relocate, Head.read]
    symm
    exact relocateReading_bind _ fun ts => ofTokens_move (fun _ => 0) ts (offset + utf8Width cs)
  rw [key, key, tokens_congr h]

end Head

namespace Placeholder

/-- What an interior is read from: how its trimmed head reads, and its trimmed pattern. -/
def substance (interior : List Char) : List (Except LexFault Token) × Option (List Char) :=
  (readings (trimEnd ((trim interior).takeWhile (· ≠ '|'))),
    ((trim interior).dropWhile (· ≠ '|')).tail?.map trim)

/-- Only the trimmed text of a pattern matters, places aside. -/
theorem readPattern_nowhere_congr {raw raw' : List Char} (h : trim raw = trim raw')
    (offset offset' : Nat) :
    relocateReading nowhere (Located.relocate nowhere) (readPattern raw offset) =
      relocateReading nowhere (Located.relocate nowhere) (readPattern raw' offset') := by
  simp only [readPattern, h]
  split
  · rfl
  · split <;> rfl
  · split <;> rfl

/-- The pattern behind the first bar of an interior, if there is one. -/
def readBehindBar (rest : List Char) (place : Nat) : Except SyntaxError (Option (Located String)) :=
  match rest with
  | [] => pure none
  | _ :: raw => some <$> readPattern raw (place + 1)

/-- An interior is read head first, then the pattern. -/
theorem read_eq_bind (interior : List Char) (offset : Nat) (span : Span) :
    read interior offset span = (do
      let head ← Head.read (trimEnd ((trim interior).takeWhile (· ≠ '|')))
        (offset + utf8Width (leadingBlanks interior))
      let pattern ← readBehindBar ((trim interior).dropWhile (· ≠ '|'))
        (offset + utf8Width (leadingBlanks interior) +
          utf8Width ((trim interior).takeWhile (· ≠ '|')))
      return ⟨head.reference.getD ⟨.implicit, span⟩, head.shifts, pattern⟩) := by
  rw [read]
  refine bind_congr fun head => ?_
  cases (trim interior).dropWhile (· ≠ '|') <;> rfl

theorem readBehindBar_nowhere_congr {rest rest' : List Char}
    (h : rest.tail?.map trim = rest'.tail?.map trim) (place place' : Nat) :
    relocateReading nowhere (Option.map (Located.relocate nowhere)) (readBehindBar rest place) =
      relocateReading nowhere (Option.map (Located.relocate nowhere))
        (readBehindBar rest' place') := by
  have hsome : ∀ x : Except SyntaxError (Located String),
      relocateReading nowhere (Option.map (Located.relocate nowhere)) (some <$> x) =
        some <$> relocateReading nowhere (Located.relocate nowhere) x := by
    intro x
    cases x <;> rfl
  cases rest with
  | nil =>
    cases rest' with
    | nil => rfl
    | cons c raw' => cases h
  | cons c raw =>
    cases rest' with
    | nil => cases h
    | cons c' raw' =>
      have htrim : trim raw = trim raw' := Option.some.inj h
      rw [readBehindBar, readBehindBar, hsome, hsome,
        readPattern_nowhere_congr htrim (place + 1) (place' + 1)]

/-- **Interiors of one substance are read alike**, places aside, wherever they stand. -/
theorem read_nowhere_congr {u v : List Char} (h : substance u = substance v)
    (offset offset' : Nat) (span span' : Span) :
    relocateReading nowhere (relocate nowhere) (read u offset span) =
      relocateReading nowhere (relocate nowhere) (read v offset' span') := by
  -- the head and the pattern, each without its places, and what they make up together
  have key : ∀ (u : List Char) (offset : Nat) (span : Span),
      relocateReading nowhere (relocate nowhere) (read u offset span) = (do
        let head ← relocateReading nowhere (Head.relocate nowhere)
          (Head.read (trimEnd ((trim u).takeWhile (· ≠ '|'))) (offset + utf8Width (leadingBlanks u)))
        let pattern ← relocateReading nowhere (Option.map (Located.relocate nowhere))
          (readBehindBar ((trim u).dropWhile (· ≠ '|')) (offset + utf8Width (leadingBlanks u) +
            utf8Width ((trim u).takeWhile (· ≠ '|'))))
        return ⟨head.reference.getD ⟨.implicit, 0, 0⟩, head.shifts, pattern⟩) := by
    intro u offset span
    rw [read_eq_bind]
    symm
    refine relocateReading_bind _ fun head => ?_
    refine relocateReading_bind _ fun pattern => ?_
    cases hr : head.reference <;> simp [Head.relocate, hr] <;> rfl
  obtain ⟨hhead, hpattern⟩ := Prod.mk.inj h
  rw [key u, key v, Head.read_nowhere_congr hhead _ (offset' + utf8Width (leadingBlanks v)),
    readBehindBar_nowhere_congr hpattern]

/-- Placeholders that are alike up to places say the same. -/
theorem nodes_eq_of_relocate_nowhere {p q : Placeholder}
    (h : p.relocate nowhere = q.relocate nowhere) :
    p.reference.node = q.reference.node ∧
      p.shifts.map Located.node = q.shifts.map Located.node ∧
      p.pattern.map Located.node = q.pattern.map Located.node := by
  have hnode {α : Type} : Located.node ∘ Located.relocate nowhere = @Located.node α := rfl
  refine ⟨congrArg (·.reference.node) h, ?_, ?_⟩
  · have hshifts := congrArg (·.shifts.map Located.node) h
    simpa only [relocate, List.map_map, hnode] using hshifts
  · have hpattern := congrArg (·.pattern.map Located.node) h
    simpa only [relocate, Option.map_map, hnode] using hpattern

/-! ### What an interior is read from -/

/-- The first bar parts the head from the pattern, and each of them is trimmed. -/
theorem substance_atBar {front : List Char} (hbar : '|' ∉ front) (raw : List Char) :
    substance (front ++ '|' :: raw) = (readings (trim front), some (trim raw)) := by
  have hfront : '|' ∉ trimStart front := fun h => hbar ((List.dropWhile_suffix isBlank).subset h)
  have hstop : StopsAt (fun c => decide (c ≠ '|')) ('|' :: trimEnd raw) :=
    stopsAt_cons.mpr (by decide)
  have htake := takeWhile_stop (forall_ne_iff.mpr hfront) hstop
  have hdrop := dropWhile_stop (forall_ne_iff.mpr hfront) hstop
  simp only [substance, trim_append_cons (by decide : isBlank '|' = false) front raw, htake, hdrop,
    List.tail?_cons, Option.map_some, trim_trimEnd]
  rfl

/-- Without a bar there is only a head. -/
theorem substance_whole {cs : List Char} (hbar : '|' ∉ cs) :
    substance cs = (readings (trim cs), none) := by
  have hmem : '|' ∉ trim cs := fun h => hbar (mem_of_mem_trim h)
  have htake := List.takeWhile_eq_self_iff.mpr (forall_ne_iff.mpr hmem)
  have hdrop := List.dropWhile_eq_nil_iff.mpr (forall_ne_iff.mpr hmem)
  simp only [substance, htake, hdrop, List.tail?_nil, Option.map_none]
  rw [trim, trimEnd_trimEnd]

/-- Blanks at the ends of an interior are not in its substance. -/
theorem substance_congr {u v : List Char} (h : trim u = trim v) : substance u = substance v := by
  rw [substance, h]
  rfl

end Placeholder

/-! ### Changes of layout -/

/-- Spaces in front of the first bar, which other spaces can stand for. -/
theorem readings_trim_respaced {run run' : List Char} (hne : run ≠ []) (hne' : run' ≠ [])
    (hrun : ∀ c ∈ run, isHeadSpace c = true) (hrun' : ∀ c ∈ run', isHeadSpace c = true)
    (as bs : List Char) :
    readings (trim (as ++ (run ++ bs))) = readings (trim (as ++ (run' ++ bs))) := by
  have hblank : ∀ spaces : List Char, (∀ c ∈ spaces, isHeadSpace c = true) →
      ∀ c ∈ spaces, isBlank c = true := fun spaces h c hc => isBlank_of_isHeadSpace (h c hc)
  by_cases ha : trimStart as = []
  · -- nothing but blanks in front: the spaces are trimmed away
    have has := forall_isBlank_of_trimStart_eq_nil ha
    rw [trim_append_left has, trim_append_left has, trim_append_left (hblank run hrun),
      trim_append_left (hblank run' hrun')]
  · by_cases hb : trimEnd bs = []
    · -- nothing but blanks behind: so are they here
      have hbs := forall_isBlank_of_trimEnd_eq_nil hb
      rw [trim_append_right (List.forall_mem_append.mpr ⟨hblank run hrun, hbs⟩),
        trim_append_right (List.forall_mem_append.mpr ⟨hblank run' hrun', hbs⟩)]
    · rw [trim_append_append ha hb, trim_append_append ha hb]
      exact readings_respaced hne hne' hrun hrun' (trimStart as) (trimEnd bs)

/-- A change of layout: blanks added at an end of an interior or on either side of its first bar,
or spaces in its head put in place of others. -/
inductive Respaced : List Char → List Char → Prop
  | front {gap} (hgap : ∀ c ∈ gap, isBlank c = true) (cs : List Char) : Respaced cs (gap ++ cs)
  | back {gap} (hgap : ∀ c ∈ gap, isBlank c = true) (cs : List Char) : Respaced cs (cs ++ gap)
  | beforeBar {head gap} (hbar : '|' ∉ head) (hgap : ∀ c ∈ gap, isBlank c = true)
    (raw : List Char) : Respaced (head ++ '|' :: raw) (head ++ (gap ++ '|' :: raw))
  | behindBar {head gap} (hbar : '|' ∉ head) (hgap : ∀ c ∈ gap, isBlank c = true)
    (raw : List Char) : Respaced (head ++ '|' :: raw) (head ++ '|' :: (gap ++ raw))
  | inHead {as run run'} (hbar : '|' ∉ as) (hne : run ≠ []) (hne' : run' ≠ [])
    (hrun : ∀ c ∈ run, isHeadSpace c = true) (hrun' : ∀ c ∈ run', isHeadSpace c = true)
    (bs : List Char) : Respaced (as ++ (run ++ bs)) (as ++ (run' ++ bs))

open Placeholder

/-- **A change of layout does not touch the substance.** -/
theorem Respaced.substance_eq {u v : List Char} (h : Respaced u v) :
    substance u = substance v := by
  have hbarBlank : ∀ gap : List Char, (∀ c ∈ gap, isBlank c = true) → '|' ∉ gap :=
    fun gap hgap hmem => absurd (hgap '|' hmem) (by decide)
  have hbarSpace : ∀ run : List Char, (∀ c ∈ run, isHeadSpace c = true) → '|' ∉ run :=
    fun run hrun hmem => absurd (hrun '|' hmem) (by decide)
  cases h with
  | front hgap => exact (substance_congr (trim_append_left hgap u)).symm
  | back hgap => exact (substance_congr (trim_append_right hgap u)).symm
  | @beforeBar head gap hbar hgap raw =>
    have hmore : '|' ∉ head ++ gap := by simp [hbar, hbarBlank gap hgap]
    rw [← List.append_assoc, substance_atBar hbar, substance_atBar hmore, trim_append_right hgap]
  | @behindBar head gap hbar hgap raw =>
    rw [substance_atBar hbar, substance_atBar hbar, trim_append_left hgap]
  | @inHead as run run' hbar hne hne' hrun hrun' bs =>
    by_cases hmem : '|' ∈ bs
    · obtain ⟨more, raw, rfl, hmore⟩ := List.eq_append_cons_of_mem hmem
      have hhead : '|' ∉ as ++ (run ++ more) := by simp [hbar, hbarSpace run hrun, hmore]
      have hhead' : '|' ∉ as ++ (run' ++ more) := by simp [hbar, hbarSpace run' hrun', hmore]
      have hsame := readings_trim_respaced hne hne' hrun hrun' as more
      have hatBar := substance_atBar hhead raw
      have hatBar' := substance_atBar hhead' raw
      simp only [List.append_assoc] at hatBar hatBar'
      rw [hatBar, hatBar', hsame]
    · have hwhole : '|' ∉ as ++ (run ++ bs) := by simp [hbar, hbarSpace run hrun, hmem]
      have hwhole' : '|' ∉ as ++ (run' ++ bs) := by simp [hbar, hbarSpace run' hrun', hmem]
      rw [substance_whole hwhole, substance_whole hwhole',
        readings_trim_respaced hne hne' hrun hrun' as bs]

/-- Any number of changes of layout, there and back, leave the substance as it is. -/
theorem substance_eq_of_eqvGen {u v : List Char} (h : Relation.EqvGen Respaced u v) :
    substance u = substance v := by
  induction h with
  | rel u v h => exact h.substance_eq
  | refl u => rfl
  | symm u v _ ih => exact ih.symm
  | trans u v w _ _ ih ih' => exact ih.trans ih'

/-- **Layout does not matter.** Of two interiors that differ by changes of layout, wherever they
stand, either both are placeholders or neither is. Two placeholders have the same reference,
shifts and pattern; two refusals have the same fault. -/
theorem Placeholder.read_ignores_layout {u v : List Char} (h : Relation.EqvGen Respaced u v)
    (offset offset' : Nat) (span span' : Span) :
    ((∃ p, read u offset span = .ok p) ↔ ∃ q, read v offset' span' = .ok q) ∧
      (∀ p q, read u offset span = .ok p → read v offset' span' = .ok q →
        p.reference.node = q.reference.node ∧
          p.shifts.map Located.node = q.shifts.map Located.node ∧
          p.pattern.map Located.node = q.pattern.map Located.node) ∧
      ∀ d e, read u offset span = .error d → read v offset' span' = .error e →
        d.fault = e.fault := by
  have hsame := read_nowhere_congr (substance_eq_of_eqvGen h) offset offset' span span'
  cases hu : read u offset span with
  | error d =>
    cases hv : read v offset' span' with
    | ok q =>
      rw [hu, hv] at hsame
      cases hsame
    | error e =>
      rw [hu, hv] at hsame
      have hfault : d.fault = e.fault := (SyntaxError.mk.inj (Except.error.inj hsame)).1
      refine ⟨⟨nofun, nofun⟩, nofun, ?_⟩
      rintro _ _ ⟨⟩ ⟨⟩
      exact hfault
  | ok p =>
    cases hv : read v offset' span' with
    | error e =>
      rw [hu, hv] at hsame
      cases hsame
    | ok q =>
      rw [hu, hv] at hsame
      have hplaceholder : p.relocate nowhere = q.relocate nowhere := Except.ok.inj hsame
      refine ⟨⟨fun _ => ⟨q, rfl⟩, fun _ => ⟨p, rfl⟩⟩, ?_, nofun⟩
      rintro _ _ ⟨⟩ ⟨⟩
      exact nodes_eq_of_relocate_nowhere hplaceholder

/-- A tab for a space, a wide blank in front of the bar, and none at the ends. -/
theorem Placeholder.read_ignores_layout_tab :
    ∃ p q, Relation.EqvGen Respaced " day\t+1 day|%Y ".toList "day +1 day\u3000|%Y".toList ∧
      read " day\t+1 day|%Y ".toList 2 ⟨0, 18⟩ = .ok p ∧
      read "day +1 day\u3000|%Y".toList 7 ⟨5, 24⟩ = .ok q ∧ p ≠ q ∧
      p.reference.node = q.reference.node ∧
      p.shifts.map Located.node = q.shifts.map Located.node ∧
      p.pattern.map Located.node = q.pattern.map Located.node := by
  have hspace : ∀ c ∈ [' '], isBlank c = true := List.forall_mem_singleton.mpr rfl
  have hwide : ∀ c ∈ ['\u3000'], isBlank c = true := List.forall_mem_singleton.mpr (by decide)
  have hfront : Respaced "day\t+1 day|%Y ".toList " day\t+1 day|%Y ".toList := .front hspace _
  have hback : Respaced "day\t+1 day|%Y".toList "day\t+1 day|%Y ".toList :=
    .back hspace "day\t+1 day|%Y".toList
  have htab : Respaced "day\t+1 day|%Y".toList "day +1 day|%Y".toList :=
    @Respaced.inHead "day".toList ['\t'] [' '] (by decide) (by decide) (by decide)
      (List.forall_mem_singleton.mpr rfl) (List.forall_mem_singleton.mpr rfl) "+1 day|%Y".toList
  have hbar : Respaced "day +1 day|%Y".toList "day +1 day\u3000|%Y".toList :=
    @Respaced.beforeBar "day +1 day".toList _ (by decide) hwide "%Y".toList
  have h : Relation.EqvGen Respaced " day\t+1 day|%Y ".toList "day +1 day\u3000|%Y".toList :=
    .trans _ _ _ (.symm _ _ (.rel _ _ hfront)) <|
      .trans _ _ _ (.symm _ _ (.rel _ _ hback)) <| .trans _ _ _ (.rel _ _ htab) (.rel _ _ hbar)
  have hread : read " day\t+1 day|%Y ".toList 2 ⟨0, 18⟩ =
      .ok ⟨⟨.named "day", 3, 6⟩, [⟨⟨.plus, 1, .day⟩, 7, 13⟩], some ⟨"%Y", 14, 16⟩⟩ := by
    decide +kernel
  have hread' : read "day +1 day\u3000|%Y".toList 7 ⟨5, 24⟩ =
      .ok ⟨⟨.named "day", 7, 10⟩, [⟨⟨.plus, 1, .day⟩, 11, 17⟩], some ⟨"%Y", 21, 23⟩⟩ := by
    decide +kernel
  exact ⟨_, _, h, hread, hread', by decide,
    (read_ignores_layout h 2 7 ⟨0, 18⟩ ⟨5, 24⟩).2.1 _ _ hread hread'⟩

end PathTemplate
