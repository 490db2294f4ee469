/-
# What a context keeps of what was registered

A context keeps its entries and, beside them, the position of each name. Values
are registered one after another, from a context file as from a caller, and a
context can be opened again to register more. Whatever the history, the
positions are those of the named entries, and a name finds the one entry that
has it. A context is refused exactly when a name was registered twice; the name
that is reported is the one whose repetition comes first.

Key definitions: `namesOf`, `namedFrom`, `IsFirstRepeat`, `Context.IsRegistryOf`,
`Builder.ComesFrom`, `Context.ComesFrom`.
Key theorems: `positionsOf_eq_ok_iff`, `positionsOf_eq_error_iff`, `Builder.build_eq_ok_iff`,
`Builder.build_eq_error_iff`, `Context.isRegistryOf_of_nodup`, `registry_exact`.
-/
import PathTemplate.ContextFile

namespace PathTemplate

/-! ### Names and their positions -/

/-- The names among some entries, in order. -/
def namesOf (es : List Entry) : List String := es.filterMap Entry.name

/-- The names among some entries with their positions, the first entry at position `index`. -/
def namedFrom (index : Nat) : List Entry → List (String × Nat)
  | [] => []
  | ⟨none, _⟩ :: es => namedFrom (index + 1) es
  | ⟨some name, _⟩ :: es => (name, index) :: namedFrom (index + 1) es

/-- Whether `name` is the first name to come a second time among some entries. -/
def IsFirstRepeat (name : String) (es : List Entry) : Prop :=
  ∃ before v after, es = before ++ ⟨some name, v⟩ :: after ∧ (namesOf before).Nodup ∧
    name ∈ namesOf before

@[simp] theorem namesOf_nil : namesOf [] = [] := rfl

@[simp] theorem namesOf_none (v : Value) (es : List Entry) :
    namesOf (⟨none, v⟩ :: es) = namesOf es := rfl

@[simp] theorem namesOf_some (name : String) (v : Value) (es : List Entry) :
    namesOf (⟨some name, v⟩ :: es) = name :: namesOf es := rfl

@[simp] theorem namesOf_append (es fs : List Entry) :
    namesOf (es ++ fs) = namesOf es ++ namesOf fs := List.filterMap_append

theorem map_fst_namedFrom (index : Nat) (es : List Entry) :
    (namedFrom index es).map Prod.fst = namesOf es := by
  induction es generalizing index with
  | nil => rfl
  | cons e es ih =>
    obtain ⟨name, v⟩ := e
    cases name with
    | none => exact ih (index + 1)
    | some name => rw [namedFrom, List.map_cons, ih, namesOf_some]

/-- A name stands beside the positions of the entries that have it. -/
theorem mem_namedFrom {name : String} {i index : Nat} {es : List Entry} :
    (name, i) ∈ namedFrom index es ↔ ∃ k v, i = index + k ∧ es[k]? = some ⟨some name, v⟩ := by
  induction es generalizing index with
  | nil => simp [namedFrom]
  | cons e es ih =>
    have htail : (name, i) ∈ namedFrom (index + 1) es ↔
        ∃ k v, i = index + (k + 1) ∧ (e :: es)[k + 1]? = some ⟨some name, v⟩ := by
      rw [ih]
      simp only [List.getElem?_cons_succ, Nat.add_assoc, Nat.add_comm 1]
    have hsplit : (∃ k v, i = index + k ∧ (e :: es)[k]? = some ⟨some name, v⟩) ↔
        (∃ v, i = index ∧ e = ⟨some name, v⟩) ∨ (name, i) ∈ namedFrom (index + 1) es := by
      rw [htail]
      constructor
      · rintro ⟨k, v, hi, he⟩
        cases k with
        | zero => exact .inl ⟨v, hi, Option.some.inj he⟩
        | succ k => exact .inr ⟨k, v, hi, he⟩
      · rintro (⟨v, hi, he⟩ | ⟨k, v, hi, he⟩)
        · exact ⟨0, v, hi, congrArg some he⟩
        · exact ⟨k + 1, v, hi, he⟩
    rw [hsplit]
    obtain ⟨own, w⟩ := e
    cases own with
    | none => simp [namedFrom]
    | some own =>
      rw [namedFrom, List.mem_cons]
      simp [eq_comm, and_comm]

/-! ### Building -/

section

variable {known positions : List (String × Nat)} {index : Nat} {es : List Entry} {name : String}

theorem isSome_lookup_iff : (known.lookup name).isSome = true ↔ name ∈ known.map Prod.fst := by
  rw [List.lookup_isSome_iff, List.mem_map]
  constructor
  · rintro ⟨p, hp, hname⟩
    exact ⟨p, hp, (beq_iff_eq.mp hname).symm⟩
  · rintro ⟨p, hp, rfl⟩
    exact ⟨p, hp, beq_self_eq_true _⟩

theorem positionsOf_of_mem (h : name ∈ known.map Prod.fst) (v : Value) :
    positionsOf known index (⟨some name, v⟩ :: es) = .error name :=
  if_pos (isSome_lookup_iff.mpr h)

theorem positionsOf_of_not_mem (h : name ∉ known.map Prod.fst) (v : Value) :
    positionsOf known index (⟨some name, v⟩ :: es) =
      positionsOf (known ++ [(name, index)]) (index + 1) es :=
  if_neg fun hsome => h (isSome_lookup_iff.mp hsome)

/-- To be new behind one more name is to differ from it as well. -/
theorem forall_not_mem_known_append {names : List String} :
    (∀ n ∈ names, n ∉ (known ++ [(name, index)]).map Prod.fst) ↔
      name ∉ names ∧ ∀ n ∈ names, n ∉ known.map Prod.fst := by
  simp only [List.map_append, List.map_cons, List.map_nil, List.mem_append, List.mem_singleton,
    not_or]
  constructor
  · exact fun h => ⟨fun hname => (h name hname).2 rfl, fun n hn => (h n hn).1⟩
  · rintro ⟨hname, h⟩ n hn
    refine ⟨h n hn, ?_⟩
    rintro rfl
    exact hname hn

/-- **Positions are had exactly if no name is known or repeated**, and then they are those of the
named entries, behind the known ones. -/
theorem positionsOf_eq_ok_iff :
    positionsOf known index es = .ok positions ↔ positions = known ++ namedFrom index es ∧
      (namesOf es).Nodup ∧ ∀ n ∈ namesOf es, n ∉ known.map Prod.fst := by
  induction es generalizing known index with
  | nil => simp [positionsOf, namedFrom, eq_comm]
  | cons e es ih =>
    obtain ⟨own, v⟩ := e
    cases own with
    | none => exact ih
    | some own =>
      by_cases hown : own ∈ known.map Prod.fst
      · rw [positionsOf_of_mem hown]
        constructor
        · nofun
        · rintro ⟨-, -, hnew⟩
          exact absurd hown (hnew own List.mem_cons_self)
      · -- the name is known from here on, so that the names behind it must differ from it
        rw [positionsOf_of_not_mem hown, ih, forall_not_mem_known_append, namedFrom,
          List.append_assoc, List.singleton_append, namesOf_some, List.nodup_cons,
          List.forall_mem_cons]
        constructor
        · rintro ⟨hpositions, hnodup, hnot, hnew⟩
          exact ⟨hpositions, ⟨hnot, hnodup⟩, hown, hnew⟩
        · rintro ⟨hpositions, ⟨hnot, hnodup⟩, -, hnew⟩
          exact ⟨hpositions, hnodup, hnot, hnew⟩

/-- Positions of some entries and more are had one after the other. -/
theorem positionsOf_append (known : List (String × Nat)) (index : Nat) (es fs : List Entry) :
    positionsOf known index (es ++ fs) = (do
      let positions ← positionsOf known index es
      positionsOf positions (index + es.length) fs) := by
  induction es generalizing known index with
  | nil => rfl
  | cons e es ih =>
    rw [List.length_cons, Nat.add_comm es.length, ← Nat.add_assoc]
    obtain ⟨own, v⟩ := e
    cases own with
    | none => exact ih known (index + 1)
    | some own =>
      by_cases hown : own ∈ known.map Prod.fst
      · rw [List.cons_append, positionsOf_of_mem hown, positionsOf_of_mem hown]
        rfl
      · rw [List.cons_append, positionsOf_of_not_mem hown, positionsOf_of_not_mem hown, ih]

theorem exists_repeat_of_positionsOf_eq_error (h : positionsOf known index es = .error name) :
    ∃ before v after, es = before ++ ⟨some name, v⟩ :: after ∧ (namesOf before).Nodup ∧
      (∀ n ∈ namesOf before, n ∉ known.map Prod.fst) ∧
      name ∈ known.map Prod.fst ++ namesOf before := by
  induction es generalizing known index with
  | nil => cases h
  | cons e es ih =>
    obtain ⟨own, v⟩ := e
    cases own with
    | none =>
      obtain ⟨before, w, after, rfl, hbefore⟩ := ih h
      exact ⟨⟨none, v⟩ :: before, w, after, rfl, hbefore⟩
    | some own =>
      by_cases hown : own ∈ known.map Prod.fst
      · rw [positionsOf_of_mem hown] at h
        cases h
        exact ⟨[], v, es, rfl, List.nodup_nil, nofun, List.mem_append_left _ hown⟩
      · rw [positionsOf_of_not_mem hown] at h
        obtain ⟨before, w, after, rfl, hnodup, hnew, hmem⟩ := ih h
        obtain ⟨hnot, hnew⟩ := forall_not_mem_known_append.mp hnew
        refine ⟨⟨some own, v⟩ :: before, w, after, rfl, ?_, ?_, ?_⟩
        · exact List.nodup_cons.mpr ⟨hnot, hnodup⟩
        · exact List.forall_mem_cons.mpr ⟨hown, hnew⟩
        · rw [List.map_append, List.append_assoc] at hmem
          exact hmem

/-- **The name that is refused** is the first that is known or comes a second time. -/
theorem positionsOf_eq_error_iff :
    positionsOf known index es = .error name ↔ ∃ before v after,
      es = before ++ ⟨some name, v⟩ :: after ∧ (namesOf before).Nodup ∧
        (∀ n ∈ namesOf before, n ∉ known.map Prod.fst) ∧
        name ∈ known.map Prod.fst ++ namesOf before := by
  constructor
  · exact exists_repeat_of_positionsOf_eq_error
  · rintro ⟨before, v, after, rfl, hnodup, hnew, hmem⟩
    have hbefore : positionsOf known index before = .ok (known ++ namedFrom index before) :=
      positionsOf_eq_ok_iff.mpr ⟨rfl, hnodup, hnew⟩
    have hknown : name ∈ (known ++ namedFrom index before).map Prod.fst := by
      rw [List.map_append, map_fst_namedFrom]
      exact hmem
    rw [positionsOf_append, hbefore]
    exact positionsOf_of_mem hknown v

end

namespace Builder

variable {b : Builder} {c : Context} {e : FormatError}

/-- **A context is built exactly if no name is repeated.** -/
theorem build_eq_ok_iff :
    b.build = .ok c ↔ c = ⟨b.entries, namedFrom 0 b.entries⟩ ∧ (namesOf b.entries).Nodup := by
  have hpositions : ∀ positions, positionsOf [] 0 b.entries = .ok positions ↔
      positions = namedFrom 0 b.entries ∧ (namesOf b.entries).Nodup := fun positions => by
    rw [positionsOf_eq_ok_iff]
    simp
  rw [build]
  cases h : positionsOf [] 0 b.entries with
  | ok positions =>
    obtain ⟨rfl, hnodup⟩ := (hpositions positions).mp h
    simp [hnodup, eq_comm]
  | error name =>
    have hnot : ¬ (namesOf b.entries).Nodup := fun hnodup => by
      rw [(hpositions _).mpr ⟨rfl, hnodup⟩] at h
      cases h
    simp [hnot]

/-- **Building fails with the first name that is repeated.** -/
theorem build_eq_error_iff :
    b.build = .error e ↔ ∃ name, e = .duplicateName name ∧ IsFirstRepeat name b.entries := by
  have hpositions : ∀ name, positionsOf [] 0 b.entries = .error name ↔
      IsFirstRepeat name b.entries := fun name => by
    rw [positionsOf_eq_error_iff, IsFirstRepeat]
    simp
  simp only [← hpositions]
  rw [build]
  cases positionsOf [] 0 b.entries with
  | ok positions => simp
  | error name => simp [eq_comm]

end Builder

/-! ### What a context keeps -/

/-- What a context keeps of the entries `es`, all of them in their order. -/
structure Context.IsRegistryOf (c : Context) (es : List Entry) : Prop where
  /-- A name stands beside a position exactly if the entry there has it. -/
  mem_positions : ∀ name (i : Nat), (name, i) ∈ c.positions ↔ ∃ v, es[i]? = some ⟨some name, v⟩
  /-- Each name stands there once. -/
  lookup_positions : ∀ name i, c.positions.lookup name = some i ↔ (name, i) ∈ c.positions
  /-- Whatever position is looked up, there is an entry. -/
  in_bounds : ∀ name i, c.positions.lookup name = some i → i < c.entries.length
  /-- A name finds a value exactly if one entry has the name, and this value. -/
  get_eq_some_iff : ∀ name v, c.get name = some v ↔
    ∃ i : Nat, es[i]? = some ⟨some name, v⟩ ∧
      ∀ (j : Nat) w, es[j]? = some ⟨some name, w⟩ → j = i
  /-- It is the value at the position of that entry. -/
  get_eq_getIndex : ∀ name (i : Nat) v, es[i]? = some ⟨some name, v⟩ → c.get name = c.getIndex i
  getIndex_eq : ∀ i : Nat, c.getIndex i = es[i]?.map Entry.value
  contains_iff : ∀ name, c.contains name = true ↔ name ∈ c.names
  names_eq : c.names = namesOf es
  names_nodup : c.names.Nodup
  size_eq : c.size = es.length
  /-- The context can be taken apart and built again. -/
  rebuild : c.toBuilder.build = .ok c

/-- The position of a name that stands there once can be looked up. -/
theorem lookup_eq_some_iff_mem {known : List (String × Nat)} (h : (known.map Prod.fst).Nodup)
    {name : String} {i : Nat} : known.lookup name = some i ↔ (name, i) ∈ known := by
  rw [List.lookup_eq_some_iff]
  constructor
  · rintro ⟨before, after, rfl, -⟩
    exact List.mem_append_right _ List.mem_cons_self
  · intro hmem
    obtain ⟨before, after, rfl⟩ := List.append_of_mem hmem
    refine ⟨before, after, rfl, fun p hp => ?_⟩
    rw [List.map_append, List.nodup_append] at h
    have hne := h.2.2 p.1 (List.mem_map_of_mem hp) name (List.mem_map_of_mem List.mem_cons_self)
    exact bne_iff_ne.mpr hne.symm

/-- **Entries without repeated names, and the positions of their names, are a registry.** -/
theorem Context.isRegistryOf_of_nodup {es : List Entry} (h : (namesOf es).Nodup) :
    (⟨es, namedFrom 0 es⟩ : Context).IsRegistryOf es := by
  have hkeys : ((namedFrom 0 es).map Prod.fst).Nodup := by
    rw [map_fst_namedFrom]
    exact h
  have hmem : ∀ name (i : Nat), (name, i) ∈ namedFrom 0 es ↔ ∃ v, es[i]? = some ⟨some name, v⟩ := by
    intro name i
    rw [mem_namedFrom]
    constructor
    · rintro ⟨k, v, rfl, hk⟩
      rw [Nat.zero_add]
      exact ⟨v, hk⟩
    · rintro ⟨v, hi⟩
      exact ⟨i, v, (Nat.zero_add i).symm, hi⟩
  have hlookup : ∀ name (i : Nat), (namedFrom 0 es).lookup name = some i ↔
      ∃ v, es[i]? = some ⟨some name, v⟩ := fun name i => by
    rw [lookup_eq_some_iff_mem hkeys, hmem]
  have hget : ∀ name (i : Nat) v, es[i]? = some ⟨some name, v⟩ →
      (⟨es, namedFrom 0 es⟩ : Context).get name = (⟨es, namedFrom 0 es⟩ : Context).getIndex i := by
    intro name i v hi
    rw [get, (hlookup name i).mpr ⟨v, hi⟩]
    rfl
  have hunique : ∀ name (i j : Nat) v w, es[i]? = some ⟨some name, v⟩ →
      es[j]? = some ⟨some name, w⟩ → j = i := by
    intro name i j v w hi hj
    have hlook := (hlookup name i).mpr ⟨v, hi⟩
    rw [(hlookup name j).mpr ⟨w, hj⟩] at hlook
    exact Option.some.inj hlook
  refine ⟨hmem, fun name i => lookup_eq_some_iff_mem hkeys, ?_, ?_, hget, fun _ => rfl, ?_, rfl, h,
    rfl, ?_⟩
  · intro name i hi
    obtain ⟨v, hv⟩ := (hlookup name i).mp hi
    exact (List.getElem?_eq_some_iff.mp hv).1
  · intro name v
    constructor
    · intro hv
      rw [get, Option.bind_eq_some_iff] at hv
      obtain ⟨i, hi, hvalue⟩ := hv
      obtain ⟨w, hw⟩ := (hlookup name i).mp hi
      have hvalue : (es[i]?).map Entry.value = some v := hvalue
      rw [hw] at hvalue
      cases hvalue
      exact ⟨i, hw, fun j w' => hunique name i j _ w' hw⟩
    · rintro ⟨i, hi, -⟩
      rw [hget name i v hi]
      show (es[i]?).map Entry.value = some v
      rw [hi]
      rfl
  · intro name
    show ((namedFrom 0 es).lookup name).isSome = true ↔ name ∈ namesOf es
    rw [isSome_lookup_iff, map_fst_namedFrom]
  · exact Builder.build_eq_ok_iff.mpr ⟨rfl, h⟩

/-! ### Histories -/

mutual

/-- Whether a builder comes from registering some entries, one after another. -/
inductive Builder.ComesFrom : Builder → List Entry → Prop
  | new : Builder.ComesFrom {} []
  | add {b : Builder} {es : List Entry} (name : String) (v : Value)
    (h : Builder.ComesFrom b es) : Builder.ComesFrom (b.add name v) (es ++ [⟨some name, v⟩])
  | push {b : Builder} {es : List Entry} (v : Value) (h : Builder.ComesFrom b es) :
    Builder.ComesFrom (b.push v) (es ++ [⟨none, v⟩])
  | apply {b : Builder} {es : List Entry} (f : ContextFile) (h : Builder.ComesFrom b es) :
    Builder.ComesFrom (f.apply b) (es ++ f.values.map fun (name, v) => ⟨some name, v⟩)
  | toBuilder {c : Context} {es : List Entry} (h : Context.ComesFrom c es) :
    Builder.ComesFrom c.toBuilder es

/-- Whether a context comes from registering some entries, one after another. -/
inductive Context.ComesFrom : Context → List Entry → Prop
  | build {b : Builder} {c : Context} {es : List Entry} (h : Builder.ComesFrom b es)
    (hc : b.build = .ok c) : Context.ComesFrom c es
  | ofValues (vs : List Value) :
    Context.ComesFrom (Context.ofValues vs) (vs.map fun v => ⟨none, v⟩)

end

/-- To register some things one after another is to append their entries. -/
theorem Builder.entries_foldl {α : Type} {register : Builder → α → Builder} {entry : α → Entry}
    (h : ∀ b x, (register b x).entries = b.entries ++ [entry x]) (xs : List α) (b : Builder) :
    (xs.foldl register b).entries = b.entries ++ xs.map entry := by
  induction xs generalizing b with
  | nil => exact (List.append_nil _).symm
  | cons x xs ih =>
    rw [List.foldl_cons, ih, h, List.append_assoc, List.map_cons]
    rfl

/-- A context file registers its values in their order. -/
theorem ContextFile.entries_apply (f : ContextFile) (b : Builder) :
    (f.apply b).entries = b.entries ++ f.values.map fun (name, v) => ⟨some name, v⟩ :=
  Builder.entries_foldl (fun _ _ => rfl) f.values b

theorem namesOf_map_none (vs : List Value) : namesOf (vs.map fun v => ⟨none, v⟩) = [] := by
  induction vs with
  | nil => rfl
  | cons v vs ih => exact ih

theorem namedFrom_map_none (index : Nat) (vs : List Value) :
    namedFrom index (vs.map fun v => ⟨none, v⟩) = [] := by
  induction vs generalizing index with
  | nil => rfl
  | cons v vs ih => exact ih (index + 1)

mutual

/-- A builder holds what was registered. -/
theorem Builder.ComesFrom.entries_eq {b : Builder} {es : List Entry} :
    b.ComesFrom es → b.entries = es
  | .new => rfl
  | .add name v h => by rw [Builder.add, h.entries_eq]
  | .push v h => by rw [Builder.push, h.entries_eq]
  | .apply f h => by rw [ContextFile.entries_apply, h.entries_eq]
  | .toBuilder h => congrArg Context.entries h.eq.1

/-- A context holds what was registered, and the positions of the names in it. -/
theorem Context.ComesFrom.eq {c : Context} {es : List Entry} :
    c.ComesFrom es → c = ⟨es, namedFrom 0 es⟩ ∧ (namesOf es).Nodup
  | .build h hc => by
    rw [← h.entries_eq]
    exact Builder.build_eq_ok_iff.mp hc
  | .ofValues vs => by
    rw [namedFrom_map_none, namesOf_map_none]
    exact ⟨rfl, List.nodup_nil⟩

end

/-- Values without names can be registered at once or one by one. -/
theorem Builder.build_foldl_push (vs : List Value) :
    (vs.foldl Builder.push {}).build = .ok (Context.ofValues vs) := by
  have hentries : (vs.foldl Builder.push {}).entries = vs.map fun v => ⟨none, v⟩ :=
    Builder.entries_foldl (fun _ _ => rfl) vs {}
  rw [Builder.build_eq_ok_iff, hentries, namedFrom_map_none, namesOf_map_none]
  exact ⟨rfl, List.nodup_nil⟩

/-- Building fails exactly if some name is registered twice. -/
theorem Builder.exists_build_eq_error_iff {b : Builder} :
    (∃ e, b.build = .error e) ↔ ∃ name, 2 ≤ (namesOf b.entries).count name := by
  have hfails : (∃ e, b.build = .error e) ↔ ¬ (namesOf b.entries).Nodup := by
    cases h : b.build with
    | ok c => simp [(build_eq_ok_iff.mp h).2]
    | error e =>
      have hnot : ¬ (namesOf b.entries).Nodup := fun hnodup => by
        rw [build_eq_ok_iff.mpr ⟨rfl, hnodup⟩] at h
        cases h
      simp [hnot]
  rw [hfails, List.nodup_iff_count]
  simp only [Classical.not_forall, Nat.not_le]
  exact Iff.rfl

/-- **The registry invariant.** Whatever the history of a context, it keeps the entries that were
registered and the positions of their names, so that a name finds its entry, and it can be built
again from what it holds. Values without names make the same context at once and one by one. A
history cannot be built exactly if it has a name twice, and the error has the name whose repetition
comes first. -/
theorem registry_exact :
    (∀ (c : Context) es, c.ComesFrom es → c.entries = es ∧ c.IsRegistryOf es) ∧
      (∀ vs : List Value, (vs.foldl Builder.push {}).build = .ok (Context.ofValues vs)) ∧
      ∀ (b : Builder) es, b.ComesFrom es →
        ((∃ e, b.build = .error e) ↔ ∃ name, 2 ≤ (namesOf es).count name) ∧
          ∀ e, b.build = .error e ↔ ∃ name, e = .duplicateName name ∧ IsFirstRepeat name es := by
  refine ⟨fun c es h => ?_, Builder.build_foldl_push, fun b es h => ?_⟩
  · obtain ⟨rfl, hnodup⟩ := h.eq
    exact ⟨rfl, Context.isRegistryOf_of_nodup hnodup⟩
  · rw [← h.entries_eq]
    exact ⟨Builder.exists_build_eq_error_iff, fun e => Builder.build_eq_error_iff⟩

/-- A context that is opened again for a name that it has, behind a value without a name. -/
theorem registry_exact_reopened :
    ∃ c : Context,
      c.ComesFrom [⟨some "b", .integer 1⟩, ⟨none, .integer 2⟩, ⟨some "a", .text "x"⟩] ∧
        c.names = ["b", "a"] ∧ c.get "a" = c.getIndex 2 ∧ c.toBuilder.build = .ok c ∧
        ((c.toBuilder.push (.integer 4)).add "b" (.integer 5)).build =
          .error (.duplicateName "b") := by
  have hfilled := ((Builder.ComesFrom.new.add "b" (.integer 1)).push (.integer 2)).add "a"
    (.text "x")
  have hc := Context.ComesFrom.build hfilled rfl
  have hregistry := (registry_exact.1 _ _ hc).2
  have hreopened := ((Builder.ComesFrom.toBuilder hc).push (.integer 4)).add "b" (.integer 5)
  refine ⟨_, hc, rfl, hregistry.get_eq_getIndex "a" 2 _ rfl, hregistry.rebuild, ?_⟩
  refine ((registry_exact.2.2 _ _ hreopened).2 _).mpr ⟨"b", rfl, ?_⟩
  exact ⟨[⟨some "b", .integer 1⟩, ⟨none, .integer 2⟩, ⟨some "a", .text "x"⟩, ⟨none, .integer 4⟩],
    .integer 5, [], rfl, by decide, by decide⟩

end PathTemplate
