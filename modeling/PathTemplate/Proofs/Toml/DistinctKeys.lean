/-
# No table of a document has a key twice

A table is built by steps that add an entry where its key is new, or else change
the item of an entry that is there. So no step gives a table a key that it has,
and since every item comes from a reader that builds its tables by such steps,
no table of a document has a key twice, however deep it lies.

Key definitions: `Item.KeysDiffer`, `Entries.KeysDiffer`, `Draft.KeysDiffer`.
Key theorems: `KeysDiffer.put`, `KeysDiffer.within`, `gives_value`, `KeysDiffer.step`,
`Document.keysDiffer_of_read`.
-/
import PathTemplate.Proofs.Text.Reading
import PathTemplate.Toml.Document

namespace PathTemplate.Toml

open Text Text.Reader

/-- Whether no table in an item has a key twice. -/
inductive Item.KeysDiffer : Item → Prop
  | text (s : String) : KeysDiffer (.text s)
  | integer (n : Int) : KeysDiffer (.integer n)
  | float (x : Decimal.Binary64) : KeysDiffer (.float x)
  | boolean (b : Bool) : KeysDiffer (.boolean b)
  | stamp (s : Stamp) : KeysDiffer (.stamp s)
  | array {items : List Item} (h : ∀ i ∈ items, KeysDiffer i) : KeysDiffer (.array items)
  | table {origin : Origin} {entries : List (String × Item)}
    (hkeys : (entries.map Prod.fst).Nodup) (h : ∀ e ∈ entries, KeysDiffer e.2) :
    KeysDiffer (.table origin entries)
  | tables {items : List Item} (h : ∀ i ∈ items, KeysDiffer i) : KeysDiffer (.tables items)

/-- Whether some entries have no key twice, and no table in their items has. -/
structure Entries.KeysDiffer (es : Entries) : Prop where
  nodup : (es.map Prod.fst).Nodup
  items : ∀ e ∈ es, e.2.KeysDiffer

theorem Item.keysDiffer_table_iff {origin : Origin} {es : Entries} :
    (Item.table origin es).KeysDiffer ↔ es.KeysDiffer := by
  constructor
  · intro h
    cases h with
    | table hkeys h => exact ⟨hkeys, h⟩
  · exact fun h => .table h.nodup h.items

/-- The last of some tables. -/
theorem Item.KeysDiffer.last {items : List Item} (h : (Item.tables items).KeysDiffer) {i : Item}
    (hi : items.getLast? = some i) : i.KeysDiffer := by
  cases h with
  | tables h => exact h i (List.mem_of_getLast? hi)

/-- Some tables with one more at the end. -/
theorem Item.KeysDiffer.concat {items : List Item} (h : (Item.tables items).KeysDiffer) {i : Item}
    (hi : i.KeysDiffer) : (Item.tables (items ++ [i])).KeysDiffer := by
  cases h with
  | tables h => exact .tables (List.forall_mem_append.mpr ⟨h, List.forall_mem_singleton.mpr hi⟩)

/-- Some tables with another in the place of the last. -/
theorem Item.KeysDiffer.replaceLast {items : List Item} (h : (Item.tables items).KeysDiffer)
    {i : Item} (hi : i.KeysDiffer) : (Item.tables (items.dropLast ++ [i])).KeysDiffer := by
  refine Item.KeysDiffer.concat ?_ hi
  cases h with
  | tables h => exact .tables fun j hj => h j (List.dropLast_subset items hj)

/-! ### Building tables -/

namespace Entries.KeysDiffer

variable {es fs : Entries} {key : String} {item : Item}

theorem nil : KeysDiffer [] := ⟨List.nodup_nil, nofun⟩

/-- A table of such entries. -/
theorem table (h : es.KeysDiffer) (origin : Origin) : (Item.table origin es).KeysDiffer :=
  Item.keysDiffer_table_iff.mpr h

theorem lookup (h : es.KeysDiffer) (hl : es.lookup key = some item) : item.KeysDiffer := by
  obtain ⟨before, after, rfl, -⟩ := List.lookup_eq_some_iff.mp hl
  exact h.items (key, item) (List.mem_append_right _ List.mem_cons_self)

/-- The table under a key. -/
theorem sub (h : es.KeysDiffer) {origin : Origin} {sub : Entries}
    (hl : es.lookup key = some (.table origin sub)) : sub.KeysDiffer :=
  Item.keysDiffer_table_iff.mp (h.lookup hl)

/-- The last of the tables under a key. -/
theorem lastSub (h : es.KeysDiffer) {items : List Item} (hl : es.lookup key = some (.tables items))
    {origin : Origin} {sub : Entries} (hlast : items.getLast? = some (.table origin sub)) :
    sub.KeysDiffer := Item.keysDiffer_table_iff.mp ((h.lookup hl).last hlast)

/-- An entry with a new key keeps the keys apart. -/
theorem add (h : es.KeysDiffer) (hnew : es.lookup key = none) (hi : item.KeysDiffer) :
    (es.add key item).KeysDiffer := by
  have hnot : key ∉ es.map Prod.fst := by
    rw [List.mem_map]
    rintro ⟨e, he, rfl⟩
    exact absurd rfl (bne_iff_ne.mp (List.lookup_eq_none_iff.mp hnew e he))
  constructor
  · rw [Entries.add, List.map_append, List.nodup_append]
    refine ⟨h.nodup, List.nodup_cons.mpr ⟨List.not_mem_nil, List.nodup_nil⟩, fun a ha b hb => ?_⟩
    rw [List.eq_of_mem_singleton hb]
    rintro rfl
    exact hnot ha
  · exact List.forall_mem_append.mpr ⟨h.items, List.forall_mem_singleton.mpr hi⟩

/-- Another item under a key leaves the keys as they are. -/
theorem replace (h : es.KeysDiffer) (hi : item.KeysDiffer) : (es.replace key item).KeysDiffer := by
  have hkeys : (es.replace key item).map Prod.fst = es.map Prod.fst := by
    rw [Entries.replace, List.map_map]
    refine List.map_congr_left fun e _ => ?_
    rw [Function.comp_apply]
    split_ifs with hkey
    · exact hkey.symm
    · rfl
  refine ⟨hkeys ▸ h.nodup, fun e he => ?_⟩
  obtain ⟨d, hd, rfl⟩ := List.mem_map.mp he
  split_ifs
  · exact hi
  · exact h.items d hd

theorem without (h : es.KeysDiffer) (key : String) : (es.without key).KeysDiffer :=
  ⟨h.nodup.sublist (List.filter_sublist.map Prod.fst),
    fun e he => h.items e (List.mem_filter.mp he).1⟩

/-- **A dotted key is put where it is new.** -/
theorem put {path : List String} (h : es.KeysDiffer) (hi : item.KeysDiffer)
    (hput : es.put key item path = some fs) : fs.KeysDiffer := by
  induction path generalizing es fs with
  | nil =>
    rw [Entries.put] at hput
    split_ifs at hput with hkey
    cases hput
    exact h.add (Option.not_isSome_iff_eq_none.mp hkey) hi
  | cons p ps ih =>
    rw [Entries.put] at hput
    split at hput
    · next hl =>
      obtain ⟨sub, hsub, hfs⟩ := Option.bind_eq_some_iff.mp hput
      cases hfs
      exact h.add hl ((ih nil hsub).table _)
    · next hl =>
      obtain ⟨sub, hsub, hfs⟩ := Option.bind_eq_some_iff.mp hput
      cases hfs
      exact h.replace ((ih (h.sub hl) hsub).table _)
    · next hl =>
      split_ifs at hput
      obtain ⟨sub, hsub, hfs⟩ := Option.bind_eq_some_iff.mp hput
      cases hfs
      exact h.replace ((ih (h.sub hl) hsub).table _)
    · next hl =>
      split at hput
      · next hlast =>
        obtain ⟨sub, hsub, hfs⟩ := Option.bind_eq_some_iff.mp hput
        cases hfs
        have hnew := ih (h.lastSub hl hlast) hsub
        exact h.replace ((h.lookup hl).replaceLast (hnew.table _))
      · cases hput
    · cases hput

/-- **What a step does in the table at the end of a path is done in the whole.** -/
theorem within {α : Type} {P : α → Prop} {step : Entries → Option (α × Entries)}
    (hstep : ∀ es a fs, es.KeysDiffer → step es = some (a, fs) → P a ∧ fs.KeysDiffer)
    {path : List String} {a : α} (h : es.KeysDiffer)
    (hwithin : es.within step path = some (a, fs)) : P a ∧ fs.KeysDiffer := by
  induction path generalizing es fs with
  | nil => exact hstep es a fs h hwithin
  | cons p ps ih =>
    rw [Entries.within] at hwithin
    split at hwithin
    · next hl =>
      obtain ⟨⟨b, sub⟩, hsub, hfs⟩ := Option.bind_eq_some_iff.mp hwithin
      cases hfs
      exact (ih nil hsub).imp_right fun hd => h.add hl (hd.table _)
    · cases hwithin
    · next hl =>
      obtain ⟨⟨b, sub⟩, hsub, hfs⟩ := Option.bind_eq_some_iff.mp hwithin
      cases hfs
      exact (ih (h.sub hl) hsub).imp_right fun hd =>
        h.replace (hd.table _)
    · next hl =>
      split at hwithin
      · next hlast =>
        obtain ⟨⟨b, sub⟩, hsub, hfs⟩ := Option.bind_eq_some_iff.mp hwithin
        cases hfs
        exact (ih (h.lastSub hl hlast) hsub).imp_right fun hd =>
          h.replace ((h.lookup hl).replaceLast (hd.table _))
      · cases hwithin
    · cases hwithin

end Entries.KeysDiffer

/-! ### Reading items -/

namespace Document

theorem gives_scalar : Gives Item.KeysDiffer Scalar.value :=
  (gives_map .text).orElse <| (gives_map .boolean).orElse <| (gives_map .stamp).orElse <|
    (gives_map .float).orElse <| gives_map .integer

variable {item : Reader Item} (hitem : Gives Item.KeysDiffer item)

include hitem

theorem gives_assignment : Gives (fun p => p.2.KeysDiffer) (assignment item) :=
  gives_bind fun _ => gives_bind fun _ => gives_bind fun _ => hitem.bind fun _ hi => gives_pure hi

theorem gives_arrayItems (n : Nat) : Gives (∀ i ∈ ·, i.KeysDiffer) (arrayItems item n) := by
  induction n with
  | zero => exact gives_failure
  | succ n ih =>
    refine gives_bind fun _ => gives_bind fun closing => ?_
    cases closing with
    | some u => exact gives_pure nofun
    | none =>
      refine hitem.bind fun i hi => gives_bind fun _ => gives_bind fun c => ?_
      split
      · exact ih.bind fun is his => gives_pure (List.forall_mem_cons.mpr ⟨hi, his⟩)
      · exact gives_pure (List.forall_mem_singleton.mpr hi)

theorem gives_array : Gives Item.KeysDiffer (array item) :=
  gives_bind fun _ => (gives_bounded fun n => gives_arrayItems hitem (n + 1)).map fun _ => .array

theorem gives_closedEntries (n : Nat) {es : Entries} (hes : es.KeysDiffer) :
    Gives Entries.KeysDiffer (closedEntries item es n) := by
  induction n generalizing es with
  | zero => exact gives_failure
  | succ n ih =>
    refine (gives_assignment hitem).bind fun (k, i) hi => ?_
    dsimp only
    split
    · exact gives_failure
    · next hput =>
      have hfs := hes.put hi hput
      refine gives_bind fun _ => gives_bind fun c => ?_
      split
      · exact ih hfs
      · exact gives_pure hfs

theorem gives_closedTable : Gives Item.KeysDiffer (closedTable item) := by
  refine gives_bind fun _ => gives_bind fun _ => gives_bind fun closing => ?_
  cases closing with
  | some u => exact gives_pure (Entries.KeysDiffer.nil.table _)
  | none =>
    refine (gives_bounded fun n => ?_).map fun es hes => Entries.KeysDiffer.table hes _
    exact gives_closedEntries hitem n .nil

omit hitem

/-- **No table in a value has a key twice**, by induction on how deep it lies. -/
theorem gives_value (depth : Nat) : Gives Item.KeysDiffer (value depth) := by
  induction depth with
  | zero => exact gives_scalar
  | succ depth ih => exact (gives_array ih).orElse ((gives_closedTable ih).orElse gives_scalar)

end Document

/-- Whether the item of a statement, if it has one, has no table with a key twice. -/
def Statement.KeysDiffer : Statement → Prop
  | .header _ | .arrayHeader _ => True
  | .assign _ item => item.KeysDiffer

namespace Document

theorem gives_header : Gives Statement.KeysDiffer header := by
  refine .orElse ?_ ?_
  · exact gives_bind fun _ => gives_bind fun _ => gives_bind fun _ => gives_pure trivial
  · exact gives_bind fun _ => gives_bind fun _ => gives_bind fun _ => gives_pure trivial

theorem gives_statement : Gives Statement.KeysDiffer statement := by
  refine gives_bind fun _ => .bind (.orElse gives_header ?_) fun s hs => ?_
  · exact (gives_assignment (gives_value _)).bind fun _ hi => gives_pure hi
  · exact gives_bind fun _ => gives_pure hs

theorem gives_statements : Gives (∀ s ∈ ·, s.KeysDiffer) statements := by
  have hnext : Gives Statement.KeysDiffer nextStatement := gives_bind fun _ => gives_statement
  refine gives_bind fun _ => hnext.many.bind fun ss hss => ?_
  exact gives_bind fun _ => gives_bind fun _ => gives_bind fun _ => gives_pure hss

end Document

/-! ### What statements build -/

/-- Whether the tables of a draft have no key twice. -/
structure Draft.KeysDiffer (d : Draft) : Prop where
  root : d.root.KeysDiffer
  current : d.current.KeysDiffer

namespace Draft

variable {es fs : Entries} {d d' : Draft}

theorem keysDiffer_of_placeTable {key : String} {current : Entries} (hcurrent : current.KeysDiffer)
    {u : Unit} (h : es.KeysDiffer) (hplace : placeTable key current es = some (u, fs)) :
    fs.KeysDiffer := by
  rw [placeTable] at hplace
  split at hplace
  · next hnew =>
    cases hplace
    exact h.add hnew (hcurrent.table _)
  · cases hplace

theorem keysDiffer_of_placeNewTable {key : String} {current : Entries}
    (hcurrent : current.KeysDiffer) {u : Unit} (h : es.KeysDiffer)
    (hplace : placeNewTable key current es = some (u, fs)) : fs.KeysDiffer := by
  rw [placeNewTable] at hplace
  split at hplace
  · next hl =>
    cases hplace
    exact h.replace ((h.lookup hl).concat (hcurrent.table _))
  · cases hplace

theorem keysDiffer_of_takeTable {key : String} {sub : Entries} (h : es.KeysDiffer)
    (htake : takeTable key es = some (sub, fs)) : sub.KeysDiffer ∧ fs.KeysDiffer := by
  rw [takeTable] at htake
  split at htake
  · cases htake
    exact ⟨.nil, h⟩
  · next hl =>
    cases htake
    exact ⟨h.sub hl, h.without key⟩
  · cases htake

theorem keysDiffer_of_makeTables {key : String} {u : Unit} (h : es.KeysDiffer)
    (hmake : makeTables key es = some (u, fs)) : fs.KeysDiffer := by
  rw [makeTables] at hmake
  split at hmake
  · next hnew =>
    cases hmake
    exact h.add hnew (.tables nofun)
  · cases hmake
    exact h
  · cases hmake

theorem KeysDiffer.close (h : d.KeysDiffer) (hclose : d.close = some es) : es.KeysDiffer := by
  rw [Draft.close] at hclose
  split at hclose
  · cases hclose
    exact h.current
  · obtain ⟨⟨u, fs⟩, hfs, rfl⟩ := Option.map_eq_some_iff.mp hclose
    exact (h.root.within (P := fun _ => True)
      (fun _ _ _ hes hplace => ⟨trivial, keysDiffer_of_placeTable h.current hes hplace⟩) hfs).2
  · obtain ⟨⟨u, fs⟩, hfs, rfl⟩ := Option.map_eq_some_iff.mp hclose
    exact (h.root.within (P := fun _ => True)
      (fun _ _ _ hes hplace => ⟨trivial, keysDiffer_of_placeNewTable h.current hes hplace⟩) hfs).2

/-- **A statement gives no table a key that it has.** -/
theorem KeysDiffer.step (h : d.KeysDiffer) {s : Statement} (hs : s.KeysDiffer)
    (hstep : d.step s = some d') : d'.KeysDiffer := by
  cases s with
  | assign k i =>
    obtain ⟨current, hcurrent, hd⟩ := Option.bind_eq_some_iff.mp hstep
    cases hd
    exact ⟨h.root, h.current.put hs hcurrent⟩
  | header k =>
    obtain ⟨es, hes, hrest⟩ := Option.bind_eq_some_iff.mp hstep
    obtain ⟨⟨current, root⟩, htake, hd⟩ := Option.bind_eq_some_iff.mp hrest
    cases hd
    obtain ⟨hcurrent, hroot⟩ := (h.close hes).within
      (fun _ _ _ hes htake => keysDiffer_of_takeTable hes htake) htake
    exact ⟨hroot, hcurrent⟩
  | arrayHeader k =>
    obtain ⟨es, hes, hrest⟩ := Option.bind_eq_some_iff.mp hstep
    obtain ⟨⟨u, root⟩, hmake, hd⟩ := Option.bind_eq_some_iff.mp hrest
    cases hd
    have hroot := ((h.close hes).within (P := fun _ => True)
      (fun _ _ _ hes hmake => ⟨trivial, keysDiffer_of_makeTables hes hmake⟩) hmake).2
    exact ⟨hroot, .nil⟩

/-- Nor do statements one after another. -/
theorem KeysDiffer.foldlM {ss : List Statement} (h : d.KeysDiffer) (hss : ∀ s ∈ ss, s.KeysDiffer)
    (hrun : ss.foldlM Draft.step d = some d') : d'.KeysDiffer := by
  induction ss generalizing d with
  | nil =>
    cases hrun
    exact h
  | cons s ss ih =>
    obtain ⟨hs, hss⟩ := List.forall_mem_cons.mp hss
    obtain ⟨next, hnext, hrest⟩ := Option.bind_eq_some_iff.mp hrun
    exact ih (h.step hs hnext) hss hrest

end Draft

/-- **No table of a document has a key twice.** -/
theorem Document.keysDiffer_of_read {cs : List Char} {document : Entries}
    (h : Document.read cs = some document) : document.KeysDiffer := by
  obtain ⟨ss, hss, hbuild⟩ := Option.bind_eq_some_iff.mp h
  obtain ⟨d, hd, hclose⟩ := Option.bind_eq_some_iff.mp hbuild
  have hempty : Draft.KeysDiffer {} := ⟨.nil, .nil⟩
  exact (hempty.foldlM (gives_statements.of_whole hss) hd).close hclose

end PathTemplate.Toml
