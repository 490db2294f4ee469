/-
# Dates and times as tables

A date or time can stand for a table with one entry, which has its text under
a key of its own. The other way round, a table whose first key is that one
stands for the date or time in the text there. What it stands for is settled
from the outside in: in a table of that kind nothing else counts, and where
the text is no date or time the whole item is refused.

Key definitions: `stampKey`, `Item.entries?`, `Item.settle`, `settleEntries`.
Key theorems: `settleEntries_keys`.
-/
import PathTemplate.Toml.Scalar

namespace PathTemplate.Toml

open Text

/-- The key under which a date or time stands when it is taken for a table. -/
def stampKey : String := "$__toml_private_datetime"

/-- The text in an item. -/
def Item.text? : Item → Option String
  | .text s => some s
  | _ => none

/-- The entries of an item that can be taken for a table. A date or time has its text for one. -/
def Item.entries? : Item → Option Entries
  | .table _ entries => some entries
  | .stamp s => some [(stampKey, .text (String.ofList s.text))]
  | _ => none

/-- The item that must hold a date or time, in a table that begins with the key for it. -/
def stampItem : Entries → Option Item
  | [] => none
  | (key, item) :: _ => if key = stampKey then some item else none

/-- The date or time in the text of an item, which holds nothing else. -/
def Item.stamp? (item : Item) : Option Stamp := do
  Scalar.stamp.whole (← item.text?).toList

/-! ### What items stand for -/

mutual

/-- The item that an item stands for, unless some table in it should be a date or time and is
none. -/
def Item.settle : Item → Option Item
  | .array items => Item.array <$> settleItems items
  | .tables items => Item.tables <$> settleItems items
  | .table origin entries =>
    match stampItem entries with
    | some item => Item.stamp <$> item.stamp?
    | none => Item.table origin <$> settleEntries entries
  | item => some item

/-- The items that some items stand for. -/
def settleItems : List Item → Option (List Item)
  | [] => some []
  | item :: items => do return (← item.settle) :: (← settleItems items)

/-- The entries with what their items stand for. -/
def settleEntries : List (String × Item) → Option (List (String × Item))
  | [] => some []
  | (key, item) :: entries => do return (key, ← item.settle) :: (← settleEntries entries)

end

/-- Settling keeps the keys and their order. -/
theorem settleEntries_keys : ∀ {es fs : Entries}, settleEntries es = some fs →
    fs.map Prod.fst = es.map Prod.fst
  | [], fs, h => by
    simp only [settleEntries, Option.some.injEq] at h
    simp [← h]
  | (key, item) :: es, fs, h => by
    simp only [settleEntries, Option.bind_eq_bind, Option.bind_eq_some_iff, Option.pure_def,
      Option.some.injEq] at h
    obtain ⟨_, _, rest, hrest, rfl⟩ := h
    simp [settleEntries_keys hrest]

end PathTemplate.Toml
