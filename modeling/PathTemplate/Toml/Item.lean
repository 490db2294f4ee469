/-
# Items of a TOML document

An item is a value or a table. Tables remember how they came about, because
that decides what may be added to them later.

Key definitions: `Stamp`, `Stamp.text`, `Origin`, `Item`.
-/
import PathTemplate.Calendar.Date
import PathTemplate.Decimal.Binary64
import PathTemplate.Decimal.Digits

namespace PathTemplate.Toml

open Calendar Decimal

/-- A time of day. -/
structure TimeOfDay where
  hour : Nat
  minute : Nat
  second : Nat
  nanos : Nat
deriving DecidableEq, Repr

/-- The offset of a date-time: universal time, or minutes ahead of it. -/
inductive Offset
  | zulu
  | minutes (n : Int)
deriving DecidableEq, Repr

/-- A date, a time of day, or both with or without an offset. -/
inductive Stamp
  | time (t : TimeOfDay)
  | date (d : Date)
  | wall (d : Date) (t : TimeOfDay)
  | universal (d : Date) (t : TimeOfDay) (offset : Offset)
deriving DecidableEq, Repr

/-- A fraction of a second without the zeros at its end; nothing for zero. -/
def fractionText (nanos : Nat) : List Char :=
  if nanos = 0 then []
  else '.' :: ((zeroPadded 9 nanos).reverse.dropWhile (· == '0')).reverse

/-- A time of day with colons. -/
def TimeOfDay.text (t : TimeOfDay) : List Char :=
  zeroPadded 2 t.hour ++ ':' :: zeroPadded 2 t.minute ++ ':' :: zeroPadded 2 t.second ++
    fractionText t.nanos

/-- An offset as `Z`, or as a sign, hours and minutes. -/
def Offset.text : Offset → List Char
  | zulu => ['Z']
  | minutes n =>
    (if n < 0 then '-' else '+') :: zeroPadded 2 (n.natAbs / 60) ++
      ':' :: zeroPadded 2 (n.natAbs % 60)

/-- A date with hyphens; its year is from 0 to 9999. -/
def dateText (d : Date) : List Char :=
  zeroPadded 4 d.year.toNat ++ '-' :: zeroPadded 2 d.month ++ '-' :: zeroPadded 2 d.day

/-- The text of a date, a time or both. -/
def Stamp.text : Stamp → List Char
  | time t => t.text
  | date d => dateText d
  | wall d t => dateText d ++ 'T' :: t.text
  | universal d t offset => dateText d ++ 'T' :: t.text ++ offset.text

/-- How a table came about. -/
inductive Origin
  /-- By a header of its own. -/
  | header
  /-- As part of the path in a header of another table. -/
  | implied
  /-- As part of a dotted key. -/
  | dotted
  /-- In braces, after which nothing can be added. -/
  | closed
deriving DecidableEq, Repr

/-- What a key of a document stands for. -/
inductive Item
  | text (s : String)
  | integer (n : Int)
  | float (x : Binary64)
  | boolean (b : Bool)
  | stamp (s : Stamp)
  | array (items : List Item)
  | table (origin : Origin) (entries : List (String × Item))
  /-- Tables that headers in double brackets began, in order. -/
  | tables (items : List Item)

/-! ### Equality of items -/

mutual

/-- Whether two items are the same. -/
def Item.same : Item → Item → Bool
  | .text s, .text t => s == t
  | .integer m, .integer n => m == n
  | .float x, .float y => decide (x = y)
  | .boolean a, .boolean b => a == b
  | .stamp s, .stamp t => decide (s = t)
  | .array is, .array js => sameItems is js
  | .table o es, .table p fs => decide (o = p) && sameEntries es fs
  | .tables is, .tables js => sameItems is js
  | _, _ => false

/-- Whether two lists have the same items. -/
def sameItems : List Item → List Item → Bool
  | [], [] => true
  | i :: is, j :: js => i.same j && sameItems is js
  | _, _ => false

/-- Whether two tables have the same entries. -/
def sameEntries : List (String × Item) → List (String × Item) → Bool
  | [], [] => true
  | (k, i) :: es, (l, j) :: fs => k == l && i.same j && sameEntries es fs
  | _, _ => false

end

mutual

theorem Item.same_iff : ∀ {i j : Item}, i.same j = true ↔ i = j
  | .text _, j => by cases j <;> simp [Item.same]
  | .integer _, j => by cases j <;> simp [Item.same]
  | .float _, j => by cases j <;> simp [Item.same]
  | .boolean _, j => by cases j <;> simp [Item.same]
  | .stamp _, j => by cases j <;> simp [Item.same]
  | .array _, j => by cases j <;> simp [Item.same, sameItems_iff]
  | .table _ _, j => by cases j <;> simp [Item.same, sameEntries_iff]
  | .tables _, j => by cases j <;> simp [Item.same, sameItems_iff]

theorem sameItems_iff : ∀ {is js : List Item}, sameItems is js = true ↔ is = js
  | [], js => by cases js <;> simp [sameItems]
  | _ :: _, js => by cases js <;> simp [sameItems, Item.same_iff, sameItems_iff]

theorem sameEntries_iff : ∀ {es fs : List (String × Item)}, sameEntries es fs = true ↔ es = fs
  | [], fs => by cases fs <;> simp [sameEntries]
  | (_, _) :: _, fs => by
    cases fs <;> simp [sameEntries, Item.same_iff, sameEntries_iff, Prod.ext_iff, and_assoc]

end

instance : DecidableEq Item := fun _ _ => decidable_of_iff _ Item.same_iff

/-- The keys of a table with their items, in order. -/
abbrev Entries := List (String × Item)

end PathTemplate.Toml
