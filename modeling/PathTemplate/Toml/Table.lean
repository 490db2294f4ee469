/-
# Building tables

The statements of a document add to its tables. A dotted key makes the tables
on its way and can only pass through tables that dotted keys or the paths of
headers made; a header makes the tables on its way and can pass through any
that are not closed; neither can say a second time what has been said. A path
that meets tables in double brackets goes into the last of them.

Key definitions: `Entries.replace`, `Entries.put`, `Entries.within`.
-/
import PathTemplate.Toml.Item

namespace PathTemplate.Toml.Entries

/-- The entries with another item under a key that they have. -/
def replace (es : Entries) (key : String) (item : Item) : Entries :=
  es.map fun e => if e.1 = key then (key, item) else e

/-- The entries without a key. -/
def without (es : Entries) (key : String) : Entries := es.filter fun e => e.1 ≠ key

/-- The entries with a new key at the end. -/
def add (es : Entries) (key : String) (item : Item) : Entries := es ++ [(key, item)]

/-- The entries with an item under a dotted key, which is new. -/
def put (key : String) (item : Item) : List String → Entries → Option Entries
  | [], es => if (es.lookup key).isSome then none else some (es.add key item)
  | p :: ps, es =>
    match es.lookup p with
    | none => do return es.add p (.table .dotted (← put key item ps []))
    | some (.table .dotted sub) => do return es.replace p (.table .dotted (← put key item ps sub))
    | some (.table .implied sub) =>
      if ps.isEmpty then none
      else do return es.replace p (.table .implied (← put key item ps sub))
    | some (.tables items) =>
      match ps, items.getLast? with
      | _ :: _, some (.table origin sub) => do
        let last := Item.table origin (← put key item ps sub)
        return es.replace p (.tables (items.dropLast ++ [last]))
      | _, _ => none
    | some _ => none

/-- What a step gives in the table at the end of a header's path, and the entries with it. -/
def within {α : Type} (step : Entries → Option (α × Entries)) :
    List String → Entries → Option (α × Entries)
  | [], es => step es
  | p :: ps, es =>
    match es.lookup p with
    | none => do
      let (a, sub) ← within step ps []
      return (a, es.add p (.table .implied sub))
    | some (.table .closed _) => none
    | some (.table origin sub) => do
      let (a, sub) ← within step ps sub
      return (a, es.replace p (.table origin sub))
    | some (.tables items) =>
      match items.getLast? with
      | some (.table origin sub) => do
        let (a, sub) ← within step ps sub
        return (a, es.replace p (.tables (items.dropLast ++ [.table origin sub])))
      | _ => none
    | some _ => none

end PathTemplate.Toml.Entries
