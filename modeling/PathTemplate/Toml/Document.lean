/-
# TOML documents

A document is a sequence of statements: headers in single or double brackets,
and assignments, each on a line of its own. It stands for the table that its
statements build. Keys keep the order in which they come.

Key definitions: `Statement`, `Document.statements`, `Draft`, `Document.read`.
-/
import PathTemplate.Toml.Scalar
import PathTemplate.Toml.Table

namespace PathTemplate.Toml

open Text Text.Reader

/-- A key of a table, which may be inside others. -/
structure KeyPath where
  path : List String
  key : String
deriving DecidableEq, Repr

/-- The key whose parts are `first` and then `others`. -/
def KeyPath.ofParts (first : String) (others : List String) : KeyPath :=
  match others.reverse with
  | [] => ⟨[], first⟩
  | last :: before => ⟨first :: before.reverse, last⟩

/-- A line of a document that says something. -/
inductive Statement
  /-- What follows belongs to this table. -/
  | header (key : KeyPath)
  /-- What follows belongs to a new table at the end of these. -/
  | arrayHeader (key : KeyPath)
  | assign (key : KeyPath) (item : Item)

namespace Document

/-! ### Reading statements -/

/-- The number below which arrays and tables in braces nest, and dotted keys have parts. -/
def depthLimit : Nat := 80

/-- A space or a tab. -/
def isSpace (c : Char) : Bool := c == ' ' || c == '\t'

/-- Takes spaces and tabs. -/
def spaces : Reader Unit := do
  let _ ← run isSpace

/-- Takes a line break. -/
def lineBreak : Reader Unit := char '\n' <|> do char '\r'; char '\n'

/-- Takes a comment, up to the end of its line. -/
def comment : Reader Unit := do
  char '#'
  let _ ← run Scalar.isPlain

/-- Takes the end of the text. -/
def ending : Reader Unit := fun
  | [] => some ((), [])
  | _ => none

/-- Takes what may follow a statement on its line, and the end of the line. -/
def lineEnd : Reader Unit := do
  spaces
  let _ ← optional comment
  lineBreak <|> ending

/-- Takes white space, line breaks and comments. -/
def blankLines : Reader Unit := do
  let _ ← many ((do let _ ← run1 isSpace) <|> lineBreak <|> comment)

/-- A character of a key without quotes. -/
def isBare (c : Char) : Bool := c.isAlphanum || c == '-' || c == '_'

/-- Takes one part of a key. -/
def keyPart : Reader String := do
  spaces
  let k ← Scalar.lineString <|> String.ofList <$> run1 isBare
  spaces
  return k

/-- Takes a key, with points between its parts. -/
def key : Reader KeyPath := do
  let first ← keyPart
  let others ← many do
    char '.'
    keyPart
  accept (decide (others.length + 1 < depthLimit)) (KeyPath.ofParts first others)

/-- Takes the items of an array after its bracket, at most `n` of them. -/
def arrayItems (item : Reader Item) : Nat → Reader (List Item)
  | 0 => failure
  | n + 1 => do
    blankLines
    match ← optional (char ']') with
    | some () => return []
    | none =>
      let i ← item
      blankLines
      match ← charOf fun c => c == ',' || c == ']' with
      | ',' => return i :: (← arrayItems item n)
      | _ => return [i]

/-- Takes a key and its item. -/
def assignment (item : Reader Item) : Reader (KeyPath × Item) := do
  let k ← key
  char '='
  spaces
  return (k, ← item)

/-- Takes the assignments of a table in braces, at least one and at most `n`, adding to `es`. -/
def closedEntries (item : Reader Item) (es : Entries) : Nat → Reader Entries
  | 0 => failure
  | n + 1 => do
    let (k, i) ← assignment item
    match es.put k.key i k.path with
    | none => failure
    | some es =>
      spaces
      match ← charOf fun c => c == ',' || c == '}' with
      | ',' => closedEntries item es n
      | _ => return es

/-- Takes a table in braces. -/
def closedTable (item : Reader Item) : Reader Item := do
  char '{'
  spaces
  match ← optional (char '}') with
  | some () => return .table .closed []
  | none => Item.table .closed <$> bounded (closedEntries item [])

/-- Takes an array. -/
def array (item : Reader Item) : Reader Item := do
  char '['
  Item.array <$> bounded fun n => arrayItems item (n + 1)

/-- Takes a value in which arrays and tables in braces nest at most `depth` deep. -/
def value : Nat → Reader Item
  | 0 => Scalar.value
  | depth + 1 => array (value depth) <|> closedTable (value depth) <|> Scalar.value

/-- Takes a header. -/
def header : Reader Statement :=
  (do
    word "[["
    let k ← key
    word "]]"
    return .arrayHeader k) <|> do
    char '['
    let k ← key
    char ']'
    return .header k

/-- Takes a statement and the end of its line. -/
def statement : Reader Statement := do
  spaces
  let s ← header <|> do
    let (k, i) ← assignment (value (depthLimit - 1))
    return .assign k i
  lineEnd
  return s

/-- Takes a line that says nothing. -/
def emptyLine : Reader Unit := do
  spaces
  let _ ← optional comment
  lineBreak

/-- Takes a statement after lines that say nothing. -/
def nextStatement : Reader Statement := do
  let _ ← many emptyLine
  statement

/-- Takes the statements of a document. -/
def statements : Reader (List Statement) := do
  let _ ← optional (char '\uFEFF')
  let ss ← many nextStatement
  let _ ← many emptyLine
  spaces
  let _ ← optional comment
  return ss

end Document

/-! ### What statements build -/

/-- The table that assignments go to. -/
inductive Target
  | root
  | table (key : KeyPath)
  | newTable (key : KeyPath)

/-- A document as far as it has been read: the closed tables, and the table being filled. -/
structure Draft where
  root : Entries := []
  target : Target := .root
  current : Entries := []

namespace Draft

/-- Puts the table being filled into a table that has no such key. -/
def placeTable (key : String) (current es : Entries) : Option (Unit × Entries) :=
  match es.lookup key with
  | none => some ((), es.add key (.table .header current))
  | some _ => none

/-- Puts the table being filled after the others of its key. -/
def placeNewTable (key : String) (current es : Entries) : Option (Unit × Entries) :=
  match es.lookup key with
  | some (.tables items) => some ((), es.replace key (.tables (items ++ [.table .header current])))
  | _ => none

/-- The whole table, the one being filled put in its place. -/
def close (d : Draft) : Option Entries :=
  match d.target with
  | .root => some d.current
  | .table k => Prod.snd <$> d.root.within (placeTable k.key d.current) k.path
  | .newTable k => Prod.snd <$> d.root.within (placeNewTable k.key d.current) k.path

/-- What a table holds before its header, which must be the first. -/
def takeTable (key : String) (es : Entries) : Option (Entries × Entries) :=
  match es.lookup key with
  | none => some ([], es)
  | some (.table .implied sub) => some (sub, es.without key)
  | some _ => none

/-- Makes room for tables in double brackets. -/
def makeTables (key : String) (es : Entries) : Option (Unit × Entries) :=
  match es.lookup key with
  | none => some ((), es.add key (.tables []))
  | some (.tables _) => some ((), es)
  | some _ => none

/-- The document with one more statement. -/
def step (d : Draft) : Statement → Option Draft
  | .assign k i => do return { d with current := ← d.current.put k.key i k.path }
  | .header k => do
    let (current, root) ← (← d.close).within (takeTable k.key) k.path
    return ⟨root, .table k, current⟩
  | .arrayHeader k => do
    let ((), root) ← (← d.close).within (makeTables k.key) k.path
    return ⟨root, .newTable k, []⟩

end Draft

namespace Document

/-- The table that some statements build, if they fit together. -/
def build (ss : List Statement) : Option Entries := do
  (← ss.foldlM Draft.step {}).close

/-- Reads a document. -/
def read (cs : List Char) : Option Entries := do
  build (← statements.whole cs)

end Document

end PathTemplate.Toml
