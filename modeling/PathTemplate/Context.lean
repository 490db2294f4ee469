/-
# Contexts

A context holds the values that templates are filled with, in the order in
which they were registered; a value can have a name. It is put together in a
builder, and building refuses two values of one name. A context keeps the
positions of its names beside its entries.

Key definitions: `Entry`, `Builder`, `Context`, `Builder.build`, `Context.get`.
-/
import PathTemplate.FormatError
import PathTemplate.Head
import PathTemplate.Value

namespace PathTemplate

/-- A value with the name it is registered under, if it has one. -/
structure Entry where
  name : Option String
  value : Value
deriving DecidableEq

/-- The values registered so far, in order. -/
structure Builder where
  entries : List Entry := []

/-- Values that templates are filled with, and the position of each name. -/
structure Context where
  entries : List Entry
  positions : List (String × Nat)
deriving DecidableEq

/-- The names among some entries, the first of them at position `index`, added to `known` ones;
or the first name that is known already. -/
def positionsOf (known : List (String × Nat)) (index : Nat) :
    List Entry → Except String (List (String × Nat))
  | [] => .ok known
  | e :: es =>
    match e.name with
    | none => positionsOf known (index + 1) es
    | some name =>
      if (known.lookup name).isSome then .error name
      else positionsOf (known ++ [(name, index)]) (index + 1) es

namespace Builder

/-- Registers a value under a name. -/
def add (b : Builder) (name : String) (v : Value) : Builder := ⟨b.entries ++ [⟨some name, v⟩]⟩

/-- Registers a value without a name. -/
def push (b : Builder) (v : Value) : Builder := ⟨b.entries ++ [⟨none, v⟩]⟩

/-- The context of the registered values, unless a name is repeated. -/
def build (b : Builder) : Except FormatError Context :=
  match positionsOf [] 0 b.entries with
  | .ok positions => .ok ⟨b.entries, positions⟩
  | .error name => .error (.duplicateName name)

end Builder

namespace Context

/-- The context of some values without names. -/
def ofValues (vs : List Value) : Context := ⟨vs.map (⟨none, ·⟩), []⟩

/-- The value at a position. -/
def getIndex (c : Context) (index : Nat) : Option Value := (c.entries[index]?).map Entry.value

/-- The value of a name. -/
def get (c : Context) (name : String) : Option Value := (c.positions.lookup name).bind c.getIndex

/-- Whether a value has the name. -/
def contains (c : Context) (name : String) : Bool := (c.positions.lookup name).isSome

/-- The number of values, named or not. -/
def size (c : Context) : Nat := c.entries.length

/-- The names, in the order of their registration. -/
def names (c : Context) : List String := c.entries.filterMap Entry.name

/-- A builder that holds the entries of a context. -/
def toBuilder (c : Context) : Builder := ⟨c.entries⟩

/-- Equality of contexts: equal names and equal values in the same order. -/
def equals (c d : Context) : Bool :=
  c.entries.length == d.entries.length &&
    (c.entries.zip d.entries).all fun (e, f) => e.name == f.name && e.value.equals f.value

end Context

/-- Where references are looked up, and the position of the next implicit one. -/
structure Resolver where
  context : Context
  cursor : Nat := 0

namespace Resolver

/-- The value at a position, or the error of a reference without one. -/
def atIndex (r : Resolver) (index : Nat) (span : Span) : Except FormatError Value :=
  match r.context.getIndex index with
  | some v => .ok v
  | none => .error (.indexOutOfRange index r.context.size span)

/-- The value that a reference picks. -/
def resolve (r : Resolver) (ref : Located Reference) : Except FormatError Value :=
  match ref.node with
  | .named name =>
    match r.context.get name with
    | some v => .ok v
    | none => .error (.unknownName name ref.span)
  | .indexed index => r.atIndex index ref.span
  | .implicit => r.atIndex r.cursor ref.span

/-- The resolver after a reference. Only an implicit one moves the cursor, found or not. -/
def after (r : Resolver) (ref : Reference) : Resolver :=
  match ref with
  | .implicit => { r with cursor := r.cursor + 1 }
  | _ => r

/-- What a reference picks, and the resolver that it leaves behind. -/
def take (r : Resolver) (ref : Located Reference) : Except FormatError Value × Resolver :=
  (r.resolve ref, r.after ref.node)

end Resolver

end PathTemplate
