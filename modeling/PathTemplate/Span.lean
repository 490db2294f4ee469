/-
# Places in a text

A text is a list of characters, and a place in it is counted in bytes of its
UTF-8 form. A span is a half-open range of such places. Parts of a text that
follow one another without a gap are laid out by `layOut`: each part starts
where the one before it stops.

Key definitions: `Span`, `Located`, `utf8Width`, `layOut`.
Key theorems: `utf8Width_append`, `layOut_map_node`, `layOut_append`.
-/

namespace PathTemplate

/-- A half-open range of byte offsets. -/
structure Span where
  start : Nat
  stop : Nat
deriving DecidableEq, Repr

namespace Span

/-- The span moved right by `k` bytes. -/
def shift (s : Span) (k : Nat) : Span := ⟨s.start + k, s.stop + k⟩

/-- The span from the start of `s` to the end of `t`. -/
def through (s t : Span) : Span := ⟨s.start, t.stop⟩

end Span

/-- Something read from a text, with its place there. -/
structure Located (α : Type) where
  node : α
  span : Span
deriving DecidableEq, Repr

/-- The sum of some widths. -/
def total (ns : List Nat) : Nat := ns.foldr (fun n m => n + m) 0

@[simp] theorem total_nil : total [] = 0 := rfl

@[simp] theorem total_cons (n : Nat) (ns : List Nat) : total (n :: ns) = n + total ns := rfl

@[simp] theorem total_append (ms ns : List Nat) : total (ms ++ ns) = total ms + total ns := by
  induction ms with
  | nil => simp
  | cons m ms ih => simp [ih, Nat.add_assoc]

/-- The number of bytes in the UTF-8 form of a text. -/
def utf8Width (cs : List Char) : Nat := total (cs.map Char.utf8Size)

@[simp] theorem utf8Width_nil : utf8Width [] = 0 := rfl

@[simp] theorem utf8Width_cons (c : Char) (cs : List Char) :
    utf8Width (c :: cs) = c.utf8Size + utf8Width cs := by simp [utf8Width]

@[simp] theorem utf8Width_append (as bs : List Char) :
    utf8Width (as ++ bs) = utf8Width as + utf8Width bs := by simp [utf8Width]

/-- Parts of a text, one after another from byte `place`, each as wide as `width` says. -/
def layOut {α : Type} (width : α → Nat) (place : Nat) : List α → List (Located α)
  | [] => []
  | x :: xs => ⟨x, place, place + width x⟩ :: layOut width (place + width x) xs

theorem layOut_map_node {α : Type} (width : α → Nat) (place : Nat) (xs : List α) :
    (layOut width place xs).map Located.node = xs := by
  induction xs generalizing place with
  | nil => rfl
  | cons x xs ih => simp [layOut, ih]

/-- What follows `xs` is laid out from where `xs` stops. -/
theorem layOut_append {α : Type} (width : α → Nat) (place : Nat) (xs ys : List α) :
    layOut width place (xs ++ ys) =
      layOut width place xs ++ layOut width (place + total (xs.map width)) ys := by
  induction xs generalizing place with
  | nil => simp [layOut]
  | cons x xs ih => simp [layOut, ih, Nat.add_assoc]

end PathTemplate
