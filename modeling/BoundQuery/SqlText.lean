import BoundQuery.Value

/-!
# Statement text in pieces

Text of a statement is a list of pieces: text that stands for itself, and the
placeholders that binding a value hands out. Ordinals, and the values behind them,
are read off the pieces; the characters sent to a server are rendered from them.
-/
namespace BoundQuery

/-- A marker for a bound value, numbered from one. -/
structure Placeholder where
  ordinal : Nat
  deriving DecidableEq

namespace Placeholder

def chars (p : Placeholder) : List Char :=
  '$' :: Nat.toDigits 10 p.ordinal

def text (p : Placeholder) : String := String.ofList p.chars

/-- The value behind a placeholder, for the values bound in order from one. -/
def value? (params : List Value) : Placeholder → Option Value
  | ⟨0⟩ => none
  | ⟨index + 1⟩ => params[index]?

@[simp] theorem value?_zero (params : List Value) : value? params ⟨0⟩ = none := rfl

@[simp] theorem value?_succ (params : List Value) (index : Nat) :
    value? params ⟨index + 1⟩ = params[index]? := rfl

/-- Binding more values changes none of the earlier ones. -/
theorem value?_append {params : List Value} {p : Placeholder} {v : Value} (more : List Value)
    (h : p.value? params = some v) : p.value? (params ++ more) = some v := by
  rcases p with ⟨_ | index⟩
  · exact absurd h (by simp)
  · obtain ⟨bound, _⟩ := List.getElem?_eq_some_iff.mp h
    rwa [value?_succ, List.getElem?_append_left bound]

end Placeholder

/-- A text that stands for itself, or a placeholder. -/
inductive Piece where
  | verbatim (s : String)
  | placeholder (p : Placeholder)
  deriving DecidableEq

def Piece.chars : Piece → List Char
  | .verbatim s => s.toList
  | .placeholder p => p.chars

/-- The text of a statement. -/
abbrev SqlText := List Piece

namespace SqlText

def ofString (s : String) : SqlText := [.verbatim s]

def chars (t : SqlText) : List Char := t.flatMap Piece.chars

/-- The text that is sent to a server. -/
def render (t : SqlText) : String := String.ofList (chars t)

/-- The ordinals of the placeholders, in the order of the text. -/
def ordinals (t : SqlText) : List Nat :=
  t.filterMap fun
    | .verbatim _ => none
    | .placeholder p => some p.ordinal

/-- Texts one after the other with a separator between them. -/
def joinWith (separator : String) : List SqlText → SqlText
  | [] => []
  | [t] => t
  | t :: ts => t ++ .verbatim separator :: joinWith separator ts

@[simp] theorem chars_nil : chars [] = [] := rfl

@[simp] theorem chars_cons (p : Piece) (t : SqlText) : chars (p :: t) = p.chars ++ chars t := rfl

@[simp] theorem chars_append (s t : SqlText) : chars (s ++ t) = chars s ++ chars t := by
  simp [chars]

@[simp] theorem ordinals_append (s t : SqlText) :
    ordinals (s ++ t) = ordinals s ++ ordinals t := by
  simp [ordinals]

end SqlText

end BoundQuery
