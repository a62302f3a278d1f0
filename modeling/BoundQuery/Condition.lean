import BoundQuery.Membership

/-!
# Conditions

A condition is kept by its structure and printed from it. Comparisons, null checks
and membership tests have a meaning of their own; what else a filter writes is text
that stands for itself. Parentheses are part of the structure: `group` prints them,
and no other constructor does.
-/
namespace BoundQuery

/-- How two operands are compared: by equality or order, or by another operator that the server
knows, which is written as it is given. -/
inductive Comparison where
  | eq
  | ne
  | lt
  | le
  | gt
  | ge
  | operator (symbol : String)
  deriving DecidableEq

namespace Comparison

def symbol : Comparison → String
  | .eq => "="
  | .ne => "!="
  | .lt => "<"
  | .le => "<="
  | .gt => ">"
  | .ge => ">="
  | .operator symbol => symbol

/-- The comparisons that have a meaning of their own. -/
def basic : List Comparison := [.eq, .ne, .lt, .le, .gt, .ge]

def ofSymbol (symbol : String) : Comparison :=
  (basic.find? fun comparison => comparison.symbol == symbol).getD (.operator symbol)

/-- Every operator is written as it is given. -/
@[simp] theorem symbol_ofSymbol (symbol : String) : (ofSymbol symbol).symbol = symbol := by
  unfold ofSymbol
  cases h : basic.find? fun comparison => comparison.symbol == symbol with
  | none => rfl
  | some comparison =>
    have found := List.find?_some h
    exact eq_of_beq found

end Comparison

/-- One side of a comparison. -/
inductive Operand where
  | column (name : String)
  | parameter (p : Placeholder)
  | number (n : Nat)
  deriving DecidableEq

def Operand.text : Operand → SqlText
  | .column name => [.verbatim name]
  | .parameter p => [.placeholder p]
  | .number n => [.verbatim (toString n)]

inductive Condition where
  | compare (left : Operand) (comparison : Comparison) (right : Operand)
  | isNull (column : String) (expected : Bool)
  | membership (column : String) (sense : Sense) (test : Membership.Test)
  | contains (column : String) (p : Placeholder)
  | anyRow (statement : SqlText)
  | verbatim (sql : SqlText)
  | and (left right : Condition)
  | or (left right : Condition)
  | group (inner : Condition)

namespace Condition

def text : Condition → SqlText
  | .compare left comparison right =>
    left.text ++ .verbatim (" " ++ comparison.symbol ++ " ") :: right.text
  | .isNull column expected =>
    [.verbatim (column ++ if expected then " IS NULL" else " IS NOT NULL")]
  | .membership column sense test => test.text column sense
  | .contains column p => [.verbatim (column ++ " @> "), .placeholder p, .verbatim "::jsonb"]
  | .anyRow statement => .verbatim "EXISTS(" :: statement ++ [.verbatim ")"]
  | .verbatim sql => sql
  | .and left right => left.text ++ .verbatim " AND " :: right.text
  | .or left right => left.text ++ .verbatim " OR " :: right.text
  | .group inner => .verbatim "(" :: inner.text ++ [.verbatim ")"]

/-- A column compared with a bound value. -/
def compareTo (column : String) (comparison : Comparison) (p : Placeholder) : Condition :=
  .compare (.column column) comparison (.parameter p)

/-- A text in parentheses. -/
def raw (sql : SqlText) : Condition := .group (.verbatim sql)

/-- A condition that a null column meets as well. -/
def orNull (condition : Condition) (column : String) : Condition :=
  .group (.or condition (.isNull column true))

/-- The condition that one of some conditions is met, without parentheses of its own. -/
def anyOf (first : Condition) (rest : List Condition) : Condition :=
  rest.foldl .or first

/-- The membership tests of a condition, in the order they are written. -/
def reports : Condition → List Membership.Report
  | .membership column sense test => [test.report column sense]
  | .and left right => left.reports ++ right.reports
  | .or left right => left.reports ++ right.reports
  | .group inner => inner.reports
  | _ => []

end Condition

end BoundQuery
