import BoundQuery.Arguments
import BoundQuery.Draft

/-!
# Criteria

A criterion is what one argument, or a pair of bounds, asks of a column: nothing,
one value, one of several values, or a range with its ends included.
-/
namespace BoundQuery

inductive Criterion where
  | absent
  | one (v : Value)
  | set (values : List Value)
  | range (lower upper : Option Value)

namespace Criterion

def ofList : List Value → Criterion
  | [] => .absent
  | [v] => .one v
  | values => .set values

def isAbsent : Criterion → Bool
  | .absent => true
  | _ => false

/-- Adds one end of a range when there is one. -/
def applyBound (d : Draft) (column : String) (comparison : Comparison) : Option Value → Draft
  | none => d
  | some v => d.addComparison column comparison v

/-- Requires a criterion of a column. -/
def apply (d : Draft) (column : String) : Criterion → Draft
  | .absent => d
  | .one v => d.addEquality column v
  | .set values => d.addMember column values
  | .range lower upper => applyBound (applyBound d column .ge lower) column .le upper

/-- Excludes the values of a criterion from a column; a range excludes nothing. -/
def exclude (d : Draft) (column : String) (orNull : Bool) : Criterion → Draft
  | .one v => d.addNonMember column [v] orNull
  | .set values => d.addNonMember column values orNull
  | .absent => d
  | .range _ _ => d

end Criterion

namespace Arguments

def criterion (args : Arguments) (name : String) : Criterion := .ofList (args.list name)

/-- The range between two bounds, if at least one of them is present. -/
def range (args : Arguments) (lower upper : String) : Criterion :=
  match args.get? lower, args.get? upper with
  | none, none => .absent
  | low, high => .range low high

end Arguments

end BoundQuery
