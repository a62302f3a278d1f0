import BoundQuery.Condition
import BoundQuery.Truth

/-!
# Meaning of conditions

A condition is true, false or unknown of a row of integers that may be null. A test of
a few values compares the column with each of them; a test of many asks whether one of
the unnested values equals the column, and that is never unknown. What a condition only
quotes, and an operator without a meaning of its own, is given its truth from outside.
-/
namespace BoundQuery

/-- What the names and the quoted texts of a condition stand for at one row. -/
structure Interpretation where
  column : String → Option Int
  params : List Value
  related : String → Option Int → Option Int → Truth
  contained : String → Placeholder → Truth
  hasRow : SqlText → Bool
  verbatim : SqlText → Truth

/-- The truth of a comparison of two integers. -/
def Comparison.truth (i : Interpretation) : Comparison → Option Int → Option Int → Truth
  | .eq => .lift fun x y => x == y
  | .ne => .lift fun x y => x != y
  | .lt => .lift fun x y => decide (x < y)
  | .le => .lift fun x y => decide (x ≤ y)
  | .gt => .lift fun x y => decide (y < x)
  | .ge => .lift fun x y => decide (y ≤ x)
  | .operator symbol => i.related symbol

namespace Interpretation

/-- The integer a bound value is read as. -/
def integer (i : Interpretation) (p : Placeholder) : Option Int :=
  ((p.value? i.params).bind Value.asInt?).map Int64.toInt

/-- The elements of a bound list, each read as an integer. -/
def elements (i : Interpretation) (p : Placeholder) : List (Option Int) :=
  (((p.value? i.params).bind Value.asList?).getD []).map fun v => v.asInt?.map Int64.toInt

end Interpretation

def Operand.value (i : Interpretation) : Operand → Option Int
  | .column name => i.column name
  | .parameter p => i.integer p
  | .number n => some n

/-- An element of the list equals the column. -/
def Membership.Test.matched (i : Interpretation) (column : String) (p : Placeholder) : Bool :=
  (i.elements p).any fun element =>
    decide (Comparison.eq.truth i element (i.column column) = .yes)

/-- The truth of a test on a column. -/
def Membership.Test.truth (i : Interpretation) (column : String) : Sense → Test → Truth
  | .allow, .empty => .no
  | .deny, .empty => .yes
  | .allow, .scalar p => Comparison.eq.truth i (i.column column) (i.integer p)
  | .deny, .scalar p => Comparison.ne.truth i (i.column column) (i.integer p)
  | .allow, .any p _ => .any ((i.elements p).map (Comparison.eq.truth i (i.column column)))
  | .deny, .any p _ => .all ((i.elements p).map (Comparison.ne.truth i (i.column column)))
  | .allow, .unnest p _ _ => .ofBool (matched i column p)
  | .deny, .unnest p _ _ => (Truth.ofBool (matched i column p)).not

/-- The truth of a condition. -/
def Condition.truth (i : Interpretation) : Condition → Truth
  | .compare left comparison right => comparison.truth i (left.value i) (right.value i)
  | .isNull column expected => .ofBool ((i.column column).isNone == expected)
  | .membership column sense test => test.truth i column sense
  | .contains column p => i.contained column p
  | .anyRow statement => .ofBool (i.hasRow statement)
  | .verbatim sql => i.verbatim sql
  | .and left right => (left.truth i).and (right.truth i)
  | .or left right => (left.truth i).or (right.truth i)
  | .group inner => inner.truth i

namespace Condition

@[simp] theorem truth_group (i : Interpretation) (c : Condition) :
    (Condition.group c).truth i = c.truth i := rfl

/-- A condition that a null meets as well is true of a null, whatever the condition says of it. -/
@[simp] theorem truth_orNull_eq_yes {i : Interpretation} {c : Condition} {column : String} :
    (c.orNull column).truth i = .yes ↔ c.truth i = .yes ∨ i.column column = none := by
  simp [orNull, truth, Option.isNone_iff_eq_none]

/-- A condition that one of some conditions is met is true where one of them is. -/
theorem truth_anyOf_eq_yes {i : Interpretation} {first : Condition} {rest : List Condition} :
    (anyOf first rest).truth i = .yes ↔ ∃ c ∈ first :: rest, c.truth i = .yes := by
  induction rest generalizing first with
  | nil => simp [anyOf]
  | cons c rest ih =>
    have step : anyOf first (c :: rest) = anyOf (.or first c) rest := rfl
    rw [step, ih]
    simp [truth, or_assoc]

end Condition

end BoundQuery
