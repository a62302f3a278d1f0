import BoundQuery.SqlText

/-!
# Membership tests

Whether a column has one of some values is asked in a form that depends on how many
values there are: none needs no parameter, one is compared directly, a few are bound
as an array, and many are unnested into a relation the planner can join against. A
test binds one parameter at most, and every test written is reported once.
-/
namespace BoundQuery

/-- Whether a test keeps the values or keeps all others. -/
inductive Sense where
  | allow
  | deny
  deriving DecidableEq

namespace Membership

inductive Shape where
  | empty
  | scalar
  | any
  | unnest
  deriving DecidableEq

/-- Lists longer than this are unnested. -/
def unnestThreshold : Nat := 10

def Shape.ofCount (count : Nat) : Shape :=
  if count = 0 then .empty
  else if count = 1 then .scalar
  else if count ≤ unnestThreshold then .any
  else .unnest

/-- The type an unnested array is cast to. -/
inductive ArrayType where
  | bigint
  | text
  deriving DecidableEq

def ArrayType.sql : ArrayType → String
  | .bigint => "BIGINT[]"
  | .text => "TEXT[]"

/-- Integers, decimal texts of integers among them, are cast to `BIGINT[]`. -/
def ArrayType.infer (values : List Value) : ArrayType :=
  if values.all Value.isIntegerLike then .bigint else .text

/-- A test with the placeholder of its parameter and the number of its values. -/
inductive Test where
  | empty
  | scalar (p : Placeholder)
  | any (p : Placeholder) (count : Nat)
  | unnest (p : Placeholder) (count : Nat) (type : ArrayType)
  deriving DecidableEq

namespace Test

/-- The test for some values, whose parameter would be `next`, and what it binds. -/
def choose (next : Placeholder) (values : List Value) : Test × List Value :=
  match values with
  | [] => (.empty, [])
  | [v] => (.scalar next, [v])
  | _ =>
    let test :=
      if values.length ≤ unnestThreshold then .any next values.length
      else .unnest next values.length (ArrayType.infer values)
    (test, [.list values])

def count : Test → Nat
  | .empty => 0
  | .scalar _ => 1
  | .any _ n => n
  | .unnest _ n _ => n

@[simp] theorem count_choose (next : Placeholder) (values : List Value) :
    (choose next values).1.count = values.length := by
  rcases values with _ | ⟨_, _ | ⟨_, _⟩⟩
  · rfl
  · rfl
  · simp only [choose]
    split <;> rfl

def unnested (p : Placeholder) (type : ArrayType) (column : String) : SqlText :=
  [.verbatim "EXISTS (SELECT FROM UNNEST(", .placeholder p,
    .verbatim ("::" ++ type.sql ++ ") u(c) WHERE u.c = " ++ column ++ ")")]

/-- The text of a test on a column. -/
def text (column : String) : Sense → Test → SqlText
  | .allow, .empty => [.verbatim "1=0"]
  | .deny, .empty => [.verbatim "1=1"]
  | .allow, .scalar p => [.verbatim (column ++ " = "), .placeholder p]
  | .deny, .scalar p => [.verbatim (column ++ " != "), .placeholder p]
  | .allow, .any p _ => [.verbatim (column ++ " = ANY("), .placeholder p, .verbatim ")"]
  | .deny, .any p _ => [.verbatim (column ++ " != ALL("), .placeholder p, .verbatim ")"]
  | .allow, .unnest p _ type => unnested p type column
  | .deny, .unnest p _ type => .verbatim "NOT " :: unnested p type column

end Test

/-- What is reported about a test. -/
structure Report where
  column : String
  count : Nat
  shape : Shape
  sense : Sense

def Test.report (column : String) (sense : Sense) (test : Test) : Report :=
  ⟨column, test.count, Shape.ofCount test.count, sense⟩

end Membership

end BoundQuery
