import BoundQuery.Condition
import BoundQuery.Failure
import BoundQuery.Statement

/-!
# Drafts

A draft is a statement under composition. It keeps the base, the conditions, the
grouping columns and the closing clauses apart from the bound values, and hands out
placeholders only for values it binds. A nested draft starts from the values of its
parent and so continues its numbering; folding it back makes its values the parent's.
Columns and clauses are written as they are given: they are part of the program.
-/
namespace BoundQuery

structure Draft where
  base : String
  conditions : List Condition
  groups : List String
  closing : List SqlText
  params : List Value

namespace Draft

/-- A draft whose placeholders continue after some values. -/
def seeded (base : String) (params : List Value) : Draft :=
  ⟨base, [], [], [], params⟩

def ofBase (base : String) : Draft := seeded base []

/-- Starts a nested statement in the same numbering. -/
def nested (d : Draft) (base : String) : Draft := seeded base d.params

/-- The placeholder that the next bound value gets. -/
def next (d : Draft) : Placeholder := ⟨d.params.length + 1⟩

/-- Binds a value after those bound already. -/
def bind (d : Draft) (v : Value) : Placeholder × Draft :=
  (d.next, { d with params := d.params ++ [v] })

@[simp] theorem params_bind (d : Draft) (v : Value) :
    (d.bind v).2.params = d.params ++ [v] := rfl

@[simp] theorem conditions_bind (d : Draft) (v : Value) :
    (d.bind v).2.conditions = d.conditions := rfl

/-- The placeholder handed out stands for the value bound. -/
theorem value?_bind (d : Draft) (v : Value) :
    (d.bind v).1.value? (d.bind v).2.params = some v := by
  simp [bind, next]

def adopt (d : Draft) (params : List Value) : Draft := { d with params := params }

def add (d : Draft) (condition : Condition) : Draft :=
  { d with conditions := d.conditions ++ [condition] }

@[simp] theorem params_add (d : Draft) (condition : Condition) :
    (d.add condition).params = d.params := rfl

@[simp] theorem conditions_add (d : Draft) (condition : Condition) :
    (d.add condition).conditions = d.conditions ++ [condition] := rfl

/-- Adds a text in parentheses. -/
def addRaw (d : Draft) (sql : SqlText) : Draft := d.add (.raw sql)

/-- Adds a comparison of a column with a value. -/
def addComparison (d : Draft) (column : String) (comparison : Comparison) (v : Value) : Draft :=
  let (p, d) := d.bind v
  d.add (.compareTo column comparison p)

def addEquality (d : Draft) (column : String) (v : Value) : Draft :=
  d.addComparison column .eq v

def addInequality (d : Draft) (column : String) (v : Value) : Draft :=
  d.addComparison column .ne v

def addNullCheck (d : Draft) (column : String) (expected : Bool) : Draft :=
  d.add (.isNull column expected)

/-- Adds that two tables agree on some columns. -/
def addJoin (d : Draft) (left right : String) (columns : List String) : Draft :=
  { d with
    conditions := d.conditions ++ columns.map fun column =>
      .compare (.column (left ++ "." ++ column)) .eq (.column (right ++ "." ++ column)) }

def addGroups (d : Draft) (columns : List String) : Draft :=
  { d with groups := d.groups ++ columns }

/-- Appends a closing clause. -/
def close (d : Draft) (clause : SqlText) : Draft :=
  { d with closing := d.closing ++ [clause] }

def extendBase (d : Draft) (sql : String) : Draft := { d with base := d.base ++ sql }

/-! ### Membership -/

/-- A membership test on a column, its values bound but the test not added. -/
def test (d : Draft) (column : String) (values : List Value) (sense : Sense) :
    Condition × Draft :=
  let (test, bound) := Membership.Test.choose d.next values
  (.membership column sense test, { d with params := d.params ++ bound })

/-- Adds that a column has one of some values. -/
def addMember (d : Draft) (column : String) (values : List Value) : Draft :=
  let (condition, d) := d.test column values .allow
  d.add condition

/-- Adds that a column has none of some values, or is null where that is wanted as well. -/
def addNonMember (d : Draft) (column : String) (values : List Value) (orNull : Bool) : Draft :=
  let (condition, d) := d.test column values .deny
  d.add (if orNull then condition.orNull column else condition)

/-- The items of a value that has to be a list. -/
def listFor (column : String) (v : Value) : Except Error (List Value) :=
  match v.asList? with
  | some items => .ok items
  | none => .error (.inputShape column v.kind)

def test? (d : Draft) (column : String) (v : Value) (sense : Sense) :
    Except Error (Condition × Draft) :=
  (listFor column v).map fun items => d.test column items sense

def addMember? (d : Draft) (column : String) (v : Value) : Except Error Draft :=
  (listFor column v).map fun items => d.addMember column items

def addNonMember? (d : Draft) (column : String) (v : Value) (orNull : Bool) :
    Except Error Draft :=
  (listFor column v).map fun items => d.addNonMember column items orNull

/-! ### Paging -/

/-- The rows before a page, pages counted from one, in machine integers. -/
def offset (page limit : Int64) : Except Fault Int64 :=
  match Decimal.toInt64? (page.toInt - 1) with
  | none => .error .subtractionOverflow
  | some before =>
    match Decimal.toInt64? (before.toInt * limit.toInt) with
    | none => .error .multiplicationOverflow
    | some rows => .ok rows

/-- Appends the clause that cuts one page out. -/
def paginate (d : Draft) (page limit : Int64) : Except Fault Draft :=
  (offset page limit).map fun rows =>
    let (limitParam, d) := d.bind (.int limit)
    let (offsetParam, d) := d.bind (.int rows)
    d.close [.verbatim "LIMIT ", .placeholder limitParam, .verbatim " OFFSET ",
      .placeholder offsetParam]

/-! ### The finished statement -/

/-- A keyword and a separated list after it, or nothing for no items. -/
def clause (keyword separator : String) : List SqlText → SqlText
  | [] => []
  | items => .verbatim keyword :: SqlText.joinWith separator items

/-- The base, the conditions, the grouping columns and the closing clauses. -/
def text (d : Draft) : SqlText :=
  .verbatim d.base :: clause " WHERE " " AND " (d.conditions.map Condition.text)
    ++ clause " GROUP BY " ", " (d.groups.map SqlText.ofString)
    ++ d.closing.flatMap (fun t => .verbatim " " :: t)

def statement (d : Draft) : Statement := ⟨d.text, d.params, none⟩

/-- The text for people, with or without the values in place. -/
def describe (d : Draft) (inline : Bool) : String :=
  if inline then d.statement.inlined else d.statement.sql

/-! ### Nested statements -/

/-- Whether values start with some others. -/
def startsWith : List Value → List Value → Bool
  | _, [] => true
  | [], _ :: _ => false
  | x :: xs, y :: ys => x.same y && startsWith xs ys

theorem startsWith_nil (values : List Value) : startsWith values [] = true := by
  cases values <;> rfl

/-- Adopts the values of a nested draft; the condition that it has a row is not added. -/
def absorb (d sub : Draft) : Except Fault (Condition × Draft) :=
  if startsWith sub.params d.params then .ok (.anyRow sub.text, d.adopt sub.params)
  else .error .unseededSubquery

/-- Adds that a nested draft has a row. -/
def fold (d sub : Draft) : Except Fault Draft :=
  (d.absorb sub).map fun (condition, d) => d.add (.group condition)

end Draft

end BoundQuery
