import BoundQuery.Client

/-!
# Fetching

A statement is run and its rows are read: all of them, the first one, or the first
column. A reader of a cell says which types it accepts and whether it accepts a null.
-/
namespace BoundQuery

namespace Cell

def readInt? : Cell → Option Int64
  | .int8 n => n
  | .text _ => none

def readText? : Cell → Option String
  | .text s => s
  | .int8 _ => none

/-- Reads an integer that may be null. -/
def readOptionalInt? : Cell → Option (Option Int64)
  | .int8 n => some n
  | .text _ => none

end Cell

namespace Statement

variable {σ α : Type}

/-- Reads the first column of a row. -/
def firstColumn (read? : Cell → Option α) (row : Row) : Except Error α :=
  match row with
  | [] => .error (.decode "0" "invalid column `0`")
  | cell :: _ =>
    match read? cell with
    | some a => .ok a
    | none => .error (.decode "0" "error deserializing column 0")

def firstRow : List Row → Except Error Row
  | [] => .error (.notFound "Expected one row, got none")
  | row :: _ => .ok row

def fetchAll (s : Statement) (client : Client σ) : Run σ Reply := client.queryStatement s

def fetchOne (s : Statement) (client : Client σ) : Run σ (Except Error Row) := do
  return (← s.fetchAll client).bind firstRow

def fetchOptional (s : Statement) (client : Client σ) :
    Run σ (Except Error (Option Row)) := do
  return (← s.fetchAll client).map List.head?

/-- The first column of every row; the first row that does not fit ends it. -/
def fetchColumn (read? : Cell → Option α) (s : Statement) (client : Client σ) :
    Run σ (Except Error (List α)) := do
  return (← s.fetchAll client).bind fun rows => rows.mapM (firstColumn read?)

/-- The first column of the first row. -/
def fetchScalar (read? : Cell → Option α) (s : Statement) (client : Client σ) :
    Run σ (Except Error α) := do
  return (← s.fetchOne client).bind (firstColumn read?)

/-- The number of rows the statement has. -/
def fetchCount (s : Statement) (client : Client σ) : Run σ (Except Error Int64) :=
  s.toCount.fetchScalar Cell.readInt? client

end Statement

end BoundQuery
