import BoundQuery.Statement.Token

/-!
# Statements

A finished statement: its text, the values behind its placeholders, and a tag for
whoever watches it run. The value behind ordinal `n` is the `n`-th one.
-/
namespace BoundQuery

structure Statement where
  text : SqlText
  params : List Value
  tag : Option String

namespace Statement

/-- A statement given as plain text. -/
def ofSql (sql : String) (params : List Value) : Statement :=
  ⟨SqlText.ofString sql, params, none⟩

def tagged (s : Statement) (tag : String) : Statement :=
  { s with tag := some tag }

/-- The text sent to a server. -/
def sql (s : Statement) : String := SqlText.render s.text

/-- Counts the rows of a statement, under the same values and tag. -/
def toCount (s : Statement) : Statement :=
  { s with text := .verbatim "SELECT COUNT(*) FROM (" :: s.text ++ [.verbatim ") x"] }

/-- The text with a literal in place of each placeholder token, for people to read. -/
def inlined (s : Statement) : String :=
  String.ofList ((SqlToken.scan s.sql.toList).flatMap (SqlToken.inline s.params))

end Statement

end BoundQuery
