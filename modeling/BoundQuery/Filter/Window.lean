import BoundQuery.Criterion

/-!
# Window filter

Rows by their numbers and by their time: a list of numbers, an inclusive lower and
an exclusive upper bound, and a time window whose ends are excluded.
-/
namespace BoundQuery.Filter

structure WindowColumns where
  primary : String
  date : Option String := none

namespace Window

/-- Adds a comparison with a value when there is one. -/
def compare (column : String) (comparison : Comparison) (v : Option Value) (d : Draft) : Draft :=
  match v with
  | none => d
  | some v => d.addComparison column comparison v

def applyWindow (args : Arguments) (column : String) (d : Draft) : Draft :=
  let d := compare column .lt ((args.int? "before").map .int) d
  compare column .gt ((args.int? "after").map .int) d

end Window

/-- Applies the numbers, the bounds and the time window. -/
def window (args : Arguments) (c : WindowColumns) (d : Draft) : Draft :=
  let d := (args.criterion "ids").apply d c.primary
  let d := Window.compare c.primary .ge (args.get? "lower_bound") d
  let d := Window.compare c.primary .lt (args.get? "upper_bound") d
  match c.date with
  | none => d
  | some column => Window.applyWindow args column d

end BoundQuery.Filter
