import BoundQuery.Criterion

/-!
# Order and pages

The rows of a listing are ordered by one of the columns it offers, nulls last, and
then by a column that tells all rows apart, so that pages neither overlap nor skip.
A page is cut out of that order.
-/
namespace BoundQuery.Filter

inductive SortOrder where
  | asc
  | desc
  deriving DecidableEq

namespace SortOrder

/-- The order of a listing that names none. -/
def default : SortOrder := .desc

def sql : SortOrder → String
  | .asc => "ASC"
  | .desc => "DESC"

def ofText (text : String) : Except Error SortOrder :=
  if text = "asc" ∨ text = "ASC" then .ok .asc
  else if text = "desc" ∨ text = "DESC" then .ok .desc
  else .error (.invalid "order" (.unknownOrder text))

end SortOrder

/-- A column to order by, and whether its nulls are put last in either direction. -/
structure OrderKey where
  column : String
  order : SortOrder
  nullsLast : Bool
  deriving DecidableEq

def OrderKey.text (key : OrderKey) : SqlText :=
  .ofString (key.column ++ " " ++ key.order.sql ++ if key.nullsLast then " NULLS LAST" else "")

/-- What a listing offers: its sort keys with their columns, what it does when nothing is asked,
and the column that breaks ties. -/
structure Listing where
  columns : List (String × String)
  defaultSort : String
  defaultOrder : SortOrder
  tiebreak : Option String
  defaultLimit : Int64

namespace Listing

/-- The column of a sort key. -/
def columnFor (listing : Listing) (key : String) : Except Error String :=
  match listing.columns.find? fun (name, _) => name == key with
  | some (_, column) => .ok column
  | none => .error (.invalid "sort" (.unknownSortKey key))

def orderFor (listing : Listing) : Option String → Except Error SortOrder
  | none => .ok listing.defaultOrder
  | some text => SortOrder.ofText text

/-- The column and the order asked for. -/
def requested (args : Arguments) (listing : Listing) :
    Except Error (String × SortOrder) := do
  let column ← columnFor listing ((args.text? "sort").getD listing.defaultSort)
  let order ← orderFor listing (args.text? "order")
  return (column, order)

/-- The keys of the order; the tiebreak is left out when it is the sort column itself. -/
def orderKeys (listing : Listing) (column : String) (order : SortOrder) : List OrderKey :=
  ⟨column, order, true⟩ :: match listing.tiebreak with
    | none => []
    | some tiebreak => if tiebreak = column then [] else [⟨tiebreak, order, false⟩]

end Listing

/-- Orders the rows as asked. -/
def sort (args : Arguments) (listing : Listing) (d : Draft) : Except Error Draft :=
  (Listing.requested args listing).map fun (column, order) =>
    d.close (Draft.clause "ORDER BY " ", " ((listing.orderKeys column order).map OrderKey.text))

/-- Cuts out the page asked for, the first one unless another is asked for. -/
def page (args : Arguments) (listing : Listing) (d : Draft) : Except Fault Draft :=
  d.paginate ((args.int? "page").getD 1) ((args.int? "limit").getD listing.defaultLimit)

end BoundQuery.Filter
