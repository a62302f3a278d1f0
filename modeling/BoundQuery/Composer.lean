import BoundQuery.Filter.Asset
import BoundQuery.Filter.Attributes
import BoundQuery.Filter.Drop
import BoundQuery.Filter.Listing
import BoundQuery.Filter.Lists
import BoundQuery.Filter.Price
import BoundQuery.Filter.Window

/-!
# Composers

A composer is a filter together with the columns it applies to. Composers read a few
arguments each and add conditions to a draft; an absent argument adds nothing.
-/
namespace BoundQuery

inductive Composer where
  | asset (c : Filter.AssetColumns)
  | attributes (c : Filter.AssetColumns)
  | lists (c : Filter.ListColumns)
  | window (c : Filter.WindowColumns)
  | price (c : Filter.PriceColumns)
  | drop (c : Filter.DropColumns) (now : Int64)
  | sort (listing : Filter.Listing)
  | page (listing : Filter.Listing)

/-- Applies a filter to a draft. -/
def Composer.apply (args : Arguments) (d : Draft) : Composer → Except Failure Draft
  | .asset c => orFault (Filter.asset args c d)
  | .attributes c => Filter.attributes args c d
  | .lists c => .ok (Filter.lists args c d)
  | .window c => .ok (Filter.window args c d)
  | .price c => .ok (Filter.price args c d)
  | .drop c now => orError (Filter.drop args c now d)
  | .sort listing => orError (Filter.sort args listing d)
  | .page listing => orFault (Filter.page args listing d)

end BoundQuery
