import BoundQuery.Criterion

/-!
# Price filter

Bounds are given in whole tokens. A price is kept in the smallest unit of its token,
so the statement scales a bound by the precision of the token.
-/
namespace BoundQuery.Filter

structure PriceColumns where
  price : String := "listing.price"
  precision : String := "listing_token.token_precision"
  symbol : String := "listing.settlement_symbol"

namespace Price

def applyBound (c : PriceColumns) (comparison : Comparison) (bound : Option Binary64)
    (d : Draft) : Draft :=
  match bound with
  | none => d
  | some x =>
    let (p, d) := d.bind (.float x)
    d.addRaw [.verbatim (c.price ++ " " ++ comparison.symbol ++ " "), .placeholder p,
      .verbatim (" * POWER(10, " ++ c.precision ++ ")")]

end Price

/-- Applies the token and the bounds of the price. -/
def price (args : Arguments) (c : PriceColumns) (d : Draft) : Draft :=
  let d :=
    match args.text? "symbol" with
    | none => d
    | some symbol => d.addEquality c.symbol (.text symbol)
  let d := Price.applyBound c .ge (args.float? "min_price") d
  Price.applyBound c .le (args.float? "max_price") d

end BoundQuery.Filter
