import BoundQuery.Composer

/-!
# Searches

Complete listings: assets, asset counts by collection, drops and sales. A search is a
page of rows together with the count of all rows, which is taken before the rows are
ordered and cut.
-/
namespace BoundQuery

/-- A page of rows, and the count of all rows. -/
structure Search where
  items : Statement
  count : Statement

namespace Search

open BoundQuery.Filter

def dropsTable : String := "neftydrops_drops"

def salesTable : String := "atomicmarket_sales"

def tokensTable : String := "atomicmarket_tokens"

def offerAssetsTable : String := "atomicassets_offers_assets"

/-- How assets are listed: by their number, the latest first, unless asked otherwise. -/
def assetListing : Listing where
  columns :=
    [
      ("asset_id", "asset.asset_id"),
      ("minted", "asset.minted_at_time"),
      ("updated", "asset.updated_at_time"),
      ("transferred", "asset.transferred_at_time"),
      ("template_mint", "asset.template_mint")
    ]
  defaultSort := "asset_id"
  defaultOrder := .desc
  tiebreak := some "asset.asset_id"
  defaultLimit := 100

/-- How collections are listed: by the number of their assets. -/
def collectionListing : Listing where
  columns := [("assets", "assets"), ("collection_name", "asset.collection_name")]
  defaultSort := "assets"
  defaultOrder := .desc
  tiebreak := some "asset.collection_name"
  defaultLimit := 100

def dropListing : Listing where
  columns :=
    [
      ("created", "ndrop.created_at_time"),
      ("start_time", "ndrop.start_time"),
      ("end_time", "ndrop.end_time"),
      ("drop_id", "ndrop.drop_id")
    ]
  defaultSort := "created"
  defaultOrder := .desc
  tiebreak := some "ndrop.drop_id"
  defaultLimit := 100

def saleListing : Listing where
  columns :=
    [
      ("created", "listing.created_at_time"),
      ("updated", "listing.updated_at_time"),
      ("price", "listing.price"),
      ("sale_id", "listing.sale_id")
    ]
  defaultSort := "created"
  defaultOrder := .desc
  tiebreak := some "listing.sale_id"
  defaultLimit := 100

/-- Takes the count, then orders and cuts the rows. -/
def finish (args : Arguments) (listing : Listing) (d : Draft) : Except Failure Search := do
  let sorted ← orError (sort args listing d)
  let paged ← orFault (page args listing sorted)
  return ⟨paged.statement, d.statement.toCount⟩

/-- The assets of a contract that meet every asset, data, list and boundary argument. -/
def assetDraft (args : Arguments) (contract : String) : Except Failure Draft := do
  let d := Draft.ofBase ("SELECT asset.asset_id FROM " ++ assetsTable ++ " asset")
  let d := d.addEquality "asset.contract" (.text contract)
  let d ← orFault (asset args {} d)
  let d ← attributes args {} d
  let d := lists args ⟨some "asset.collection_name", ["asset.owner"]⟩ d
  return window args ⟨"asset.asset_id", some "asset.minted_at_time"⟩ d

def assets (args : Arguments) (contract : String) : Except Failure Search := do
  finish args assetListing (← assetDraft args contract)

/-- The assets of a contract, grouped by collection. -/
def collectionDraft (args : Arguments) (contract : String) : Except Failure Draft := do
  let d := Draft.ofBase
    ("SELECT asset.collection_name, COUNT(*) AS assets FROM " ++ assetsTable ++ " asset")
  let d := d.addEquality "asset.contract" (.text contract)
  let d ← orFault (asset args {} d)
  let d := lists args ⟨some "asset.collection_name", []⟩ d
  return d.addGroups ["asset.collection_name"]

def collections (args : Arguments) (contract : String) : Except Failure Search := do
  finish args collectionListing (← collectionDraft args contract)

/-- The drops of a contract by collection, visibility and state at an instant. Hidden drops are
left out unless they are asked for. -/
def dropDraft (args : Arguments) (contract : String) (now : Int64) : Except Failure Draft := do
  let d := Draft.ofBase ("SELECT ndrop.drop_id FROM " ++ dropsTable ++ " ndrop")
  let d := d.addEquality "ndrop.drops_contract" (.text contract)
  let d := (args.criterion "collection_name").apply d "ndrop.collection_name"
  let d := d.addEquality "ndrop.is_hidden" (.bool ((args.flag? "hidden").getD false))
  let d ← orError (drop args {} now d)
  let d := lists args ⟨some "ndrop.collection_name", []⟩ d
  return window args ⟨"ndrop.drop_id", some "ndrop.created_at_time"⟩ d

def drops (args : Arguments) (contract : String) (now : Int64) : Except Failure Search := do
  finish args dropListing (← dropDraft args contract now)

/-- The sales, each with the token its price is in. -/
def saleBase : String :=
  "SELECT listing.sale_id FROM " ++ salesTable ++ " listing JOIN " ++ tokensTable
    ++ " listing_token ON listing_token.market_contract = listing.market_contract"
    ++ " AND listing_token.token_symbol = listing.settlement_symbol"

/-- The assets of offers. -/
def offerBase : String :=
  "SELECT FROM " ++ offerAssetsTable ++ " offer_asset JOIN " ++ assetsTable
    ++ " asset ON asset.contract = offer_asset.contract"
    ++ " AND asset.asset_id = offer_asset.asset_id"

/-- The assets of a sale's offer, correlated with the sale and nothing else. -/
def offerDraft (d : Draft) : Draft :=
  ((d.nested offerBase).addJoin "offer_asset" "listing" ["offer_id"]).addRaw
    (.ofString "offer_asset.contract = listing.assets_contract")

/-- Asks that an asset of the offer meets the asset and data arguments, if there are any. -/
def requireOffered (args : Arguments) (d : Draft) : Except Failure Draft := do
  let correlated := offerDraft d
  let sub ← orFault (asset args {} correlated)
  let sub ← attributes args {} sub
  if correlated.conditions.length < sub.conditions.length then orFault (d.fold sub)
  else return d

/-- The sales of a market by state, parties, price and the assets on offer. -/
def saleDraft (args : Arguments) (market : String) : Except Failure Draft := do
  let d := Draft.ofBase saleBase
  let d := d.addEquality "listing.market_contract" (.text market)
  let d := (args.criterion "state").apply d "listing.state"
  let d := (args.criterion "seller").apply d "listing.seller"
  let d := (args.criterion "buyer").apply d "listing.buyer"
  let d := price args {} d
  let d ← requireOffered args d
  let d := lists args
    ⟨some "listing.collection_name", ["listing.seller", "listing.buyer"]⟩ d
  return window args ⟨"listing.sale_id", some "listing.created_at_time"⟩ d

def sales (args : Arguments) (market : String) : Except Failure Search := do
  finish args saleListing (← saleDraft args market)

end Search

end BoundQuery
