import BoundQuery.Criterion

/-!
# Asset filter

Ownership, template, schema and collection, burned assets, template lists, mint
range, template flags, duplicates and authorized accounts. A flag of the template
needs the table of templates, which is joined to the base unless it is there already.
-/
namespace BoundQuery.Filter

def assetsTable : String := "atomicassets_assets"

def templatesTable : String := "atomicassets_templates"

def collectionsTable : String := "atomicassets_collections"

/-- The names that the asset filters refer to: of the assets, of the templates, and whether the
base joins the templates. -/
structure AssetColumns where
  asset : String := "asset"
  template : String := "\"template\""
  templateJoined : Bool := false

namespace Asset

/-- Requires the criterion of an argument of an asset's column. -/
def applyNamed (args : Arguments) (c : AssetColumns) (name : String) (d : Draft) : Draft :=
  (args.criterion name).apply d (c.asset ++ "." ++ name)

/-- The text `null` asks for assets without a template. -/
def applyTemplate (args : Arguments) (c : AssetColumns) (d : Draft) : Draft :=
  if args.text? "template_id" = some "null" then d.addNullCheck (c.asset ++ ".template_id") true
  else applyNamed args c "template_id" d

/-- A burned asset has no owner. -/
def applyBurned (args : Arguments) (c : AssetColumns) (d : Draft) : Draft :=
  match args.flag? "burned" with
  | none => d
  | some burned => d.addNullCheck (c.asset ++ ".owner") burned

/-- The deny list keeps assets without a template. -/
def applyTemplateLists (args : Arguments) (c : AssetColumns) (d : Draft) : Draft :=
  let column := c.asset ++ ".template_id"
  let deny := args.list "template_blacklist"
  let d := if deny.isEmpty then d else d.addNonMember column deny true
  let allow := args.list "template_whitelist"
  if allow.isEmpty then d else d.addMember column allow

def applyMints (args : Arguments) (c : AssetColumns) (d : Draft) : Draft :=
  (args.range "min_template_mint" "max_template_mint").apply d (c.asset ++ ".template_mint")

def templateJoin (c : AssetColumns) : String :=
  " LEFT JOIN " ++ templatesTable ++ " " ++ c.template ++ " ON " ++ c.template ++ ".contract = "
    ++ c.asset ++ ".contract AND " ++ c.template ++ ".template_id = " ++ c.asset ++ ".template_id"

/-- A flag of the template; an asset without a template counts as having it set. -/
def applyFlag (c : AssetColumns) (column : String) (d : Draft) : Option Bool → Draft
  | none => d
  | some true =>
    d.addRaw (.ofString (c.template ++ "." ++ column ++ " IS DISTINCT FROM FALSE"))
  | some false => d.addRaw (.ofString (c.template ++ "." ++ column ++ " = FALSE"))

def applyTemplateFlags (args : Arguments) (c : AssetColumns) (d : Draft) : Draft :=
  let transferable := args.flag? "is_transferable"
  let burnable := args.flag? "is_burnable"
  let joins := (transferable.isSome || burnable.isSome) && !c.templateJoined
  let d := if joins then d.extendBase (templateJoin c) else d
  applyFlag c "burnable" (applyFlag c "transferable" d transferable) burnable

/-- Asks for another asset of the same template and owner with a smaller number. -/
def applyDuplicates (args : Arguments) (c : AssetColumns) (d : Draft) : Except Fault Draft :=
  if args.flag? "only_duplicate_templates" = some true then
    let d := d.addNullCheck (c.asset ++ ".template_id") false
    let sub := d.nested ("SELECT FROM " ++ assetsTable ++ " inner_asset")
    let sub := sub.addJoin "inner_asset" c.asset ["contract", "template_id", "owner"]
    let sub := sub.addRaw (.ofString ("inner_asset.asset_id < " ++ c.asset ++ ".asset_id"))
    d.fold sub
  else .ok d

/-- Asks for a collection of the asset that authorizes an account. -/
def applyAuthorized (args : Arguments) (c : AssetColumns) (d : Draft) : Except Fault Draft :=
  match args.get? "authorized_account" with
  | none => .ok d
  | some account =>
    let sub := d.nested ("SELECT FROM " ++ collectionsTable ++ " auth_collection")
    let sub := sub.addJoin "auth_collection" c.asset ["contract", "collection_name"]
    let (p, sub) := sub.bind account
    let sub := sub.addRaw
      [.placeholder p, .verbatim " = ANY(auth_collection.authorized_accounts)"]
    d.fold sub

/-- The dimensions that need no nested statement. -/
def applyDirect (args : Arguments) (c : AssetColumns) (d : Draft) : Draft :=
  let d := applyNamed args c "owner" d
  let d := applyTemplate args c d
  let d := applyNamed args c "schema_name" d
  let d := applyNamed args c "collection_name" d
  let d := applyBurned args c d
  let d := applyTemplateLists args c d
  let d := applyMints args c d
  applyTemplateFlags args c d

end Asset

/-- Applies every asset argument. -/
def asset (args : Arguments) (c : AssetColumns) (d : Draft) : Except Fault Draft :=
  (Asset.applyDuplicates args c (Asset.applyDirect args c d)).bind (Asset.applyAuthorized args c)

end BoundQuery.Filter
