import BoundQuery.Criterion

/-!
# Allow and deny lists

Lists of collections apply to one column. A deny list of accounts excludes its values
from every account column, a column that is null staying visible; an allow list asks
that any of the account columns is in it.
-/
namespace BoundQuery.Filter

structure ListColumns where
  collection : Option String := none
  accounts : List String := []

namespace Lists

def applyCollections (args : Arguments) (column : String) (d : Draft) : Draft :=
  let deny := args.list "collection_blacklist"
  let d := if deny.isEmpty then d else d.addNonMember column deny false
  let allow := args.list "collection_whitelist"
  if allow.isEmpty then d else d.addMember column allow

/-- One membership test for each column, each with a parameter of its own. -/
def tests (values : List Value) : List String → Draft → List Condition × Draft
  | [], d => ([], d)
  | column :: columns, d =>
    let (condition, d) := d.test column values .allow
    let (conditions, d) := tests values columns d
    (condition :: conditions, d)

/-- Asks that any of the columns is among the values. -/
def allowAny (values : List Value) (columns : List String) (d : Draft) : Draft :=
  match tests values columns d with
  | ([], d) => d
  | (first :: rest, d) => d.add (.group (.anyOf first rest))

def applyAccounts (args : Arguments) (columns : List String) (d : Draft) : Draft :=
  let deny := args.list "account_blacklist"
  let d :=
    if deny.isEmpty then d
    else columns.foldl (fun d column => d.addNonMember column deny true) d
  let allow := args.list "account_whitelist"
  if allow.isEmpty then d else allowAny allow columns d

end Lists

/-- Applies the lists of collections and accounts. -/
def lists (args : Arguments) (c : ListColumns) (d : Draft) : Draft :=
  let d :=
    match c.collection with
    | none => d
    | some column => Lists.applyCollections args column d
  Lists.applyAccounts args c.accounts d

end BoundQuery.Filter
