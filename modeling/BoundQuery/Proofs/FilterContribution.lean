import BoundQuery.Proofs.FilterPlans

/-!
# Contributions of filters

What criteria and the filters of lists, windows, prices, orders and pages add, written out with the
values in place. Each of them is what the plan of its filter adds.
-/
namespace BoundQuery

open FilledText (ofString)
open Draft
open Plan (forSome forEach unlessEmpty)

namespace Plan

variable {α : Type}

/-- A plan for a list adds nothing where the list is empty. -/
lemma contribution_unlessEmpty (plan : List α → Plan) (items : List α) :
    (unlessEmpty plan items).contribution =
      if items.isEmpty then {} else (plan items).contribution := by
  unfold unlessEmpty
  split <;> rfl

end Plan

namespace Criterion

/-- What one end of a range adds, if there is one. -/
def boundContribution (column : String) (comparison : Comparison) : Option Value → Contribution
  | none => {}
  | some v => .comparison column comparison v

def contribution (column : String) : Criterion → Contribution
  | .absent => {}
  | .one v => .comparison column .eq v
  | .set values => .membership column values .allow
  | .range lower upper => boundContribution column .ge lower ++ boundContribution column .le upper

lemma contribution_boundPlan (column : String) (comparison : Comparison) (bound : Option Value) :
    (boundPlan column comparison bound).contribution =
      boundContribution column comparison bound := by
  cases bound <;> rfl

/-- What a criterion adds is what its plan adds. -/
theorem contribution_plan (column : String) (criterion : Criterion) :
    (criterion.plan column).contribution = criterion.contribution column := by
  cases criterion with
  | range lower upper =>
    rw [plan, Plan.contribution_append, contribution_boundPlan, contribution_boundPlan,
      contribution]
  | _ => rfl

end Criterion

namespace Filter

variable (args : Arguments)

/-! ### Allow and deny lists -/

namespace Lists

def collections (column : String) : Contribution :=
  let deny := args.list "collection_blacklist"
  let allow := args.list "collection_whitelist"
  (if deny.isEmpty then {} else .membership column deny .deny) ++
    if allow.isEmpty then {} else .membership column allow .allow

/-- That none of some columns is among the values. -/
def noneOf (values : List Value) (columns : List String) : Contribution :=
  columns.foldr (fun column k => .orNull column values ++ k) {}

def accounts (columns : List String) : Contribution :=
  let deny := args.list "account_blacklist"
  let allow := args.list "account_whitelist"
  (if deny.isEmpty then {} else noneOf deny columns) ++
    if allow.isEmpty then {} else anyOf allow columns

end Lists

/-- What the list arguments add. -/
def listsContribution (c : ListColumns) : Contribution :=
  (match c.collection with | none => {} | some column => Lists.collections args column) ++
    Lists.accounts args c.accounts

namespace Lists

lemma contribution_onCollection (column : String) :
    (onCollection args column).contribution = collections args column := by
  rw [onCollection, Plan.contribution_append, Plan.contribution_unlessEmpty,
    Plan.contribution_unlessEmpty]
  rfl

lemma contribution_denyEach (deny : List Value) (columns : List String) :
    (forEach (fun column => .op (.nonMember column (.list deny) true)) columns).contribution =
      noneOf deny columns := by
  induction columns with
  | nil => rfl
  | cons column columns ih =>
    rw [forEach, Plan.contribution_append, ih]
    rfl

lemma contribution_onAccounts (columns : List String) :
    (onAccounts args columns).contribution = accounts args columns := by
  rw [onAccounts, Plan.contribution_append, Plan.contribution_unlessEmpty,
    Plan.contribution_unlessEmpty, contribution_denyEach]
  rfl

theorem contribution_plan (c : ListColumns) :
    (plan args c).contribution = listsContribution args c := by
  rw [plan, Plan.contribution_append, contribution_onAccounts, listsContribution]
  cases c.collection with
  | none => rfl
  | some column => rw [forSome, contribution_onCollection]

end Lists

/-! ### Windows and prices -/

/-- What the time arguments add, where there is a column for them. -/
def timeContribution : Option String → Contribution
  | none => {}
  | some column =>
    Criterion.boundContribution column .lt ((args.int? "before").map .int) ++
      Criterion.boundContribution column .gt ((args.int? "after").map .int)

/-- What the boundary arguments add. -/
def windowContribution (c : WindowColumns) : Contribution :=
  (args.criterion "ids").contribution c.primary ++
    (Criterion.boundContribution c.primary .ge (args.get? "lower_bound") ++
      (Criterion.boundContribution c.primary .lt (args.get? "upper_bound") ++
        timeContribution args c.date))

theorem Window.contribution_plan (c : WindowColumns) :
    (plan args c).contribution = windowContribution args c := by
  simp only [plan, Plan.contribution_append, Criterion.contribution_plan,
    Criterion.contribution_boundPlan, windowContribution]
  cases c.date with
  | none => rfl
  | some column =>
    simp only [forSome, onTime, Plan.contribution_append, Criterion.contribution_boundPlan,
      timeContribution]

def priceBoundContribution (c : PriceColumns) (comparison : Comparison) :
    Option Binary64 → Contribution
  | none => {}
  | some x =>
    { conditions := [FilledText.group (.comparison c.price comparison (.float x)
        ++ ofString (" * POWER(10, " ++ c.precision ++ ")"))]
      values := [.float x] }

/-- What the price arguments add. -/
def priceContribution (c : PriceColumns) : Contribution :=
  (match args.text? "symbol" with
    | none => {}
    | some symbol => .comparison c.symbol .eq (.text symbol)) ++
    (priceBoundContribution c .ge (args.float? "min_price") ++
      priceBoundContribution c .le (args.float? "max_price"))

theorem Price.contribution_plan (c : PriceColumns) :
    (plan args c).contribution = priceContribution args c := by
  have bound (comparison : Comparison) (x : Option Binary64) :
      (boundPlan c comparison x).contribution = priceBoundContribution c comparison x := by
    cases x <;> rfl
  rw [plan, Plan.contribution_append, Plan.contribution_append, bound, bound, priceContribution]
  cases args.text? "symbol" <;> rfl

/-! ### Sorting and paging -/

/-- The order asked for, where its key and its direction are known. -/
def sortContribution (listing : Listing) : Contribution :=
  match listing.requested args with
  | .ok (column, order) =>
    { closing := [FilledText.clause "ORDER BY " ", " ((listing.orderKeys column order).map
        fun key => key.text.filled [])] }
  | .error _ => {}

theorem Listing.contribution_plan (listing : Listing) :
    (plan args listing).contribution = sortContribution args listing := by
  unfold plan sortContribution
  cases listing.requested args <;> rfl

/-- The page asked for, where its first row has a number. -/
def pageContribution (listing : Listing) : Contribution :=
  let limit := (args.int? "limit").getD listing.defaultLimit
  match offset ((args.int? "page").getD 1) limit with
  | .ok rows => .page limit rows
  | .error _ => {}

/-- A page is one operation. -/
theorem Listing.contribution_pagePlan (listing : Listing) :
    (pagePlan args listing).contribution = pageContribution args listing := rfl

end Filter

end BoundQuery
