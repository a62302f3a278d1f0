import BoundQuery.Composer
import BoundQuery.Proofs.Plans

/-!
# Plans of filters

Each filter is a plan that its arguments and its columns fix; the draft has no part in it. To apply
a filter is to run its plan. Main statements: `Composer.run_plan` and `Composer.gains_apply`.
-/
namespace BoundQuery

open BoundQuery.Draft BoundQuery.Filter
open Plan (op forSome forRead forEach unlessEmpty)

namespace Criterion

/-- One end of a range, if there is one. -/
def boundPlan (column : String) (comparison : Comparison) : Option Value → Plan :=
  forSome fun v => op (.compare column comparison v)

def plan (column : String) : Criterion → Plan
  | .absent => .skip
  | .one v => op (.compare column .eq v)
  | .set values => op (.member column (.list values))
  | .range lower upper => boundPlan column .ge lower ++ boundPlan column .le upper

/-- The plan that excludes a criterion from a column. -/
def exclusion (column : String) (orNull : Bool) : Criterion → Plan
  | .one v => op (.nonMember column (.list [v]) orNull)
  | .set values => op (.nonMember column (.list values) orNull)
  | .absent => .skip
  | .range _ _ => .skip

lemma run_boundPlan (column : String) (comparison : Comparison) (bound : Option Value) (d : Draft) :
    (boundPlan column comparison bound).run d = .ok (applyBound d column comparison bound) := by
  cases bound <;> rfl

theorem run_plan (column : String) (criterion : Criterion) (d : Draft) :
    (criterion.plan column).run d = .ok (criterion.apply d column) := by
  cases criterion with
  | range lower upper =>
    exact Plan.run_append_eq_ok (run_boundPlan column .ge lower) (run_boundPlan column .le upper) d
  | _ => rfl

theorem run_exclusion (column : String) (orNull : Bool) (criterion : Criterion) (d : Draft) :
    (criterion.exclusion column orNull).run d = .ok (criterion.exclude d column orNull) := by
  cases criterion <;> rfl

end Criterion

namespace Filter

variable (args : Arguments)

/-! ### Assets -/

namespace Asset

variable (c : AssetColumns)

/-- The column of the asset that has the name of the argument. -/
def named (name : String) : Plan := (args.criterion name).plan (c.asset ++ "." ++ name)

/-- The text `null` asks for assets without a template. -/
def template : Plan :=
  if args.text? "template_id" = some "null" then op (.nullCheck (c.asset ++ ".template_id") true)
  else named args c "template_id"

def burned : Plan :=
  forSome (fun burned => op (.nullCheck (c.asset ++ ".owner") burned)) (args.flag? "burned")

/-- The deny list keeps assets without a template. -/
def templateLists : Plan :=
  unlessEmpty (fun deny => op (.nonMember (c.asset ++ ".template_id") (.list deny) true))
      (args.list "template_blacklist") ++
    unlessEmpty (fun allow => op (.member (c.asset ++ ".template_id") (.list allow)))
      (args.list "template_whitelist")

def mints : Plan :=
  (args.range "min_template_mint" "max_template_mint").plan (c.asset ++ ".template_mint")

def flag (column : String) : Option Bool → Plan :=
  forSome fun set => op (.raw (c.template ++ "." ++ column ++
    if set then " IS DISTINCT FROM FALSE" else " = FALSE"))

/-- The base joins the templates where a flag of theirs is asked for. -/
def joined : Plan :=
  if ((args.flag? "is_transferable").isSome || (args.flag? "is_burnable").isSome)
    && !c.templateJoined then op (.extendBase (templateJoin c)) else .skip

def templateFlags : Plan :=
  joined args c ++ (flag c "transferable" (args.flag? "is_transferable") ++
    flag c "burnable" (args.flag? "is_burnable"))

/-- What is asked of the columns of the asset itself. -/
def columns : Plan :=
  named args c "owner" ++ (template args c ++ (named args c "schema_name" ++
    (named args c "collection_name" ++ (burned args c ++ (templateLists args c ++
      mints args c)))))

/-- The dimensions that need no nested statement. -/
def dimensions : Plan := columns args c ++ templateFlags args c

/-- Another asset of the template and the owner is asked for that comes before. -/
def duplicates : Plan :=
  if args.flag? "only_duplicate_templates" = some true then
    op (.nullCheck (c.asset ++ ".template_id") false) ++
      .hasRow ("SELECT FROM " ++ assetsTable ++ " inner_asset")
        (op (.join "inner_asset" c.asset ["contract", "template_id", "owner"]) ++
          op (.raw ("inner_asset.asset_id < " ++ c.asset ++ ".asset_id")))
  else .skip

/-- A collection of the asset is asked for that authorizes the account. -/
def authorized : Plan :=
  forSome (fun account =>
    .hasRow ("SELECT FROM " ++ collectionsTable ++ " auth_collection")
      (op (.join "auth_collection" c.asset ["contract", "collection_name"]) ++
        .step (.about account .authorizes)))
    (args.get? "authorized_account")

/-- The plan of the asset filter. -/
def plan : Plan := dimensions args c ++ (duplicates args c ++ authorized args c)

variable {args c}

lemma run_named (name : String) (d : Draft) :
    (named args c name).run d = .ok (applyNamed args c name d) := Criterion.run_plan _ _ d

lemma run_template (d : Draft) : (template args c).run d = .ok (applyTemplate args c d) := by
  unfold template applyTemplate
  split
  · rfl
  · exact run_named "template_id" d

lemma run_burned (d : Draft) : (burned args c).run d = .ok (applyBurned args c d) := by
  unfold burned applyBurned
  cases args.flag? "burned" <;> rfl

lemma run_templateLists (d : Draft) :
    (templateLists args c).run d = .ok (applyTemplateLists args c d) :=
  Plan.run_append_eq_ok
    (Plan.run_unlessEmpty (f := fun deny d => d.addNonMember (c.asset ++ ".template_id") deny true)
      (fun _ _ => rfl) _)
    (Plan.run_unlessEmpty (f := fun allow d => d.addMember (c.asset ++ ".template_id") allow)
      (fun _ _ => rfl) _) d

lemma run_flag (column : String) (asked : Option Bool) (d : Draft) :
    (flag c column asked).run d = .ok (applyFlag c column d asked) := by
  rcases asked with _ | _ | _ <;> rfl

lemma run_templateFlags (d : Draft) :
    (templateFlags args c).run d = .ok (applyTemplateFlags args c d) := by
  have based (d : Draft) : (joined args c).run d = .ok
      (if ((args.flag? "is_transferable").isSome || (args.flag? "is_burnable").isSome)
        && !c.templateJoined then d.extendBase (templateJoin c) else d) := by
    unfold joined
    split <;> rfl
  exact Plan.run_append_eq_ok based
    (Plan.run_append_eq_ok (run_flag "transferable" _) (run_flag "burnable" _)) d

lemma run_dimensions (d : Draft) : (dimensions args c).run d = .ok (applyDirect args c d) :=
  Plan.run_append_eq_ok (Plan.run_append_eq_ok (run_named "owner") <|
    Plan.run_append_eq_ok run_template <|
    Plan.run_append_eq_ok (run_named "schema_name") <|
    Plan.run_append_eq_ok (run_named "collection_name") <|
    Plan.run_append_eq_ok run_burned <|
    Plan.run_append_eq_ok run_templateLists (Criterion.run_plan _ _)) run_templateFlags d

lemma run_duplicates (d : Draft) :
    (duplicates args c).run d = orFault (applyDuplicates args c d) := by
  unfold duplicates applyDuplicates
  split <;> rfl

lemma run_authorized (d : Draft) :
    (authorized args c).run d = orFault (applyAuthorized args c d) := by
  unfold authorized applyAuthorized
  cases args.get? "authorized_account" <;> rfl

theorem run_plan (d : Draft) : (plan args c).run d = orFault (asset args c d) := by
  rw [plan, Plan.run_append_of_ok (run_dimensions d), Plan.run_append, run_duplicates, asset]
  cases applyDuplicates args c (applyDirect args c d) with
  | error f => rfl
  | ok e => exact run_authorized e

end Asset

/-! ### Attributes -/

namespace Attributes

variable (c : AssetColumns)

/-- That a column of the asset contains some terms. -/
def inColumn (column : String) : List Term → Plan :=
  unlessEmpty fun terms => .step (.about (objectOf terms) (.contains column))

/-- That the data of the template contains some terms. -/
def inTemplate : List Term → Plan :=
  unlessEmpty fun terms =>
    .hasRow ("SELECT FROM " ++ templatesTable ++ " " ++ "data_template")
      (op (.join "data_template" c.asset ["contract", "template_id"]) ++
        .step (.about (objectOf terms) (.contains "data_template.immutable_data")))

def requirement (t : Terms) : Plan :=
  inColumn (c.asset ++ ".immutable_data") t.immutableData ++
    (inColumn (c.asset ++ ".mutable_data") t.mutableData ++
      (inTemplate c t.templateData ++ forEach (fun term => .step (.anywhere c term)) t.any))

/-- The plan of the attribute filter: all terms are read first. -/
def plan (args : Arguments) : Plan := forRead (requirement c) (allTerms args)

variable {c}

lemma run_inColumn (column : String) (terms : List Term) (d : Draft) :
    (inColumn column terms).run d = .ok (requireIn column terms d) := by
  unfold inColumn unlessEmpty requireIn
  cases terms.isEmpty <;> rfl

lemma run_inTemplate (terms : List Term) (d : Draft) :
    (inTemplate c terms).run d = orFault (requireInTemplate c terms d) := by
  unfold inTemplate unlessEmpty requireInTemplate
  cases terms.isEmpty <;> rfl

lemma run_forEach_anywhere (terms : List Term) (d : Draft) :
    (forEach (fun term => .step (.anywhere c term)) terms).run d =
      orFault (terms.foldlM (requireAnywhere c) d) := by
  induction terms generalizing d with
  | nil => rfl
  | cons term terms ih =>
    have first : (Plan.step (.anywhere c term)).run d = orFault (requireAnywhere c d term) := rfl
    rw [forEach, Plan.run_append, first, List.foldlM_cons, funext ih]
    exact Outcome.orFault_bind _ _

/-- To require terms is to run their plan. -/
lemma run_requirement (t : Terms) (d : Draft) :
    (requirement c t).run d = orFault (require c t d) := by
  rw [requirement, Plan.run_append_of_ok (run_inColumn _ _ d),
    Plan.run_append_of_ok (run_inColumn _ _ _), Plan.run_append, run_inTemplate,
    funext (run_forEach_anywhere t.any)]
  exact Outcome.orFault_bind _ _

theorem run_plan (args : Arguments) (d : Draft) : (plan c args).run d = attributes args c d := by
  unfold plan attributes
  cases allTerms args with
  | error e => rfl
  | ok t => exact run_requirement t d

end Attributes

/-! ### Allow and deny lists -/

namespace Lists

/-- The lists of collections, the denied ones first. -/
def onCollection (column : String) : Plan :=
  unlessEmpty (fun deny => op (.nonMember column (.list deny) false))
      (args.list "collection_blacklist") ++
    unlessEmpty (fun allow => op (.member column (.list allow))) (args.list "collection_whitelist")

/-- No account may be denied, and one of them is to be allowed. -/
def onAccounts (columns : List String) : Plan :=
  unlessEmpty (fun deny => forEach (fun column => op (.nonMember column (.list deny) true)) columns)
      (args.list "account_blacklist") ++
    unlessEmpty (fun allow => .step (.anyMember allow columns)) (args.list "account_whitelist")

/-- The plan of the list filter. -/
def plan (c : ListColumns) : Plan :=
  forSome (onCollection args) c.collection ++ onAccounts args c.accounts

variable {args}

lemma run_onCollection (column : String) (d : Draft) :
    (onCollection args column).run d = .ok (applyCollections args column d) :=
  Plan.run_append_eq_ok
    (Plan.run_unlessEmpty (f := fun deny d => d.addNonMember column deny false)
      (fun _ _ => rfl) _)
    (Plan.run_unlessEmpty (f := fun allow d => d.addMember column allow) (fun _ _ => rfl) _) d

lemma run_denyEach (deny : List Value) (columns : List String) (d : Draft) :
    (forEach (fun column => op (.nonMember column (.list deny) true)) columns).run d =
      .ok (columns.foldl (fun d column => d.addNonMember column deny true) d) := by
  induction columns generalizing d with
  | nil => rfl
  | cons column columns ih => exact ih _

lemma run_onAccounts (columns : List String) (d : Draft) :
    (onAccounts args columns).run d = .ok (applyAccounts args columns d) :=
  Plan.run_append_eq_ok
    (Plan.run_unlessEmpty (f := fun deny d =>
      columns.foldl (fun d column => d.addNonMember column deny true) d)
      (fun deny => run_denyEach deny columns) _)
    (Plan.run_unlessEmpty (f := fun allow d => allowAny allow columns d) (fun _ _ => rfl) _) d

theorem run_plan (c : ListColumns) (d : Draft) : (plan args c).run d = .ok (lists args c d) := by
  unfold plan lists
  cases c.collection with
  | none => exact run_onAccounts c.accounts d
  | some column => exact Plan.run_append_eq_ok (run_onCollection column) (run_onAccounts _) d

end Lists

/-! ### Windows, prices and drop states -/

namespace Window

/-- The instants before and after which a row is asked for. -/
def onTime (column : String) : Plan :=
  Criterion.boundPlan column .lt ((args.int? "before").map .int) ++
    Criterion.boundPlan column .gt ((args.int? "after").map .int)

/-- The plan of the window filter. -/
def plan (c : WindowColumns) : Plan :=
  (args.criterion "ids").plan c.primary ++
    (Criterion.boundPlan c.primary .ge (args.get? "lower_bound") ++
      (Criterion.boundPlan c.primary .lt (args.get? "upper_bound") ++
        forSome (onTime args) c.date))

variable {args}

lemma run_compare (column : String) (comparison : Comparison) (v : Option Value) (d : Draft) :
    (Criterion.boundPlan column comparison v).run d = .ok (compare column comparison v d) := by
  rw [compare_eq_applyBound]
  exact Criterion.run_boundPlan column comparison v d

/-- The plan asks for the rows and the bounds before it asks for the times. -/
lemma run_plan_of_timed (c : WindowColumns) {timed : Draft → Draft}
    (h : ∀ d, (forSome (onTime args) c.date).run d = .ok (timed d)) (d : Draft) :
    (plan args c).run d = .ok (timed (compare c.primary .lt (args.get? "upper_bound")
      (compare c.primary .ge (args.get? "lower_bound")
        ((args.criterion "ids").apply d c.primary)))) :=
  Plan.run_append_eq_ok (Criterion.run_plan _ _) (Plan.run_append_eq_ok (run_compare _ _ _) <|
    Plan.run_append_eq_ok (run_compare _ _ _) h) d

theorem run_plan (c : WindowColumns) (d : Draft) : (plan args c).run d = .ok (window args c d) := by
  obtain ⟨primary, date⟩ := c
  cases date with
  | none =>
    have untimed (d : Draft) : (forSome (onTime args) none).run d = .ok d := rfl
    exact run_plan_of_timed ⟨primary, none⟩ untimed d
  | some column =>
    have timed (d : Draft) : (forSome (onTime args) (some column)).run d =
        .ok (applyWindow args column d) :=
      Plan.run_append_eq_ok (run_compare column .lt _) (run_compare column .gt _) d
    exact run_plan_of_timed ⟨primary, some column⟩ timed d

end Window

namespace Price

def boundPlan (c : PriceColumns) (comparison : Comparison) : Option Binary64 → Plan :=
  forSome fun x => .step (.about (.float x) (.scaled c comparison))

/-- The plan of the price filter. -/
def plan (c : PriceColumns) : Plan :=
  forSome (fun symbol => op (.compare c.symbol .eq (.text symbol))) (args.text? "symbol") ++
    (boundPlan c .ge (args.float? "min_price") ++ boundPlan c .le (args.float? "max_price"))

variable {args}

lemma run_boundPlan (c : PriceColumns) (comparison : Comparison) (bound : Option Binary64)
    (d : Draft) :
    (boundPlan c comparison bound).run d = .ok (applyBound c comparison bound d) := by
  cases bound <;> rfl

theorem run_plan (c : PriceColumns) (d : Draft) : (plan args c).run d = .ok (price args c d) := by
  have bounds := Plan.run_append_eq_ok (run_boundPlan c .ge (args.float? "min_price"))
    (run_boundPlan c .le (args.float? "max_price"))
  unfold plan price
  cases args.text? "symbol" with
  | none => exact bounds d
  | some symbol => exact bounds _

end Price

namespace DropState

/-- That a drop is in one of some states. -/
def inAny (c : DropColumns) (now : Int64) : List DropState → Plan
  | [] => .skip
  | first :: rest => .step (.about (.int now) (.inStates c first rest))

/-- The plan of the drop filter: all states are read first. -/
def plan (c : DropColumns) (now : Int64) : Plan := forRead (inAny c now) (requested args)

variable {args}

lemma run_inAny (c : DropColumns) (now : Int64) (states : List DropState) (d : Draft) :
    (inAny c now states).run d = .ok (require c now states d) := by
  cases states <;> rfl

theorem run_plan (c : DropColumns) (now : Int64) (d : Draft) :
    (plan args c now).run d = orError (drop args c now d) := by
  unfold plan drop
  cases requested args with
  | error e => rfl
  | ok states => exact run_inAny c now states d

end DropState

/-! ### Order and pages -/

namespace Listing

/-- The plan of an order: its column and its direction are read first. -/
def plan (listing : Listing) : Plan :=
  forRead (fun (column, order) => .step (.order (listing.orderKeys column order)))
    (listing.requested args)

/-- The plan of a page. -/
def pagePlan (listing : Listing) : Plan :=
  op (.paginate ((args.int? "page").getD 1) ((args.int? "limit").getD listing.defaultLimit))

variable {args}

theorem run_plan (listing : Listing) (d : Draft) :
    (plan args listing).run d = orError (sort args listing d) := by
  unfold plan sort
  cases listing.requested args <;> rfl

end Listing

end Filter

/-! ### Composers -/

namespace Composer

/-- What a composer does, as a plan. -/
def plan (args : Arguments) : Composer → Plan
  | .asset c => Asset.plan args c
  | .attributes c => Attributes.plan c args
  | .lists c => Lists.plan args c
  | .window c => Window.plan args c
  | .price c => Price.plan args c
  | .drop c now => DropState.plan args c now
  | .sort listing => Listing.plan args listing
  | .page listing => Listing.pagePlan args listing

variable {args : Arguments} {composer : Composer} {d e : Draft}

/-- To apply a composer is to run its plan. -/
theorem run_plan (args : Arguments) (composer : Composer) (d : Draft) :
    (composer.plan args).run d = composer.apply args d := by
  cases composer with
  | asset c => exact Asset.run_plan d
  | attributes c => exact Attributes.run_plan args d
  | lists c => exact Lists.run_plan c d
  | window c => exact Window.run_plan c d
  | price c => exact Price.run_plan c d
  | drop c now => exact DropState.run_plan c now d
  | sort listing => exact Listing.run_plan listing d
  | page listing => rfl

/-- What a composer adds. -/
def contribution (args : Arguments) (composer : Composer) : Contribution :=
  (composer.plan args).contribution

/-- A composer adds the same to every draft. -/
theorem gains_apply (h : composer.apply args d = .ok e) : Gains (composer.contribution args) d e :=
  Plan.gains_run ((composer.run_plan args d).trans h)

end Composer

end BoundQuery
