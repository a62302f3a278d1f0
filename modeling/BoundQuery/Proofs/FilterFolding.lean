import BoundQuery.Proofs.FilterPlans
import BoundQuery.Proofs.Folding

/-!
# Filters that fold nested drafts

Duplicates, authorized accounts and attributes of templates ask for a row of a nested draft. The
filters that nest a statement, and those whose values are bound before one, are described here by
the arguments that make them fault, bind a NaN or add a condition. Main statements:
`Filter.Asset.faults_plan` and `Filter.Attributes.faults_plan`.
-/
namespace BoundQuery

open Contribution BoundQuery.Filter
open Plan (op forSome forRead forEach unlessEmpty)

namespace Arguments

/-- The list arguments of the asset filter. -/
def assetLists : List String :=
  [
    "owner", "template_id", "schema_name", "collection_name",
    "template_blacklist", "template_whitelist"
  ]

/-- The bounds of the asset filter. -/
def assetBounds : List String := ["min_template_mint", "max_template_mint"]

/-- The flags of the asset filter that need no nested statement. -/
def assetFlags : List String := ["burned", "is_transferable", "is_burnable"]

/-- A NaN is in an argument that the asset filter binds before it nests a statement. -/
def AssetNaN (args : Arguments) : Prop := ∃ name ∈ assetLists ++ assetBounds, args.NaNAt name

/-- The asset filter nests a statement: for duplicates or for an authorized account. -/
def NestsAsset (args : Arguments) : Prop :=
  args.flag? "only_duplicate_templates" = some true ∨
    (args.get? "authorized_account").isSome = true

/-- The asset filter adds a condition. -/
def AsksAsset (args : Arguments) : Prop :=
  (∃ name ∈ assetLists, args.list name ≠ []) ∨
    (∃ name ∈ assetBounds, (args.get? name).isSome = true) ∨
    (∃ name ∈ assetFlags, (args.flag? name).isSome = true) ∨ args.NestsAsset

/-- A NaN is in an argument of the sale itself: a state, a party or a bound of the price. -/
def SaleNaN (args : Arguments) : Prop :=
  (∃ name ∈ ["state", "seller", "buyer"], args.NaNAt name) ∨
    ∃ name ∈ ["min_price", "max_price"], ∃ x, args.float? name = some x ∧ x.isNaN = true

end Arguments

/-! ### Operations and criteria -/

namespace Operation

lemma adds_compare (column : String) (comparison : Comparison) (v : Value) :
    (op (.compare column comparison v)).contribution.Adds (v.hasNaN = true) True :=
  (adds_one _ [v]).congr (by simp) Iff.rfl

lemma adds_member (column : String) (values : List Value) :
    (op (.member column (.list values))).contribution.Adds (Value.anyNaN values = true) True :=
  adds_membership column values .allow

lemma adds_nonMember (column : String) (values : List Value) (orNull : Bool) :
    (op (.nonMember column (.list values) orNull)).contribution.Adds
      (Value.anyNaN values = true) True := by
  cases orNull with
  | false => exact adds_membership column values .deny
  | true => exact adds_orNull column values

lemma adds_nullCheck (column : String) (expected : Bool) :
    (op (.nullCheck column expected)).contribution.Adds False True :=
  (adds_one _ []).congr (by simp) Iff.rfl

lemma adds_raw (sql : String) : (op (.raw sql)).contribution.Adds False True :=
  (adds_one _ []).congr (by simp) Iff.rfl

lemma runs_nullCheck (column : String) (expected : Bool) :
    (op (.nullCheck column expected)).Runs True (fun _ => False) False True :=
  .of_run (fun _ => rfl) (adds_nullCheck column expected)

lemma runs_raw (sql : String) : (op (.raw sql)).Runs True (fun _ => False) False True :=
  .of_run (fun _ => rfl) (adds_raw sql)

/-- Two tables that agree on no column are not asked for anything. -/
lemma runs_join (left right : String) (columns : List String) (h : columns ≠ []) :
    (op (.join left right columns)).Runs True (fun _ => False) False True :=
  .of_run (fun _ => rfl) (adds_agreement left right h)

end Operation

namespace Criterion

lemma adds_ofList (column : String) (values : List Value) :
    ((ofList values).plan column).contribution.Adds (Value.anyNaN values = true) (values ≠ []) := by
  rcases values with _ | ⟨v, _ | ⟨w, rest⟩⟩
  · exact adds_empty.congr (by simp) (by simp)
  · exact (Operation.adds_compare column .eq v).congr (by simp) (by simp)
  · exact (Operation.adds_member column _).congr Iff.rfl (by simp)

/-- A criterion binds a NaN when one is in its argument. -/
theorem adds_criterion (args : Arguments) (name column : String) :
    ((args.criterion name).plan column).contribution.Adds (args.NaNAt name)
      (args.list name ≠ []) :=
  (adds_ofList column (args.list name)).congr (args.anyNaN_list name) Iff.rfl

lemma adds_range (args : Arguments) (lower upper column : String) :
    ((args.range lower upper).plan column).contribution.Adds
      (args.NaNAt lower ∨ args.NaNAt upper)
      ((args.get? lower).isSome = true ∨ (args.get? upper).isSome = true) := by
  have bounded (comparison : Comparison) (bound : Option Value) :
      (boundPlan column comparison bound).contribution.Adds
        (∃ v, bound = some v ∧ v.hasNaN = true) (bound.isSome = true) :=
    Plan.adds_forSome (·.hasNaN = true) (Operation.adds_compare column comparison) bound
  unfold Arguments.NaNAt Arguments.range
  generalize args.get? lower = low
  generalize args.get? upper = high
  have both := (bounded .ge low).append (bounded .le high)
  cases low with
  | none =>
    cases high with
    | none => exact adds_empty.congr (by simp) (by simp)
    | some v => exact both
  | some v => exact both

end Criterion

/-! ### Assets -/

namespace Filter.Asset

variable (args : Arguments) (c : AssetColumns)

lemma adds_template :
    (template args c).contribution.Adds (args.NaNAt "template_id")
      (args.list "template_id" ≠ []) := by
  unfold template
  split
  next literal =>
    have text : args.get? "template_id" = some (.text "null") := by
      obtain ⟨v, hget, hv⟩ := Option.bind_eq_some_iff.mp literal
      cases v with
      | text s => rw [hget, Option.some.inj hv]
      | _ => cases hv
    have listed : args.list "template_id" = [.text "null"] := by
      rw [Arguments.list, text]
      rfl
    apply (adds_one _ []).congr
    · rw [Arguments.NaNAt, text]
      simp [Value.hasNaN]
    · simp [listed]
  next => exact Criterion.adds_criterion args "template_id" _

lemma adds_templateLists :
    (templateLists args c).contribution.Adds
      (args.NaNAt "template_blacklist" ∨ args.NaNAt "template_whitelist")
      (args.list "template_blacklist" ≠ [] ∨ args.list "template_whitelist" ≠ []) := by
  rw [← args.anyNaN_list, ← args.anyNaN_list]
  exact (Plan.adds_unlessEmpty
      (Operation.adds_nonMember (c.asset ++ ".template_id") · true) _).append
    (Plan.adds_unlessEmpty (Operation.adds_member (c.asset ++ ".template_id")) _)

lemma adds_flag (column : String) (asked : Option Bool) :
    (flag c column asked).contribution.Adds False (asked.isSome = true) :=
  (Plan.adds_forSome (fun _ => False) (fun _ => Operation.adds_raw _) asked).congr (by simp) Iff.rfl

lemma adds_templateFlags :
    (templateFlags args c).contribution.Adds False
      ((args.flag? "is_transferable").isSome = true ∨
        (args.flag? "is_burnable").isSome = true) := by
  have based : (joined args c).contribution.Adds False False := by
    unfold joined
    split
    · exact ⟨by simp [Operation.contribution], by simp [Operation.contribution]⟩
    · exact adds_empty
  exact (based.append ((adds_flag c "transferable" _).append (adds_flag c "burnable" _))).congr
    (by tauto) (by tauto)

lemma adds_burned :
    (burned args c).contribution.Adds False ((args.flag? "burned").isSome = true) :=
  (Plan.adds_forSome (fun _ => False) (Operation.adds_nullCheck _) _).congr (by simp) Iff.rfl

/-- What the dimensions without a nested statement add. -/
theorem adds_dimensions :
    (dimensions args c).contribution.Adds args.AssetNaN
      ((∃ name ∈ Arguments.assetLists, args.list name ≠ []) ∨
        (∃ name ∈ Arguments.assetBounds, (args.get? name).isSome = true) ∨
        ∃ name ∈ Arguments.assetFlags, (args.flag? name).isSome = true) := by
  have named (name : String) := Criterion.adds_criterion args name (c.asset ++ "." ++ name)
  have columns := (named "owner").append <| (adds_template args c).append <|
    (named "schema_name").append <| (named "collection_name").append <|
    (adds_burned args c).append <| (adds_templateLists args c).append <|
    Criterion.adds_range args "min_template_mint" "max_template_mint" (c.asset ++ ".template_mint")
  apply (columns.append (adds_templateFlags args c)).congr
  · simp only [Arguments.AssetNaN, Arguments.assetLists, Arguments.assetBounds,
      List.cons_append, List.nil_append, List.exists_mem_cons_iff, List.not_mem_nil, false_and,
      exists_false]
    tauto
  · simp only [Arguments.assetLists, Arguments.assetBounds, Arguments.assetFlags,
      List.exists_mem_cons_iff, List.not_mem_nil, false_and, exists_false]
    tauto

lemma runs_dimensions : (dimensions args c).Runs True (fun _ => False) args.AssetNaN
    ((∃ name ∈ Arguments.assetLists, args.list name ≠ []) ∨
      (∃ name ∈ Arguments.assetBounds, (args.get? name).isSome = true) ∨
      ∃ name ∈ Arguments.assetFlags, (args.flag? name).isSome = true) :=
  .of_run run_dimensions (adds_dimensions args c)

lemma runs_duplicates :
    (duplicates args c).Runs True
      (fun bound => args.flag? "only_duplicate_templates" = some true ∧ bound) False
      (args.flag? "only_duplicate_templates" = some true) := by
  unfold duplicates
  split
  next asked =>
    have checked := Operation.runs_nullCheck (c.asset ++ ".template_id") false
    have other := (Operation.runs_join "inner_asset" c.asset ["contract", "template_id", "owner"]
      (by simp)).append (Operation.runs_raw ("inner_asset.asset_id < " ++ c.asset ++ ".asset_id"))
    exact (checked.append (other.hasRow _)).congr (by simp) (by simp [asked]) (by simp)
      (by simp [asked])
  next asked => exact Plan.Runs.skip.congr Iff.rfl (by simp [asked]) Iff.rfl (by simp [asked])

lemma runs_authorized :
    (authorized args c).Runs True
      (fun bound => (args.get? "authorized_account").isSome = true ∧ bound)
      (args.NaNAt "authorized_account") ((args.get? "authorized_account").isSome = true) := by
  have joined := Operation.runs_join "auth_collection" c.asset ["contract", "collection_name"]
    (by simp)
  have row (account : Value) :
      (Plan.hasRow ("SELECT FROM " ++ collectionsTable ++ " auth_collection")
        (op (.join "auth_collection" c.asset ["contract", "collection_name"]) ++
          .step (.about account .authorizes))).Runs True id (account.hasNaN = true) True := by
    have authorizes : (Plan.step (.about account .authorizes)).Runs True (fun _ => False)
        (account.hasNaN = true) True :=
      .of_run (fun _ => rfl) ((adds_one _ [account]).congr (by simp) Iff.rfl)
    exact ((joined.append authorizes).hasRow _).congr (by simp) (by simp) (by simp) Iff.rfl
  exact Plan.Runs.forSome row _

/-- The asset filter faults when it nests a statement below a NaN. -/
theorem runs_plan :
    (plan args c).Runs True (fun bound => args.NestsAsset ∧ (bound ∨ args.AssetNaN))
      (args.AssetNaN ∨ args.NaNAt "authorized_account") args.AsksAsset := by
  have nested := (runs_duplicates args c).append (runs_authorized args c)
  apply ((runs_dimensions args c).append nested).congr
  · simp
  · intro bound
    rw [Arguments.NestsAsset]
    tauto
  · tauto
  · rw [Arguments.AsksAsset, Arguments.NestsAsset]
    simp only [or_assoc]

end Filter.Asset

/-! ### Attributes -/

namespace Filter.Attributes

/-- Some terms are asked for in a nested statement. -/
def Terms.Nests (t : Terms) : Prop := t.templateData ≠ [] ∨ t.any ≠ []

/-- There are terms. -/
def Terms.Asks (t : Terms) : Prop := t.immutableData ≠ [] ∨ t.mutableData ≠ [] ∨ t.Nests

variable (c : AssetColumns)

/-- A document has no NaN. -/
lemma adds_contains (terms : List Term) (column : String) :
    (Plan.step (.about (objectOf terms) (.contains column))).contribution.Adds False True :=
  (adds_one _ [objectOf terms]).congr (by simp [objectOf, Value.hasNaN]) Iff.rfl

lemma runs_inColumn (column : String) (terms : List Term) :
    (inColumn column terms).Runs True (fun _ => False) False (terms ≠ []) :=
  (Plan.Runs.unlessEmpty (fun terms => .of_run (fun _ => rfl) (adds_contains terms column))
    terms).congr Iff.rfl (by simp) Iff.rfl Iff.rfl

lemma runs_inTemplate (terms : List Term) :
    (inTemplate c terms).Runs True (fun bound => terms ≠ [] ∧ bound) False (terms ≠ []) := by
  have joined := Operation.runs_join "data_template" c.asset ["contract", "template_id"] (by simp)
  have contained (terms : List Term) :
      (Plan.step (.about (objectOf terms) (.contains "data_template.immutable_data"))).Runs True
        (fun _ => False) False True := .of_run (fun _ => rfl) (adds_contains terms _)
  exact Plan.Runs.unlessEmpty (fun terms => ((joined.append (contained terms)).hasRow _).congr
    (by simp) (by simp) (by simp) Iff.rfl) terms

lemma runs_anywhere (t : Term) : (Plan.step (.anywhere c t)).Runs True id False True where
  outcome d := by
    have bound : (d.bind (objectOf [t])).2.HasNaN ↔ d.HasNaN := by
      simp [Draft.HasNaN, Draft.bind, objectOf, Value.hasNaN]
    have started : (anywhereDraft c d.next (d.bind (objectOf [t])).2).params =
        (d.bind (objectOf [t])).2.params ++ [] := (List.append_nil _).symm
    exact (Draft.faults_absorb started _).congr Iff.rfl bound
  adds := (adds_one _ [objectOf [t]]).congr (by simp [objectOf, Value.hasNaN]) Iff.rfl

theorem runs_requirement (t : Terms) :
    (requirement c t).Runs True (fun bound => t.Nests ∧ bound) False t.Asks := by
  have nested := (runs_inTemplate c t.templateData).append
    (Plan.Runs.forEach (runs_anywhere c) t.any)
  have columns := (runs_inColumn (c.asset ++ ".immutable_data") t.immutableData).append <|
    (runs_inColumn (c.asset ++ ".mutable_data") t.mutableData).append nested
  apply columns.congr
  · simp
  · intro bound
    rw [Terms.Nests]
    tauto
  · tauto
  · rw [Terms.Asks, Terms.Nests]

/-- The attribute filter faults when it nests a statement below a NaN, and only if it reads its
arguments. -/
theorem runs_plan (args : Arguments) :
    (plan c args).Runs (∃ t, allTerms args = .ok t)
      (fun bound => ∃ t, allTerms args = .ok t ∧ t.Nests ∧ bound) False
      (∃ t, allTerms args = .ok t ∧ t.Asks) :=
  Plan.Runs.forRead (runs_requirement c) (allTerms args)

end Filter.Attributes

/-! ### Prices -/

namespace Filter.Price

lemma adds_boundPlan (c : PriceColumns) (comparison : Comparison) (bound : Option Binary64) :
    (boundPlan c comparison bound).contribution.Adds (∃ x, bound = some x ∧ x.isNaN = true)
      (bound.isSome = true) :=
  Plan.adds_forSome (·.isNaN = true)
    (fun x => (adds_one _ [.float x]).congr (by simp [Value.hasNaN]) Iff.rfl) bound

/-- A text has no NaN, so only the bounds of a price bind one. -/
theorem adds_plan (args : Arguments) (c : PriceColumns) :
    (plan args c).contribution.Adds
      (∃ name ∈ ["min_price", "max_price"], ∃ x, args.float? name = some x ∧ x.isNaN = true)
      ((args.text? "symbol").isSome = true ∨
        ∃ name ∈ ["min_price", "max_price"], (args.float? name).isSome = true) := by
  have named : (forSome (fun symbol => op (.compare c.symbol .eq (.text symbol)))
      (args.text? "symbol")).contribution.Adds (∃ symbol, args.text? "symbol" = some symbol ∧ False)
        ((args.text? "symbol").isSome = true) :=
    Plan.adds_forSome (fun _ => False)
      (fun symbol => (Operation.adds_compare c.symbol .eq (.text symbol)).congr
        (by simp [Value.hasNaN]) Iff.rfl) _
  have bounds := (adds_boundPlan c .ge (args.float? "min_price")).append
    (adds_boundPlan c .le (args.float? "max_price"))
  exact (named.append bounds).congr (by simp) (by simp)

end Filter.Price

end BoundQuery
