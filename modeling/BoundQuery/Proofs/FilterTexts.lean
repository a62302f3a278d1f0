import BoundQuery.Proofs.FilterPlans

/-!
# Texts of filters

A plan has the texts of its steps. Those of a filter are among some that its columns fix, whatever
the arguments are. Main statement: `Composer.texts_plan`.
-/
namespace BoundQuery

open BoundQuery.Filter
open Plan (op forSome forEach unlessEmpty)

namespace Plan

variable {p q : Plan} {places : List (Place × String)}

lemma texts_append_subset (hp : p.texts ⊆ places) (hq : q.texts ⊆ places) :
    (p ++ q).texts ⊆ places := List.append_subset.mpr ⟨hp, hq⟩

lemma texts_append_subset_append {s t : List (Place × String)} (hp : p.texts ⊆ s)
    (hq : q.texts ⊆ t) : (p ++ q).texts ⊆ s ++ t :=
  texts_append_subset (List.subset_append_of_subset_left t hp)
    (List.subset_append_of_subset_right s hq)

section

variable {α : Type}

lemma texts_forSome_subset {plan : α → Plan} (h : ∀ a, (plan a).texts ⊆ places)
    (value : Option α) : (forSome plan value).texts ⊆ places := by
  cases value with
  | none => exact List.nil_subset _
  | some a => exact h a

lemma texts_forEach_subset {plan : α → Plan} {items : List α}
    (h : ∀ a ∈ items, (plan a).texts ⊆ places) : (forEach plan items).texts ⊆ places := by
  induction items with
  | nil => exact List.nil_subset _
  | cons a items ih =>
    obtain ⟨first, rest⟩ := List.forall_mem_cons.mp h
    exact texts_append_subset first (ih rest)

lemma texts_unlessEmpty_subset {plan : List α → Plan} (h : ∀ items, (plan items).texts ⊆ places)
    (items : List α) : (unlessEmpty plan items).texts ⊆ places := by
  unfold unlessEmpty
  split
  · exact List.nil_subset _
  · exact h items

end

end Plan

/-! ### Criteria -/

namespace Criterion

/-- The texts of the criteria of a column. -/
def texts (column : String) : List (Place × String) :=
  [(.name, column), (.name, "="), (.name, ">="), (.name, "<=")]

lemma texts_boundPlan {column : String} {comparison : Comparison} {places : List (Place × String)}
    (h : [(.name, column), (.name, comparison.symbol)] ⊆ places) (v : Option Value) :
    (boundPlan column comparison v).texts ⊆ places :=
  Plan.texts_forSome_subset (fun _ => h) v

theorem texts_plan (column : String) (criterion : Criterion) :
    (criterion.plan column).texts ⊆ texts column := by
  cases criterion with
  | absent => exact List.nil_subset _
  | range lower upper =>
    exact Plan.texts_append_subset
      (texts_boundPlan (by simp [texts, Comparison.symbol]) lower)
      (texts_boundPlan (by simp [texts, Comparison.symbol]) upper)
  | _ => simp [plan, Operation.texts, texts, Comparison.symbol]

end Criterion

namespace Filter

variable (args : Arguments)

/-! ### Assets -/

/-- The columns of the assets that are asked for. -/
def AssetColumns.own : List String :=
  [".owner", ".template_id", ".schema_name", ".collection_name", ".template_mint"]

/-- The texts that ask for columns of the assets themselves. -/
def AssetColumns.ownTexts (c : AssetColumns) : List (Place × String) :=
  own.flatMap fun column => Criterion.texts (c.asset ++ column)

/-- The texts that ask for a flag of the templates. -/
def AssetColumns.flagTexts (c : AssetColumns) (column : String) : List (Place × String) :=
  [" IS DISTINCT FROM FALSE", " = FALSE"].map fun test =>
    (.enclosed, c.template ++ "." ++ column ++ test)

/-- The texts that ask for another asset, or for a collection that authorizes an account. -/
def AssetColumns.nestedTexts (c : AssetColumns) : List (Place × String) :=
  [(.name, c.asset ++ ".template_id"), (.name, c.asset), (.name, "contract"),
    (.table, "SELECT FROM " ++ assetsTable ++ " inner_asset"), (.name, "inner_asset"),
    (.name, "template_id"), (.name, "owner"),
    (.enclosed, "inner_asset.asset_id < " ++ c.asset ++ ".asset_id"),
    (.table, "SELECT FROM " ++ collectionsTable ++ " auth_collection"), (.name, "auth_collection"),
    (.name, "collection_name")]

/-- The texts that join the templates and ask for their flags. -/
def AssetColumns.templateTexts (c : AssetColumns) : List (Place × String) :=
  (.base, Asset.templateJoin c) :: ["transferable", "burnable"].flatMap c.flagTexts

/-- The texts of an asset filter. -/
def AssetColumns.texts (c : AssetColumns) : List (Place × String) :=
  (c.ownTexts ++ c.templateTexts) ++ c.nestedTexts

namespace Asset

variable {args} {c : AssetColumns}

lemma texts_own {column : String} (h : column ∈ AssetColumns.own) {operation : Operation}
    (ht : operation.texts = [(.name, c.asset ++ column)]) : (op operation).texts ⊆ c.ownTexts := by
  rw [Plan.texts_op, ht]
  have own : (.name, c.asset ++ column) ∈ c.ownTexts :=
    List.mem_flatMap.mpr ⟨column, h, List.mem_cons_self⟩
  exact List.cons_subset.mpr ⟨own, List.nil_subset _⟩

lemma texts_criterion {column : String} (h : column ∈ AssetColumns.own) (criterion : Criterion) :
    (criterion.plan (c.asset ++ column)).texts ⊆ c.ownTexts := fun _ ht =>
  List.mem_flatMap.mpr ⟨column, h, criterion.texts_plan _ ht⟩

lemma texts_named {name : String} (h : "." ++ name ∈ AssetColumns.own) :
    (named args c name).texts ⊆ c.ownTexts := by
  rw [named, String.append_assoc]
  exact texts_criterion h _

lemma texts_template : (template args c).texts ⊆ c.ownTexts := by
  unfold template
  split
  · exact texts_own (by decide) rfl
  · exact texts_named (by decide)

lemma texts_templateLists : (templateLists args c).texts ⊆ c.ownTexts :=
  Plan.texts_append_subset
    (Plan.texts_unlessEmpty_subset (fun _ => texts_own (by decide) rfl) _)
    (Plan.texts_unlessEmpty_subset (fun _ => texts_own (by decide) rfl) _)

lemma texts_columns : (columns args c).texts ⊆ c.ownTexts := by
  have burned : (burned args c).texts ⊆ c.ownTexts :=
    Plan.texts_forSome_subset (fun _ => texts_own (by decide) rfl) _
  exact Plan.texts_append_subset (texts_named (by decide)) <|
    Plan.texts_append_subset texts_template <|
    Plan.texts_append_subset (texts_named (by decide)) <|
    Plan.texts_append_subset (texts_named (by decide)) <|
    Plan.texts_append_subset burned <|
    Plan.texts_append_subset texts_templateLists (texts_criterion (by decide) _)

lemma texts_flag (column : String) (asked : Option Bool) :
    (flag c column asked).texts ⊆ c.flagTexts column := by
  rcases asked with _ | _ | _ <;> simp [flag, forSome, Operation.texts, AssetColumns.flagTexts,
    Plan.texts]

lemma texts_templateFlags : (templateFlags args c).texts ⊆ c.templateTexts := by
  have joined : (joined args c).texts ⊆ c.templateTexts := by
    unfold joined
    split
    · simp [Operation.texts, AssetColumns.templateTexts]
    · exact List.nil_subset _
  have flags {column : String} (h : column ∈ ["transferable", "burnable"]) :
      c.flagTexts column ⊆ c.templateTexts := fun _ ht =>
    .tail _ (List.mem_flatMap.mpr ⟨column, h, ht⟩)
  exact Plan.texts_append_subset joined <|
    Plan.texts_append_subset (List.Subset.trans (texts_flag _ _) (flags (by decide)))
      (List.Subset.trans (texts_flag _ _) (flags (by decide)))

lemma texts_duplicates : (duplicates args c).texts ⊆ c.nestedTexts := by
  unfold duplicates
  split
  · simp [Plan.texts, Operation.texts, AssetColumns.nestedTexts]
  · exact List.nil_subset _

lemma texts_authorized : (authorized args c).texts ⊆ c.nestedTexts :=
  Plan.texts_forSome_subset (fun _ => by
    simp [Plan.texts, Plan.Step.texts, Operation.texts, Ask.texts, AssetColumns.nestedTexts]) _

theorem texts_plan : (plan args c).texts ⊆ c.texts :=
  Plan.texts_append_subset_append
    (Plan.texts_append_subset_append texts_columns texts_templateFlags)
    (Plan.texts_append_subset texts_duplicates texts_authorized)

end Asset

/-! ### Attributes -/

/-- The texts of an attribute filter. -/
def AssetColumns.attributeTexts (c : AssetColumns) : List (Place × String) :=
  [(.name, c.asset ++ ".mutable_data"), (.name, c.asset ++ ".immutable_data")]
    ++ (c.rowTexts "data_template" ++ c.rowTexts "any_template")

namespace Attributes

variable {args} {c : AssetColumns}

lemma texts_requirement (t : Terms) : (requirement c t).texts ⊆ c.attributeTexts := by
  obtain ⟨columns, rows⟩ := List.append_subset.mp (List.Subset.refl c.attributeTexts)
  obtain ⟨ofAsset, anywhere⟩ := List.append_subset.mp rows
  have inColumn (column : String) (h : (.name, column) ∈ c.attributeTexts) (terms : List Term) :
      (inColumn column terms).texts ⊆ c.attributeTexts :=
    Plan.texts_unlessEmpty_subset (fun _ => List.cons_subset.mpr ⟨h, List.nil_subset _⟩) _
  have inTemplate : (inTemplate c t.templateData).texts ⊆ c.attributeTexts :=
    Plan.texts_unlessEmpty_subset (fun _ => ofAsset) _
  have each : (forEach (fun term => .step (.anywhere c term)) t.any).texts ⊆ c.attributeTexts :=
    Plan.texts_forEach_subset fun _ _ => List.append_subset.mpr ⟨columns, anywhere⟩
  exact Plan.texts_append_subset (inColumn _ (.tail _ (.head _)) _) <|
    Plan.texts_append_subset (inColumn _ (.head _) _) <|
    Plan.texts_append_subset inTemplate each

theorem texts_plan : (plan c args).texts ⊆ c.attributeTexts := by
  unfold plan
  cases allTerms args with
  | error _ => exact List.nil_subset _
  | ok t => exact texts_requirement t

end Attributes

/-! ### Allow and deny lists -/

/-- The texts of a list filter. -/
def ListColumns.texts (c : ListColumns) : List (Place × String) :=
  (c.collection.toList ++ c.accounts).map (.name, ·)

namespace Lists

lemma texts_onCollection (column : String) : (onCollection args column).texts ⊆ [(.name, column)] :=
  Plan.texts_append_subset
    (Plan.texts_unlessEmpty_subset (fun _ => List.Subset.refl _) _)
    (Plan.texts_unlessEmpty_subset (fun _ => List.Subset.refl _) _)

lemma texts_onAccounts (columns : List String) :
    (onAccounts args columns).texts ⊆ columns.map (.name, ·) := by
  have deny (values : List Value) :
      (forEach (fun column => op (.nonMember column (.list values) true)) columns).texts ⊆
        columns.map (.name, ·) :=
    Plan.texts_forEach_subset fun column hm => by
      simpa [Operation.texts] using hm
  exact Plan.texts_append_subset (Plan.texts_unlessEmpty_subset deny _)
    (Plan.texts_unlessEmpty_subset (fun _ => List.Subset.refl _) _)

theorem texts_plan (c : ListColumns) : (plan args c).texts ⊆ c.texts := by
  have accounts : (onAccounts args c.accounts).texts ⊆ c.texts := by
    refine List.Subset.trans (texts_onAccounts args c.accounts) ?_
    simp [ListColumns.texts]
  refine Plan.texts_append_subset ?_ accounts
  cases hc : c.collection with
  | none => exact List.nil_subset _
  | some column =>
    refine List.Subset.trans (texts_onCollection args column) ?_
    simp [ListColumns.texts, hc]

end Lists

/-! ### Windows, prices and drop states -/

/-- The texts of a window filter. -/
def WindowColumns.texts (c : WindowColumns) : List (Place × String) :=
  (c.primary :: (c.date.toList ++ ["=", ">=", "<=", "<", ">"])).map (.name, ·)

theorem Window.texts_plan (c : WindowColumns) : (plan args c).texts ⊆ c.texts := by
  have primary : Criterion.texts c.primary ⊆ c.texts := by
    simp [Criterion.texts, WindowColumns.texts]
  have timed : (forSome (onTime args) c.date).texts ⊆ c.texts := by
    cases hc : c.date with
    | none => exact List.nil_subset _
    | some column =>
      exact Plan.texts_append_subset
        (Criterion.texts_boundPlan (by simp [WindowColumns.texts, hc, Comparison.symbol]) _)
        (Criterion.texts_boundPlan (by simp [WindowColumns.texts, hc, Comparison.symbol]) _)
  exact Plan.texts_append_subset (List.Subset.trans (Criterion.texts_plan _ _) primary) <|
    Plan.texts_append_subset
      (Criterion.texts_boundPlan (by simp [WindowColumns.texts, Comparison.symbol]) _) <|
    Plan.texts_append_subset
      (Criterion.texts_boundPlan (by simp [WindowColumns.texts, Comparison.symbol]) _) timed

/-- The texts of a price filter. -/
def PriceColumns.texts (c : PriceColumns) : List (Place × String) :=
  [c.symbol, c.price, c.precision, "=", ">=", "<="].map (.name, ·)

theorem Price.texts_plan (c : PriceColumns) : (plan args c).texts ⊆ c.texts := by
  have bound (comparison : Comparison) (h : comparison.symbol ∈ [">=", "<="])
      (x : Option Binary64) : (boundPlan c comparison x).texts ⊆ c.texts := by
    have symbol : (.name, comparison.symbol) ∈ c.texts :=
      List.mem_map_of_mem (List.mem_append_right [c.symbol, c.price, c.precision, "="] h)
    refine Plan.texts_forSome_subset (fun _ => ?_) x
    simp only [Plan.texts, Plan.Step.texts, Ask.texts, List.cons_subset, symbol,
      List.nil_subset, and_true]
    simp [PriceColumns.texts]
  refine Plan.texts_append_subset (Plan.texts_forSome_subset (fun _ => ?_) _)
    (Plan.texts_append_subset (bound .ge (by decide) _) (bound .le (by decide) _))
  simp [Operation.texts, PriceColumns.texts, Comparison.symbol]

/-- The texts of a drop filter. -/
def DropColumns.texts (c : DropColumns) : List (Place × String) :=
  [c.startTime, c.endTime, c.maxClaimable, c.currentClaimed].map (.state, ·)

theorem DropState.texts_plan (c : DropColumns) (now : Int64) :
    (plan args c now).texts ⊆ c.texts := by
  unfold plan
  rcases requested args with _ | _ | _
  · exact List.nil_subset _
  · exact List.nil_subset _
  · exact List.Subset.refl _

/-! ### Order and pages -/

/-- The texts of an order and a page. -/
def Listing.texts (listing : Listing) : List (Place × String) :=
  (["ORDER BY ", "LIMIT ", " OFFSET "] ++ (listing.columns.map Prod.snd ++
    listing.tiebreak.toList)).map (.closing, ·)

namespace Listing

variable {listing : Listing}

/-- The rows are ordered by the column asked for, and at most by the tiebreak after it. -/
lemma column_of_mem_orderKeys {column : String} {order : SortOrder} {key : OrderKey}
    (h : key ∈ listing.orderKeys column order) :
    key.column = column ∨ key.column ∈ listing.tiebreak := by
  rcases List.mem_cons.mp h with rfl | h
  · exact .inl rfl
  · cases ht : listing.tiebreak with
    | none =>
      rw [ht] at h
      cases h
    | some tiebreak =>
      rw [ht] at h
      simp only at h
      split at h
      · cases h
      · rw [List.mem_singleton.mp h]
        exact .inr rfl

lemma mem_columns_of_columnFor {key column : String} (h : listing.columnFor key = .ok column) :
    column ∈ listing.columns.map Prod.snd := by
  unfold columnFor at h
  split at h
  next entry hfound =>
    cases h
    exact List.mem_map_of_mem (List.mem_of_find?_eq_some hfound)
  next => cases h

theorem texts_plan : (plan args listing).texts ⊆ listing.texts := by
  unfold plan
  cases hr : listing.requested args with
  | error _ => exact List.nil_subset _
  | ok requested =>
    obtain ⟨column, order⟩ := requested
    obtain ⟨column', hcolumn, hr⟩ := Outcome.bind_eq_ok.mp hr
    obtain ⟨order', -, hpure⟩ := Outcome.bind_eq_ok.mp hr
    cases hpure
    have offered := mem_columns_of_columnFor hcolumn
    have keys : ∀ key ∈ listing.orderKeys column order,
        key.column ∈ listing.columns.map Prod.snd ++ listing.tiebreak.toList := by
      intro key hk
      rcases column_of_mem_orderKeys hk with heq | hm
      · exact List.mem_append_left _ (heq ▸ offered)
      · exact List.mem_append_right _ (Option.mem_toList.mpr hm)
    refine List.cons_subset.mpr ⟨by simp [texts], ?_⟩
    intro t ht
    obtain ⟨key, hk, rfl⟩ := List.mem_map.mp ht
    exact List.mem_map_of_mem (List.mem_append_right _ (keys key hk))

lemma texts_pagePlan : (pagePlan args listing).texts ⊆ listing.texts := by
  simp [pagePlan, Operation.texts, texts]

end Listing

end Filter

/-! ### Composers -/

namespace Composer

/-- The texts of a composer. -/
def texts : Composer → List (Place × String)
  | .asset c => c.texts
  | .attributes c => c.attributeTexts
  | .lists c => c.texts
  | .window c => c.texts
  | .price c => c.texts
  | .drop c _ => c.texts
  | .sort listing => listing.texts
  | .page listing => listing.texts

/-- The texts of a composer's plan are fixed by its columns. -/
theorem texts_plan (args : Arguments) (composer : Composer) :
    (composer.plan args).texts ⊆ composer.texts := by
  cases composer with
  | asset c => exact Asset.texts_plan
  | attributes c => exact Attributes.texts_plan
  | lists c => exact Lists.texts_plan args c
  | window c => exact Window.texts_plan args c
  | price c => exact Price.texts_plan args c
  | drop c now => exact DropState.texts_plan args c now
  | sort listing => exact Listing.texts_plan args
  | page listing => exact Listing.texts_pagePlan args

end Composer

end BoundQuery
