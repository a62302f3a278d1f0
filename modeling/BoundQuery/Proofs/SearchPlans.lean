import BoundQuery.Search
import BoundQuery.Proofs.AsciiTexts
import BoundQuery.Proofs.FilterTexts

/-!
# Plans of searches

A search makes a draft of a base by one plan, which puts together the plans of its filters, and then
orders it and cuts a page out of it. Main statements: `Search.Kind.run_plan` and
`Search.Kind.texts_plan`.
-/
namespace BoundQuery.Search

open BoundQuery.Draft BoundQuery.Filter
open Plan (op)

/-- The searches; drops are searched for at an instant. -/
inductive Kind where
  | assets
  | collections
  | drops (now : Int64)
  | sales
  deriving DecidableEq

namespace Kind

def listing : Kind → Listing
  | .assets => assetListing
  | .collections => collectionListing
  | .drops _ => dropListing
  | .sales => saleListing

/-- The draft that a search counts, orders and cuts a page out of. -/
def draft (args : Arguments) (contract : String) : Kind → Except Failure Draft
  | .assets => assetDraft args contract
  | .collections => collectionDraft args contract
  | .drops now => dropDraft args contract now
  | .sales => saleDraft args contract

def run (args : Arguments) (contract : String) : Kind → Except Failure Search
  | .assets => Search.assets args contract
  | .collections => Search.collections args contract
  | .drops now => Search.drops args contract now
  | .sales => Search.sales args contract

theorem run_eq (kind : Kind) (args : Arguments) (contract : String) :
    kind.run args contract = kind.draft args contract >>= finish args kind.listing := by
  cases kind <;> rfl

theorem run_eq_ok {kind : Kind} {args : Arguments} {contract : String} {s : Search} :
    kind.run args contract = .ok s ↔
      ∃ d, kind.draft args contract = .ok d ∧ finish args kind.listing d = .ok s := by
  rw [run_eq, Outcome.bind_eq_ok]

end Kind

/-! ### Bases -/

def assetBase : String := "SELECT asset.asset_id FROM " ++ assetsTable ++ " asset"

def collectionBase : String :=
  "SELECT asset.collection_name, COUNT(*) AS assets FROM " ++ assetsTable ++ " asset"

def dropBase : String := "SELECT ndrop.drop_id FROM " ++ dropsTable ++ " ndrop"

/-- The base of the draft of a search. -/
def Kind.base : Kind → String
  | .assets => assetBase
  | .collections => collectionBase
  | .drops _ => dropBase
  | .sales => saleBase

/-! ### Drafts -/

section

variable (args : Arguments) (contract : String)

/-- What is asked of an asset on offer. -/
def described : Plan := Asset.plan args {} ++ Attributes.plan {} args

/-- That an asset on offer belongs to the sale. -/
def correlation : Plan :=
  op (.join "offer_asset" "listing" ["offer_id"]) ++
    op (.raw "offer_asset.contract = listing.assets_contract")

/-- That an asset on offer meets what is asked of it, if anything is. -/
def offered : Plan := .rowIfAsked offerBase correlation (described args)

/-- What drops are asked for before their states. -/
def dropHead : Plan :=
  op (.compare "ndrop.drops_contract" .eq (.text contract)) ++
    ((args.criterion "collection_name").plan "ndrop.collection_name" ++
      op (.compare "ndrop.is_hidden" .eq (.bool ((args.flag? "hidden").getD false))))

/-- What drops are asked for after their states. -/
def dropTail : Plan :=
  Lists.plan args ⟨some "ndrop.collection_name", []⟩ ++
    Window.plan args ⟨"ndrop.drop_id", some "ndrop.created_at_time"⟩

/-- What sales are asked for themselves: their state, parties and price. -/
def saleHead : Plan :=
  op (.compare "listing.market_contract" .eq (.text contract)) ++
    ((args.criterion "state").plan "listing.state" ++
      ((args.criterion "seller").plan "listing.seller" ++
        ((args.criterion "buyer").plan "listing.buyer" ++ Price.plan args {})))

/-- What sales are asked for after their assets on offer. -/
def saleTail : Plan :=
  Lists.plan args ⟨some "listing.collection_name", ["listing.seller", "listing.buyer"]⟩ ++
    Window.plan args ⟨"listing.sale_id", some "listing.created_at_time"⟩

/-- The plan that makes the draft of a search. -/
def Kind.plan : Kind → Plan
  | .assets =>
    op (.compare "asset.contract" .eq (.text contract)) ++ (Asset.plan args {} ++
      (Attributes.plan {} args ++
        (Lists.plan args ⟨some "asset.collection_name", ["asset.owner"]⟩ ++
          Window.plan args ⟨"asset.asset_id", some "asset.minted_at_time"⟩)))
  | .collections =>
    op (.compare "asset.contract" .eq (.text contract)) ++ (Asset.plan args {} ++
      (Lists.plan args ⟨some "asset.collection_name", []⟩ ++
        op (.groups ["asset.collection_name"])))
  | .drops now => dropHead args contract ++ (DropState.plan args {} now ++ dropTail args)
  | .sales => saleHead args contract ++ (offered args ++ saleTail args)

variable {args contract}

lemma run_described (d : Draft) :
    (described args).run d = orFault (asset args {} d) >>= attributes args {} := by
  rw [described, Plan.run_append, Asset.run_plan, funext (Attributes.run_plan args)]

lemma run_offered (d : Draft) : (offered args).run d = requireOffered args d := by
  have correlated : correlation.run (d.nested offerBase) = .ok (offerDraft d) := rfl
  have asked : (offered args).run d = ((described args).run (offerDraft d) >>= fun sub =>
      if (offerDraft d).conditions.length < sub.conditions.length then orFault (d.fold sub)
      else .ok d) := by
    rw [offered, Plan.run, correlated]
    rfl
  rw [asked, run_described, requireOffered, bind_assoc]
  rfl

/-- The lists and the window end the draft of a search. -/
lemma run_listed (c : ListColumns) (w : WindowColumns) (d : Draft) :
    (Lists.plan args c ++ Window.plan args w).run d = .ok (window args w (lists args c d)) :=
  Plan.run_append_eq_ok (Lists.run_plan c) (Window.run_plan w) d

/-- The draft of drops before their states are asked for. -/
def dropStart (args : Arguments) (contract : String) : Draft :=
  ((args.criterion "collection_name").apply
    ((ofBase dropBase).addEquality "ndrop.drops_contract" (.text contract))
    "ndrop.collection_name").addEquality "ndrop.is_hidden"
      (.bool ((args.flag? "hidden").getD false))

lemma run_dropHead : (dropHead args contract).run (ofBase dropBase) =
    .ok (dropStart args contract) :=
  (Plan.run_append_of_ok (Plan.run_op _ _)).trans (Plan.run_append_of_ok (Criterion.run_plan _ _ _))

/-- The draft of sales before the assets on offer are asked for. -/
def saleStart (args : Arguments) (market : String) : Draft :=
  price args {} ((args.criterion "buyer").apply ((args.criterion "seller").apply
    ((args.criterion "state").apply ((ofBase saleBase).addEquality "listing.market_contract"
      (.text market)) "listing.state") "listing.seller") "listing.buyer")

lemma run_saleHead : (saleHead args contract).run (ofBase saleBase) =
    .ok (saleStart args contract) :=
  (Plan.run_append_of_ok (Plan.run_op _ _)).trans <|
    Plan.run_append_eq_ok (Criterion.run_plan "listing.state" _) (Plan.run_append_eq_ok
      (Criterion.run_plan "listing.seller" _) (Plan.run_append_eq_ok
        (Criterion.run_plan "listing.buyer" _) (Price.run_plan {}))) _

/-- To make the draft of a search is to run its plan. -/
theorem Kind.run_plan (kind : Kind) (args : Arguments) (contract : String) :
    (kind.plan args contract).run (ofBase kind.base) = kind.draft args contract := by
  cases kind with
  | assets =>
    exact (Plan.run_append_of_ok (Plan.run_op _ _)).trans <|
      Plan.run_append_eq (Asset.run_plan _) fun d =>
      Plan.run_append_eq (Attributes.run_plan args d) (run_listed _ _)
  | collections =>
    exact (Plan.run_append_of_ok (Plan.run_op _ _)).trans <|
      Plan.run_append_eq (Asset.run_plan _) fun d =>
      Plan.run_append_of_ok (Lists.run_plan _ d)
  | drops now =>
    exact (Plan.run_append_of_ok run_dropHead).trans <|
      Plan.run_append_eq (DropState.run_plan _ _ _) (run_listed _ _)
  | sales =>
    exact (Plan.run_append_of_ok run_saleHead).trans <|
      Plan.run_append_eq (run_offered _) (run_listed _ _)

/-- The plan that orders the rows of a search and cuts a page out of them. -/
def finishPlan (args : Arguments) (listing : Listing) : Plan :=
  Listing.plan args listing ++ Listing.pagePlan args listing

/-- To finish a search is to run the plan of its order and page; the count is of the draft
before. -/
theorem finish_eq (args : Arguments) (listing : Listing) (d : Draft) :
    finish args listing d = (finishPlan args listing).run d >>= fun paged =>
      .ok ⟨paged.statement, d.statement.toCount⟩ := by
  rw [finishPlan, Plan.run_append, Listing.run_plan, bind_assoc]
  rfl

end

/-! ### Texts -/

def assetTailTexts : List (Place × String) :=
  ListColumns.texts ⟨some "asset.collection_name", ["asset.owner"]⟩ ++
    WindowColumns.texts ⟨"asset.asset_id", some "asset.minted_at_time"⟩

def dropHeadTexts : List (Place × String) :=
  Criterion.texts "ndrop.drops_contract" ++ (Criterion.texts "ndrop.collection_name" ++
    Criterion.texts "ndrop.is_hidden")

def dropTailTexts : List (Place × String) :=
  ListColumns.texts ⟨some "ndrop.collection_name", []⟩ ++
    WindowColumns.texts ⟨"ndrop.drop_id", some "ndrop.created_at_time"⟩

def saleHeadTexts : List (Place × String) :=
  Criterion.texts "listing.market_contract" ++ (Criterion.texts "listing.state" ++
    (Criterion.texts "listing.seller" ++ (Criterion.texts "listing.buyer" ++
      PriceColumns.texts {})))

def saleTailTexts : List (Place × String) :=
  ListColumns.texts ⟨some "listing.collection_name", ["listing.seller", "listing.buyer"]⟩ ++
    WindowColumns.texts ⟨"listing.sale_id", some "listing.created_at_time"⟩

/-- The texts of the parts that searches are put together from. -/
def partTexts : List (List (Place × String)) :=
  [Criterion.texts "asset.contract", AssetColumns.texts {}, AssetColumns.attributeTexts {},
    assetTailTexts, [(.group, "asset.collection_name")], dropHeadTexts, dropTailTexts,
    saleHeadTexts, [(.table, offerBase)], correlation.texts, saleTailTexts]

/-- The texts of the searches before their order and their page; those that ask for states of drops
are not among them. -/
def texts : List (Place × String) := partTexts.flatten

variable {args : Arguments} {contract : String}

lemma subset_texts {places : List (Place × String)} (h : places ∈ partTexts) : places ⊆ texts :=
  fun _ ht => List.mem_flatten.mpr ⟨places, h, ht⟩

lemma texts_equality (column : String) (v : Value) :
    (op (.compare column .eq v)).texts ⊆ Criterion.texts column :=
  Criterion.texts_plan column (.one v)

lemma texts_listed (c : ListColumns) (w : WindowColumns) :
    (Lists.plan args c ++ Window.plan args w).texts ⊆ c.texts ++ w.texts :=
  Plan.texts_append_subset_append (Lists.texts_plan args c) (Window.texts_plan args w)

lemma texts_dropHead : (dropHead args contract).texts ⊆ dropHeadTexts :=
  Plan.texts_append_subset_append (texts_equality _ _) <|
    Plan.texts_append_subset_append (Criterion.texts_plan _ _) (texts_equality _ _)

lemma texts_dropTail : (dropTail args).texts ⊆ dropTailTexts := texts_listed _ _

lemma texts_saleHead : (saleHead args contract).texts ⊆ saleHeadTexts :=
  Plan.texts_append_subset_append (texts_equality _ _) <|
    Plan.texts_append_subset_append (Criterion.texts_plan _ _) <|
    Plan.texts_append_subset_append (Criterion.texts_plan _ _) <|
    Plan.texts_append_subset_append (Criterion.texts_plan _ _) (Price.texts_plan args {})

lemma texts_saleTail : (saleTail args).texts ⊆ saleTailTexts := texts_listed _ _

lemma texts_finishPlan (listing : Listing) : (finishPlan args listing).texts ⊆ listing.texts :=
  Plan.texts_append_subset (Listing.texts_plan args) (Listing.texts_pagePlan args)

lemma texts_asset : (Asset.plan args {}).texts ⊆ texts :=
  List.Subset.trans Asset.texts_plan (subset_texts (by simp [partTexts]))

lemma texts_attributes : (Attributes.plan {} args).texts ⊆ texts :=
  List.Subset.trans Attributes.texts_plan (subset_texts (by simp [partTexts]))

lemma texts_contract : (op (.compare "asset.contract" .eq (.text contract))).texts ⊆ texts :=
  List.Subset.trans (texts_equality _ _) (subset_texts (by simp [partTexts]))

lemma texts_offered : (offered args).texts ⊆ texts := by
  have base : [(.table, offerBase)] ⊆ texts := subset_texts (by simp [partTexts])
  have correlated : correlation.texts ⊆ texts := subset_texts (by simp [partTexts])
  exact List.cons_subset.mpr ⟨base (.head _),
    Plan.texts_append_subset correlated (Plan.texts_append_subset texts_asset texts_attributes)⟩

/-- No text of a search stands in a closing clause. -/
lemma unfinished_texts : ∀ t ∈ texts ++ DropColumns.texts {}, t.1 ≠ .closing := by decide +kernel

/-- All texts of searches are written in ASCII characters. -/
lemma ascii_texts : ∀ t ∈ texts ++ DropColumns.texts {}, isAscii t.2 = true := by decide +kernel

/-- No text of a search has a dollar sign or a quote. -/
lemma bare_texts : ∀ t ∈ texts ++ DropColumns.texts {}, ∀ c ∈ t.2.toList, c ≠ '$' ∧ c ≠ '\'' := by
  have bare : (texts ++ DropColumns.texts {}).all (fun t =>
      (asciiChars t.2).all fun c => c != '$' && c != '\'') = true := by decide +kernel
  intro t ht c hc
  rw [toList_eq_asciiChars (ascii_texts t ht)] at hc
  have each := List.all_eq_true.mp (List.all_eq_true.mp bare t ht) c hc
  rwa [Bool.and_eq_true, bne_iff_ne, bne_iff_ne] at each

namespace Kind

/-- The texts of a search are fixed, whatever the arguments are. -/
theorem texts_plan_of_ne {kind : Kind} (hk : ∀ now, kind ≠ .drops now) :
    (kind.plan args contract).texts ⊆ texts := by
  have tail : assetTailTexts ⊆ texts := subset_texts (by simp [partTexts])
  cases kind with
  | assets =>
    exact Plan.texts_append_subset texts_contract <|
      Plan.texts_append_subset texts_asset <|
      Plan.texts_append_subset texts_attributes (List.Subset.trans (texts_listed _ _) tail)
  | collections =>
    have collection : ListColumns.texts ⟨some "asset.collection_name", []⟩ ⊆ assetTailTexts := by
      simp [ListColumns.texts, assetTailTexts]
    have listed := List.Subset.trans (Lists.texts_plan args _) (List.Subset.trans collection tail)
    have grouped : [(.group, "asset.collection_name")] ⊆ texts :=
      subset_texts (by simp [partTexts])
    exact Plan.texts_append_subset texts_contract <|
      Plan.texts_append_subset texts_asset (Plan.texts_append_subset listed grouped)
  | drops now => exact absurd rfl (hk now)
  | sales =>
    exact Plan.texts_append_subset
      (List.Subset.trans texts_saleHead (subset_texts (by simp [partTexts]))) <|
      Plan.texts_append_subset texts_offered
        (List.Subset.trans texts_saleTail (subset_texts (by simp [partTexts])))

/-- Drops are searched for by their states as well. -/
theorem texts_plan (kind : Kind) :
    (kind.plan args contract).texts ⊆ texts ++ DropColumns.texts {} := by
  cases kind with
  | drops now =>
    have head : dropHeadTexts ⊆ texts := subset_texts (by simp [partTexts])
    have tail : dropTailTexts ⊆ texts := subset_texts (by simp [partTexts])
    have shared {p : Plan} {places : List (Place × String)} (hp : p.texts ⊆ places)
        (h : places ⊆ texts) : p.texts ⊆ texts ++ DropColumns.texts {} :=
      List.subset_append_of_subset_left _ (List.Subset.trans hp h)
    exact Plan.texts_append_subset (shared texts_dropHead head) <|
      Plan.texts_append_subset
        (List.subset_append_of_subset_right _ (DropState.texts_plan args {} now))
        (shared texts_dropTail tail)
  | _ => exact List.subset_append_of_subset_left _ (texts_plan_of_ne nofun)

end Kind

end BoundQuery.Search
