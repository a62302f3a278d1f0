import BoundQuery.Proofs.FilterFolding
import BoundQuery.Proofs.SearchPlans

/-!
# Faults of searches

When the page asked for is in range, folding a nested statement is the only rule of use a search
can break, and it breaks it exactly when a NaN was bound before the nested statement was
started. What the nested statement binds itself is of no account.
Main statement: `Search.fault_iff`.
-/
namespace BoundQuery

open BoundQuery.Draft BoundQuery.Filter BoundQuery.Filter.Attributes Contribution

/-- The rows before the page asked for are counted by a machine integer. -/
def Arguments.PageFits (args : Arguments) (defaultLimit : Int64) : Prop :=
  let before := ((args.int? "page").getD 1).toInt - 1
  let rows := before * ((args.int? "limit").getD defaultLimit).toInt
  (-2 ^ 63 ≤ before ∧ before < 2 ^ 63) ∧ -2 ^ 63 ≤ rows ∧ rows < 2 ^ 63

namespace Search

variable {args : Arguments}

/-- Ordering the rows may err, and cutting a page out of them succeeds. -/
theorem finish_ne_fault {listing : Listing} (hp : args.PageFits listing.defaultLimit) (d : Draft)
    (f : Fault) : finish args listing d ≠ .error (.fault f) := by
  intro h
  rcases Outcome.bind_eq_error.mp h with h | ⟨sorted, -, h⟩
  · exact Outcome.orError_ne_fault h
  · rcases Outcome.bind_eq_error.mp h with h | ⟨paged, -, h⟩
    · obtain ⟨rows, hrows⟩ := exists_offset hp.1 hp.2
      have failed := Outcome.map_eq_error.mp (Outcome.orFault_eq_fault.mp h)
      rw [hrows] at failed
      cases failed
    · exact Outcome.pure_ne_error h

lemma finish_fault_iff (listing : Listing) (hp : args.PageFits listing.defaultLimit)
    {draft : Except Failure Draft} {f : Fault} :
    (draft >>= finish args listing) = .error (.fault f) ↔ draft = .error (.fault f) := by
  rw [Outcome.bind_eq_error]
  constructor
  · rintro (h | ⟨d, -, h⟩)
    · exact h
    · exact absurd h (finish_ne_fault hp d f)
  · exact .inl

/-- A nested statement is folded below a NaN while assets and their attributes are asked for;
`bound` says whether a NaN is bound before. -/
def FoldsNaN (args : Arguments) (bound : Prop) : Prop :=
  args.NestsAsset ∧ (bound ∨ args.AssetNaN) ∨
    ∃ t, allTerms args = .ok t ∧ t.Nests ∧
      (bound ∨ args.AssetNaN ∨ args.NaNAt "authorized_account")

/-- Asking for assets and their attributes. -/
lemma runs_described (args : Arguments) :
    (described args).Runs (∃ t, allTerms args = .ok t) (FoldsNaN args)
      (args.AssetNaN ∨ args.NaNAt "authorized_account")
      (args.AsksAsset ∨ ∃ t, allTerms args = .ok t ∧ t.Asks) :=
  ((Asset.runs_plan args {}).append (Attributes.runs_plan {} args)).congr (and_iff_right trivial)
    (fun bound => by simp only [FoldsNaN, true_and]) (or_iff_left id) Iff.rfl

/-- Reading the attributes may err, and only after the assets were asked for. -/
theorem described_fault_iff (d : Draft) (f : Fault) :
    (orFault (asset args {} d) >>= attributes args {}) = .error (.fault f) ↔
      f = .unseededSubquery ∧ FoldsNaN args d.HasNaN := by
  rw [← run_described]
  exact ((runs_described args).outcome d).fault_iff f

/-- An outcome that is only passed on. -/
lemma bind_pure_fault_iff {α β : Type} {x : Except Failure α} {g : α → β} {e : Failure} :
    (x >>= fun a => pure (g a)) = .error e ↔ x = .error e := by
  rw [Outcome.bind_eq_error]
  simp

lemma hasNaN_start (base column text : String) :
    ¬ ((ofBase base).addEquality column (.text text)).HasNaN := by
  simp [HasNaN, ofBase, seeded, addEquality, addComparison, Value.hasNaN]

theorem assetDraft_fault_iff {contract : String} {f : Fault} :
    assetDraft args contract = .error (.fault f) ↔
      f = .unseededSubquery ∧ FoldsNaN args False := by
  rw [assetDraft, ← bind_assoc, bind_pure_fault_iff, described_fault_iff,
    eq_false (hasNaN_start _ _ _)]

theorem collectionDraft_fault_iff {contract : String} {f : Fault} :
    collectionDraft args contract = .error (.fault f) ↔
      f = .unseededSubquery ∧ args.NestsAsset ∧ args.AssetNaN := by
  rw [collectionDraft, bind_pure_fault_iff, ← Asset.run_plan,
    ((Asset.runs_plan args {}).outcome _).fault_iff, eq_false (hasNaN_start _ _ _), false_or]

/-- The nested statement of an offer is folded when it asks for more than being of the offer. -/
def OfferFoldsNaN (args : Arguments) (bound : Prop) : Prop :=
  FoldsNaN args bound ∨
    bound ∧ ∃ t, allTerms args = .ok t ∧ (args.AsksAsset ∨ t.Asks)

/-- The offer is folded back after what is asked of its assets. -/
theorem requireOffered_fault_iff {d : Draft} {f : Fault} :
    requireOffered args d = .error (.fault f) ↔
      f = .unseededSubquery ∧ OfferFoldsNaN args d.HasNaN := by
  have correlated : correlation.Runs True (fun _ => False) False True :=
    ((Operation.runs_join "offer_asset" "listing" ["offer_id"] (by simp)).append
      (Operation.runs_raw _)).congr and_self_iff (by simp) or_self_iff or_self_iff
  have folds := ((correlated.rowIfAsked (runs_described args) offerBase).outcome d).fault_iff f
  have asked : (∃ t, allTerms args = .ok t) ∧
      (args.AsksAsset ∨ ∃ t, allTerms args = .ok t ∧ t.Asks) ∧ d.HasNaN ↔
        d.HasNaN ∧ ∃ t, allTerms args = .ok t ∧ (args.AsksAsset ∨ t.Asks) := by
    cases allTerms args with
    | error e => simp
    | ok t => simp [and_comm]
  rw [← run_offered, offered, folds, OfferFoldsNaN, asked]
  simp

/-- The plan of what sales are asked for themselves binds a NaN where an argument holds one. -/
lemma hasNaN_saleStart (args : Arguments) (market : String) :
    (saleStart args market).HasNaN ↔ args.SaleNaN := by
  have head : (saleHead args market).contribution.Adds args.SaleNaN True :=
    ((Operation.adds_compare "listing.market_contract" .eq (.text market)).append <|
      (Criterion.adds_criterion args "state" "listing.state").append <|
      (Criterion.adds_criterion args "seller" "listing.seller").append <|
      (Criterion.adds_criterion args "buyer" "listing.buyer").append <|
      Price.adds_plan args {}).congr
        (by simp [Arguments.SaleNaN, Value.hasNaN, or_assoc]) (by simp)
  have start : ¬ (ofBase saleBase).HasNaN := by simp [HasNaN, ofBase, seeded]
  rw [(Plan.gains_run run_saleHead).hasNaN_iff, head.nan_iff, or_iff_right start]

theorem saleDraft_fault_iff {market : String} {f : Fault} :
    saleDraft args market = .error (.fault f) ↔
      f = .unseededSubquery ∧ OfferFoldsNaN args args.SaleNaN := by
  rw [← hasNaN_saleStart args market, ← requireOffered_fault_iff]
  exact bind_pure_fault_iff

/-- Where the page asked for fits, of 100 rows unless asked otherwise, a search faults exactly when
it folds a nested statement below a NaN. -/
theorem fault_iff (args : Arguments) (contract : String) (hp : args.PageFits 100) :
    (∀ f, assets args contract = .error (.fault f) ↔
        f = .unseededSubquery ∧ FoldsNaN args False) ∧
      (∀ f, collections args contract = .error (.fault f) ↔
        f = .unseededSubquery ∧ args.NestsAsset ∧ args.AssetNaN) ∧
      ∀ f, sales args contract = .error (.fault f) ↔
        f = .unseededSubquery ∧ OfferFoldsNaN args args.SaleNaN := by
  refine ⟨?_, ?_, ?_⟩
  · intro f
    exact (finish_fault_iff assetListing hp).trans assetDraft_fault_iff
  · intro f
    exact (finish_fault_iff collectionListing hp).trans collectionDraft_fault_iff
  · intro f
    exact (finish_fault_iff saleListing hp).trans saleDraft_fault_iff

/-- A lower price that reads as a NaN, and an owner that is looked for in a nested statement. -/
def pricedNaN : Arguments := .ofList [("min_price", .text "NaN"), ("owner", .text "alice")]

/-- The sales of an owner above a price that is not a number cannot be asked for, and the same
arguments do no harm to a search for assets. -/
theorem fault_of_price_nan :
    sales pricedNaN "atomicmarket" = .error (.fault .unseededSubquery) ∧
      ∀ f, assets pricedNaN "atomicassets" ≠ .error (.fault f) := by
  have fits : pricedNaN.PageFits 100 := ⟨by decide +kernel, by decide +kernel⟩
  have terms : allTerms pricedNaN = .ok ⟨[], [], [], []⟩ := rfl
  have nan : pricedNaN.SaleNaN :=
    .inr ⟨"min_price", by decide, .nan false, by decide +kernel, by decide +kernel⟩
  have asks : pricedNaN.AsksAsset := .inl ⟨"owner", by decide, by
    have listed : pricedNaN.list "owner" = [.text "alice"] := rfl
    simp [listed]⟩
  have flat : ¬ pricedNaN.NestsAsset := by
    unfold Arguments.NestsAsset
    decide +kernel
  constructor
  · exact ((fault_iff _ _ fits).2.2 _).mpr ⟨rfl, .inr ⟨nan, _, terms, .inl asks⟩⟩
  · intro f h
    rcases (((fault_iff _ _ fits).1 f).mp h).2 with ⟨nests, -⟩ | ⟨t, ht, nests, -⟩
    · exact flat nests
    · obtain rfl := Except.ok.inj (terms.symm.trans ht)
      simp [Terms.Nests] at nests

end Search

end BoundQuery
