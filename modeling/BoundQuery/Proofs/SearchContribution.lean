import BoundQuery.Proofs.Contiguity
import BoundQuery.Proofs.FilterContribution
import BoundQuery.Proofs.SearchPlans

/-!
# Contributions of searches

The draft of a search gains what its filters add, one after the other, and nothing else. The assets
on offer are asked for by one nested statement, or not at all where neither their assets nor their
attributes are asked for. Ordering and paging come last.
-/
namespace BoundQuery.Search

open BoundQuery.Draft BoundQuery.Filter

/-! ### Finishing -/

/-- What the order and the page of a search add. -/
def finishing (args : Arguments) (listing : Listing) : Contribution :=
  sortContribution args listing ++ pageContribution args listing

/-- The order and the page add no condition. -/
lemma conditions_finishing (args : Arguments) (listing : Listing) :
    (finishing args listing).conditions = [] := by
  have sorted : (sortContribution args listing).conditions = [] := by
    unfold sortContribution
    split <;> rfl
  have paged : (pageContribution args listing).conditions = [] := by
    unfold pageContribution
    simp only
    split <;> rfl
  rw [finishing, Contribution.conditions_append, sorted, paged]
  rfl

lemma contribution_finishPlan (args : Arguments) (listing : Listing) :
    (finishPlan args listing).contribution = finishing args listing := by
  rw [finishPlan, Plan.contribution_append, Listing.contribution_plan,
    Listing.contribution_pagePlan, finishing]

/-- The order and the page add to the closing clauses alone. -/
lemma finishing_lacks (args : Arguments) (listing : Listing) (place : Place)
    (h : place ≠ .closing) : (finishing args listing).Lacks place := by
  have closing : ∀ t ∈ listing.texts, t.1 ≠ place := List.forall_mem_map.mpr fun _ _ => h.symm
  rw [← contribution_finishPlan]
  exact Plan.lacks fun t ht => closing t (texts_finishPlan listing ht)

lemma gains_finish {args : Arguments} {listing : Listing} {d sorted paged : Draft}
    (hs : sort args listing d = .ok sorted) (hp : page args listing sorted = .ok paged) :
    Gains (finishing args listing) d paged := by
  have ordered : (Listing.plan args listing).run d = .ok sorted := by
    rw [Listing.run_plan, hs]
    rfl
  have cut : (Listing.pagePlan args listing).run sorted = .ok paged :=
    Outcome.orFault_eq_ok.mpr hp
  rw [← contribution_finishPlan]
  exact (Plan.gains_run ordered).trans (Plan.gains_run cut)

section Finish

variable {args : Arguments} {listing : Listing} {k : Contribution} {base : String} {d : Draft}
  {s : Search} (hgains : Gains k (ofBase base) d) (h : finish args listing d = .ok s)
include hgains h

/-- The page of a finished search shows what its draft gained, and refers to its own values. -/
theorem shows_items_of_finish :
    s.items.text.Shows 0 s.items.params ((k ++ finishing args listing).text base) := by
  obtain ⟨sorted, paged, hsorted, hpaged, rfl⟩ := finish_eq_ok_iff.mp h
  exact (hgains.trans (gains_finish hsorted hpaged)).shows_text

/-- The page that a finished search makes of what its draft gained. -/
theorem items_of_finish :
    s.items.text.filled s.items.params = (k ++ finishing args listing).text base ∧
      s.items.params = (k ++ finishing args listing).values := by
  refine ⟨(shows_items_of_finish hgains h).filled, ?_⟩
  obtain ⟨sorted, paged, hsorted, hpaged, rfl⟩ := finish_eq_ok_iff.mp h
  exact (hgains.trans (gains_finish hsorted hpaged)).params

end Finish

/-! ### Drafts -/

section Drafts

variable (args : Arguments) (contract : String)

/-- What the sales are asked for themselves: their state, parties and price. -/
def saleParties : Contribution :=
  .comparison "listing.market_contract" .eq (.text contract) ++
    ((args.criterion "state").contribution "listing.state" ++
      ((args.criterion "seller").contribution "listing.seller" ++
        ((args.criterion "buyer").contribution "listing.buyer" ++ priceContribution args {})))

/-- What the sales are asked for after their assets on offer: their lists and their window. -/
def saleRest : Contribution :=
  listsContribution args ⟨some "listing.collection_name", ["listing.seller", "listing.buyer"]⟩ ++
    windowContribution args ⟨"listing.sale_id", some "listing.created_at_time"⟩

lemma contribution_saleHead :
    (saleHead args contract).contribution = saleParties args contract := by
  simp only [saleHead, saleParties, Plan.contribution_append, Criterion.contribution_plan,
    Price.contribution_plan]
  rfl

lemma contribution_saleTail : (saleTail args).contribution = saleRest args := by
  rw [saleTail, saleRest, Plan.contribution_append, Lists.contribution_plan,
    Window.contribution_plan]

/-- What the draft of a search is made of. -/
def Kind.parts (kind : Kind) : Contribution := (kind.plan args contract).contribution

end Drafts

variable {args : Arguments} {contract : String} {d : Draft}

/-- The draft of a search gains its parts. -/
theorem Kind.gains_draft {kind : Kind} (h : kind.draft args contract = .ok d) :
    Gains (kind.parts args contract) (ofBase kind.base) d :=
  Plan.gains_run ((kind.run_plan args contract).trans h)

/-- Asking for assets and their attributes adds the same to every draft. -/
theorem gains_described {e : Draft}
    (h : (orFault (asset args {} d) >>= attributes args {}) = .ok e) :
    Gains (described args).contribution d e :=
  Plan.gains_run ((run_described d).trans h)

end BoundQuery.Search
