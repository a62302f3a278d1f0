import BoundQuery.Proofs.FilterTexts

/-!
# Composers in any order

Composers that restrict rows may be applied in any order. What they add is permuted, with the
values in place, and nothing else of the draft depends on the order. The conditions that the draft
had before stay as they are; they mean the same as long as all their placeholders are bound before
the composers bind values of their own. Main statement: `Composer.reorder`.
-/
namespace BoundQuery

namespace Contribution

/-- Contributions one after the other. -/
def sum (ks : List Contribution) : Contribution := ks.foldr (· ++ ·) {}

/-- A part of contributions that is put together by appending. -/
lemma sum_eq_flatMap {α : Type} (part : Contribution → List α) (hnone : part {} = [])
    (happend : ∀ k k', part (k ++ k') = part k ++ part k') (ks : List Contribution) :
    part (sum ks) = ks.flatMap part := by
  induction ks with
  | nil => exact hnone
  | cons k ks ih =>
    have added : sum (k :: ks) = k ++ sum ks := rfl
    rw [added, happend, ih, List.flatMap_cons]

lemma Lacks.sum {place : Place} {ks : List Contribution} (h : ∀ k ∈ ks, k.Lacks place) :
    (Contribution.sum ks).Lacks place := by
  induction ks with
  | nil => exact lacks_of [] [] place
  | cons k ks ih =>
    obtain ⟨first, rest⟩ := List.forall_mem_cons.mp h
    exact first.append (ih rest)

theorem base_sum (ks : List Contribution) :
    (sum ks).base = ks.foldr (fun k base => k.base ++ base) "" := by
  induction ks with
  | nil => rfl
  | cons k ks ih =>
    rw [List.foldr_cons, ← ih]
    rfl

end Contribution

open BoundQuery.Filter Contribution Draft

namespace Composer

/-- The filter that a composer applies. -/
inductive Kind where
  | asset
  | attributes
  | lists
  | window
  | price
  | drop
  | sort
  | page
  deriving DecidableEq

def kind : Composer → Kind
  | .asset _ => .asset
  | .attributes _ => .attributes
  | .lists _ => .lists
  | .window _ => .window
  | .price _ => .price
  | .drop _ _ => .drop
  | .sort _ => .sort
  | .page _ => .page

/-- The filters that restrict the rows, and neither order them nor cut out a page. -/
def Kind.restricting : List Kind := [.asset, .attributes, .lists, .window, .price, .drop]

variable {args : Arguments}

/-- A composer that restricts rows has no text for the groups or the closing clauses, and only the
one of assets has a text for the base. -/
lemma place_of_mem_texts {composer : Composer} (h : composer.kind ∈ Kind.restricting) :
    ∀ t ∈ composer.texts,
      t.1 ≠ .group ∧ t.1 ≠ .closing ∧ (composer.kind ≠ .asset → t.1 ≠ .base) := by
  have conditional {place : Place} (hp : place = .name ∨ place = .state) :
      place ≠ .group ∧ place ≠ .closing ∧ (composer.kind ≠ .asset → place ≠ .base) := by
    rcases hp with rfl | rfl <;> simp
  cases composer with
  | asset c =>
    simp [texts, kind, AssetColumns.texts, AssetColumns.ownTexts, AssetColumns.own, Criterion.texts,
      AssetColumns.templateTexts, AssetColumns.flagTexts, AssetColumns.nestedTexts]
  | attributes c => simp [texts, AssetColumns.attributeTexts, AssetColumns.rowTexts]
  | lists c => exact List.forall_mem_map.mpr fun _ _ => conditional (.inl rfl)
  | window c => exact List.forall_mem_map.mpr fun _ _ => conditional (.inl rfl)
  | price c => exact List.forall_mem_map.mpr fun _ _ => conditional (.inl rfl)
  | drop c now => exact List.forall_mem_map.mpr fun _ _ => conditional (.inr rfl)
  | sort listing =>
    have absent : Kind.sort ∉ Kind.restricting := by decide
    exact absurd h absent
  | page listing =>
    have absent : Kind.page ∉ Kind.restricting := by decide
    exact absurd h absent

section

variable {composer : Composer} (h : composer.kind ∈ Kind.restricting)
include h

lemma contribution_lacks {place : Place} (hp : place = .group ∨ place = .closing) :
    (composer.contribution args).Lacks place := by
  apply Plan.lacks
  intro t ht
  obtain ⟨groups, closing, -⟩ := place_of_mem_texts h t (composer.texts_plan args ht)
  rcases hp with rfl | rfl
  · exact groups
  · exact closing

lemma base_contribution (hasset : composer.kind ≠ .asset) :
    (composer.contribution args).base = "" := by
  have kept : (composer.contribution args).Lacks .base := Plan.lacks fun t ht =>
    (place_of_mem_texts h t (composer.texts_plan args ht)).2.2 hasset
  exact kept

end

/-! ### Runs of composers -/

/-- What some composers add, one after the other. -/
def total (args : Arguments) (composers : List Composer) : Contribution :=
  Contribution.sum (composers.map (contribution args))

/-- Composers add one after the other what each of them adds. -/
theorem gains_foldlM {composers : List Composer} {d e : Draft}
    (h : composers.foldlM (apply args) d = .ok e) : Gains (total args composers) d e := by
  induction composers generalizing d with
  | nil =>
    cases h
    exact Gains.refl _
  | cons composer composers ih =>
    obtain ⟨d', hd', he⟩ := Outcome.bind_eq_ok.mp h
    exact (gains_apply hd').trans (ih he)

section Permutation

variable {composers others : List Composer}

lemma total_lacks (args : Arguments)
    (hfilters : ∀ composer ∈ composers, composer.kind ∈ Kind.restricting) {place : Place}
    (hp : place = .group ∨ place = .closing) : (total args composers).Lacks place :=
  Lacks.sum (List.forall_mem_map.mpr fun composer hm =>
    contribution_lacks (hfilters composer hm) hp)

/-- A part that is put together by appending is permuted with the composers. -/
lemma perm_total {α : Type} (args : Arguments) (part : Contribution → List α) (hnone : part {} = [])
    (happend : ∀ k k', part (k ++ k') = part k ++ part k') (h : composers.Perm others) :
    (part (total args composers)).Perm (part (total args others)) := by
  rw [total, total, sum_eq_flatMap part hnone happend, sum_eq_flatMap part hnone happend]
  exact (h.map _).flatMap_right _

/-- One composer at most extends the base, so the order is of no matter to it. -/
lemma base_total (h : composers.Perm others)
    (hfilters : ∀ composer ∈ composers, composer.kind ∈ Kind.restricting)
    (hdistinct : composers.Pairwise fun a b => a.kind ≠ b.kind) :
    (total args composers).base = (total args others).base := by
  rw [total, total, base_sum, base_sum, List.foldr_map, List.foldr_map]
  apply h.foldr_eq'
  intro a ha b hb base
  by_cases same : a = b
  · rw [same]
  · have symmetric : Std.Symm fun a b : Composer => a.kind ≠ b.kind := ⟨fun _ _ => Ne.symm⟩
    have kinds : a.kind ≠ b.kind := hdistinct.forall ha hb same
    -- Only the filter of assets extends the base, so one of the two texts is empty.
    by_cases hasset : a.kind = .asset
    · have alone : (b.contribution args).base = "" :=
        base_contribution (hfilters b hb) (hasset ▸ kinds.symm)
      simp [alone]
    · have alone : (a.contribution args).base = "" :=
        base_contribution (hfilters a ha) hasset
      simp [alone]

/-- Composers of different filters may be applied in any order. The base, the grouping columns and
the closing clauses come out the same; the values are permuted; the conditions before are the same,
and those added are permuted with their values in place; and so all conditions are, where those
before are bound. -/
theorem reorder {d e f : Draft} (hperm : composers.Perm others)
    (hfilters : ∀ composer ∈ composers, composer.kind ∈ Kind.restricting)
    (hdistinct : composers.Pairwise fun a b => a.kind ≠ b.kind)
    (he : composers.foldlM (apply args) d = .ok e) (hf : others.foldlM (apply args) d = .ok f) :
    e.base = f.base ∧ e.groups = f.groups ∧ e.closing = f.closing ∧ e.params.Perm f.params ∧
      (∃ more more', e.conditions = d.conditions ++ more ∧ f.conditions = d.conditions ++ more' ∧
        (more.map fun c => c.text.filled e.params).Perm
          (more'.map fun c => c.text.filled f.params)) ∧
      (d.Bound → e.filledConditions.Perm f.filledConditions) := by
  have gained := gains_foldlM he
  have gained' := gains_foldlM hf
  have others_filter : ∀ composer ∈ others, composer.kind ∈ Kind.restricting :=
    fun composer hm => hfilters composer (hperm.mem_iff.mpr hm)
  have groups : (total args composers).groups = [] := total_lacks args hfilters (.inl rfl)
  have groups' : (total args others).groups = [] := total_lacks args others_filter (.inl rfl)
  have closing : (total args composers).closing = [] := total_lacks args hfilters (.inr rfl)
  have closing' : (total args others).closing = [] := total_lacks args others_filter (.inr rfl)
  have conditions := perm_total args Contribution.conditions rfl conditions_append hperm
  have values := perm_total args Contribution.values rfl values_append hperm
  refine ⟨?_, ?_, ?_, ?_, ?_, ?_⟩
  · rw [gained.base, gained'.base, base_total hperm hfilters hdistinct]
  · rw [gained.groups, gained'.groups, groups, groups']
  · rw [gained.closing_eq closing, gained'.closing_eq closing']
  · rw [gained.params, gained'.params]
    exact values.append_left _
  · obtain ⟨more, hmore, hfilled⟩ := gained.exists_conditions
    obtain ⟨more', hmore', hfilled'⟩ := gained'.exists_conditions
    refine ⟨more, more', hmore, hmore', ?_⟩
    rw [hfilled, hfilled']
    exact conditions
  · intro hd
    rw [gained.filledConditions_eq hd, gained'.filledConditions_eq hd]
    exact conditions.append_left _

end Permutation

/-- Assets, prices and states of drops asked for in one map of arguments. -/
def mixed : Arguments := .ofList [("authorized_account", .text "bob"),
  ("is_transferable", .text "true"), ("owner", .text "alice"), ("state", .text "active"),
  ("symbol", .text "WAX")]

theorem reorder_mixed :
    ∃ e f, [Composer.asset {}, .price {}, .drop {} 1000].foldlM (apply mixed) (ofBase "SELECT") =
        .ok e ∧
      [Composer.drop {} 1000, .asset {}, .price {}].foldlM (apply mixed) (ofBase "SELECT") =
        .ok f ∧
      [Composer.asset {}, .price {}, .drop {} 1000].Perm [.drop {} 1000, .asset {}, .price {}] ∧
      (ofBase "SELECT").Bound ∧ e.base = f.base ∧ e.params.Perm f.params ∧
      e.filledConditions.Perm f.filledConditions := by
  obtain ⟨e, he⟩ : ∃ e, [Composer.asset {}, .price {}, .drop {} 1000].foldlM (apply mixed)
      (ofBase "SELECT") = .ok e := ⟨_, rfl⟩
  obtain ⟨f, hf⟩ : ∃ f, [Composer.drop {} 1000, .asset {}, .price {}].foldlM (apply mixed)
      (ofBase "SELECT") = .ok f := ⟨_, rfl⟩
  have bound : (ofBase "SELECT").Bound := by simp [Bound, ofBase, seeded]
  have perm : [Composer.asset {}, .price {}, .drop {} 1000].Perm
      [.drop {} 1000, .asset {}, .price {}] :=
    (List.perm_append_singleton (Composer.drop {} 1000) [.asset {}, .price {}])
  obtain ⟨base, -, -, values, -, conditions⟩ := reorder perm
    (by simp [kind, Kind.restricting]) (by simp [kind]) he hf
  exact ⟨e, f, he, hf, perm, bound, base, values, conditions bound⟩

/-- The text that a mark stands for as a value. -/
def textOf : Mark → Option String
  | .value (.text s) => some s
  | _ => none

/-- A draft with a condition on a value that was dropped afterwards. -/
def unbound : Draft :=
  ((ofBase "SELECT FROM listing").addEquality "listing.seller" (.text "carol")).adopt []

def priced : Arguments := .ofList [("lower_bound", .text "5"), ("symbol", .text "WAX")]

/-- A condition on no value gets one from whichever composer binds a value first. -/
theorem filledConditions_of_unbound :
    ∃ e f, [Composer.price {}, .window ⟨"listing.sale_id", none⟩].foldlM (apply priced) unbound =
        .ok e ∧
      [Composer.window ⟨"listing.sale_id", none⟩, .price {}].foldlM (apply priced) unbound =
        .ok f ∧
      ¬ e.filledConditions.Perm f.filledConditions := by
  refine ⟨_, _, rfl, rfl, ?_⟩
  intro h
  -- The condition on the seller asks for the symbol in one order and for the bound in the other.
  have texts := h.map (List.filterMap textOf)
  revert texts
  decide

end Composer

end BoundQuery
