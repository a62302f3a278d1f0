import BoundQuery.Proofs.SearchContribution

/-!
# Conditions in the statements of a search

A contribution mentions a text where the text is part of one of its conditions, and so does every
contribution and every statement made of it, nested ones included. Both statements of a search
show what its draft gained. Main statements: `Contribution.Mentions.infix_text` and
`Search.Kind.mentions_of_run`.
-/
namespace BoundQuery

open FilledText (ofString)
open Draft

lemma FilledText.infix_joinWith {t : FilledText} {ts : List FilledText} (separator : String)
    (h : t ∈ ts) : t <:+: FilledText.joinWith separator ts := by
  induction ts with
  | nil => cases h
  | cons first rest ih =>
    cases rest with
    | nil =>
      rw [List.mem_singleton.mp h]
      exact List.infix_refl _
    | cons second rest =>
      rcases List.mem_cons.mp h with rfl | later
      · exact List.infix_append_of_infix_left (List.prefix_append _ _).isInfix
      · exact (ih later).trans (List.suffix_append _ _).isInfix

lemma FilledText.infix_group (t : FilledText) : t <:+: t.group := List.infix_append _ _ _

namespace Contribution

/-- A text is part of one of the conditions, and some values are among those bound. -/
structure Mentions (k : Contribution) (t : FilledText) (values : List Value) : Prop where
  condition : ∃ c ∈ k.conditions, t <:+: c
  bound : values ⊆ k.values

variable {k k' : Contribution} {t : FilledText} {values : List Value}

lemma mentions_of {conditions : List FilledText} {bound : List Value} {c : FilledText}
    (hc : c ∈ conditions) (ht : t <:+: c) (hv : values ⊆ bound) :
    Mentions { conditions := conditions, values := bound } t values := ⟨⟨c, hc, ht⟩, hv⟩

lemma Mentions.before (h : k.Mentions t values) (k' : Contribution) :
    (k ++ k').Mentions t values where
  condition := by
    obtain ⟨c, hc, ht⟩ := h.condition
    exact ⟨c, List.mem_append_left _ hc, ht⟩
  bound := List.subset_append_of_subset_left _ h.bound

lemma Mentions.after (h : k.Mentions t values) (k' : Contribution) :
    (k' ++ k).Mentions t values where
  condition := by
    obtain ⟨c, hc, ht⟩ := h.condition
    exact ⟨c, List.mem_append_right _ hc, ht⟩
  bound := List.subset_append_of_subset_right _ h.bound

/-- What a condition mentions, the statement mentions. -/
theorem Mentions.infix_text (h : k.Mentions t values) (base : String) : t <:+: k.text base := by
  obtain ⟨c, hc, ht⟩ := h.condition
  have joined : t <:+: FilledText.joinWith " AND " k.conditions :=
    ht.trans (FilledText.infix_joinWith " AND " hc)
  have clause : t <:+: FilledText.clause " WHERE " " AND " k.conditions := by
    cases hk : k.conditions with
    | nil =>
      rw [hk] at hc
      cases hc
    | cons first rest =>
      rw [hk] at joined
      exact joined.trans (List.suffix_append _ _).isInfix
  rw [text, List.append_assoc]
  exact (List.infix_append_of_infix_right clause).trans (List.prefix_append _ _).isInfix

/-- What a nested statement mentions, the condition that it has a row mentions. -/
lemma Mentions.hasRow (h : k.Mentions t values) (base : String) :
    (k.hasRow base).Mentions t values :=
  mentions_of (List.mem_singleton_self _)
    ((h.infix_text base).trans ((List.infix_append _ _ _).trans (FilledText.infix_group _))) h.bound

end Contribution

open Contribution

/-- A criterion mentions the membership test of its values. -/
lemma Criterion.mentions_ofList {values : List Value} (hne : values ≠ []) (column : String) :
    ((ofList values).contribution column).Mentions (Membership.filled column .allow values)
      (Membership.bound values) := by
  rcases values with _ | ⟨v, _ | ⟨w, rest⟩⟩
  · exact absurd rfl hne
  · have same : FilledText.comparison column .eq v = Membership.filled column .allow [v] := by
      have equals : ofString " " ++ (ofString "=" ++ ofString " ") = ofString " = " := rfl
      simp [FilledText.comparison, Membership.filled, Comparison.symbol, ← equals]
    exact mentions_of (List.mem_singleton_self _) (same ▸ List.infix_refl _) (List.Subset.refl _)
  · exact mentions_of (List.mem_singleton_self _) (List.infix_refl _) (List.Subset.refl _)

/-! ### The statements of a search -/

namespace Search

open BoundQuery.Filter

variable {args : Arguments}

/-- Both statements of a search show what its draft gained. -/
theorem shows_of_finish {listing : Listing} {k : Contribution} {base : String} {d : Draft}
    {s : Search} (hl : listing.Plain) (hd : d.Tidy) (hgains : Gains k (ofBase base) d)
    (h : finish args listing d = .ok s) :
    s.items.filled = (k ++ finishing args listing).text base ∧
      s.count.filled = ofString "SELECT COUNT(*) FROM (" ++ k.text base ++ ofString ") x" ∧
      s.items.params = k.values ++ (finishing args listing).values ∧
      s.count.params = k.values := by
  obtain ⟨text, params⟩ := items_of_finish hgains h
  have items := Statement.filled_of_delimited (delimited_items hl hd h)
  obtain ⟨sorted, paged, -, -, rfl⟩ := finish_eq_ok_iff.mp h
  have counted : d.text.Delimited false := by
    apply delimited_text hd.base hd.conditions hd.groups
    simp [hd.closing]
  have count := Statement.filled_of_delimited (delimited_toCount (s := d.statement) counted)
  have query : d.text.filled d.params = k.text base := hgains.shows_text.filled
  refine ⟨items.trans text, ?_, params, hgains.params⟩
  rw [count]
  simp only [Statement.toCount, Draft.statement, SqlText.filled_append, SqlText.filled_cons,
    Piece.filled, query]
  simp [SqlText.filled]

namespace Kind

variable {kind : Kind} {contract : String} {d : Draft} {s : Search}

/-- What the parts of a search mention, both of its statements mention. -/
theorem mentions_of_run {t : FilledText} {values : List Value}
    (h : kind.run args contract = .ok s) (hm : (kind.parts args contract).Mentions t values) :
    t <:+: s.items.filled ∧ t <:+: s.count.filled ∧ values ⊆ s.count.params ∧
      s.count.params <+: s.items.params := by
  obtain ⟨d, hd, hs⟩ := run_eq_ok.mp h
  obtain ⟨items, count, itemsParams, countParams⟩ :=
    shows_of_finish kind.listing_plain (tidy_draft hd) (gains_draft hd) hs
  rw [items, count, itemsParams, countParams]
  exact ⟨(hm.before _).infix_text _, (hm.infix_text _).trans (List.infix_append _ _ _), hm.bound,
    List.prefix_append _ _⟩

end Kind

end Search

end BoundQuery
