import BoundQuery.Proofs.Faults
import BoundQuery.Proofs.Letters
import BoundQuery.Proofs.SearchContribution

/-!
# Assets on offer

A search for sales asks of the assets on offer what a search for assets asks of its assets: the same
conditions in the same order, on the same joined tables. They are left out where there are none, and
nothing else is left out with them. Main statement: `Search.sales_ask_of_offered`.
-/
namespace BoundQuery

open FilledText (ofString)
open Draft

/-! ### Contributions without conditions -/

namespace Contribution

/-- A contribution that adds nothing at all where it adds no condition. -/
def Stated (k : Contribution) : Prop := k.conditions = [] → k = {}

section Stated

variable {k k' : Contribution}

lemma stated_empty : Stated {} := fun _ => rfl

lemma stated_of_eq_cons {t : FilledText} {ts : List FilledText} (h : k.conditions = t :: ts) :
    k.Stated := by
  intro none
  rw [h] at none
  cases none

lemma Stated.append (h : k.Stated) (h' : k'.Stated) : (k ++ k').Stated := by
  intro none
  obtain ⟨none, none'⟩ := List.append_eq_nil_iff.mp none
  rw [h none, h' none']
  rfl

end Stated

end Contribution

open Contribution

/-- An operation that adds to the conditions alone adds nothing where it adds none. -/
lemma Operation.stated {op : Operation}
    (h : ∀ t ∈ op.texts, t.1 ≠ .base ∧ t.1 ≠ .group ∧ t.1 ≠ .closing) : op.contribution.Stated := by
  cases op with
  | member column values =>
    rw [contribution]
    cases values.asList? with
    | none => exact stated_empty
    | some items => exact stated_of_eq_cons rfl
  | nonMember column values orNull =>
    rw [contribution]
    cases values.asList? with
    | none => exact stated_empty
    | some items => cases orNull <;> exact stated_of_eq_cons rfl
  | join left right columns =>
    cases columns with
    | nil => exact stated_empty
    | cons column columns => exact stated_of_eq_cons rfl
  | groups columns =>
    cases columns with
    | nil => exact stated_empty
    | cons column columns => exact absurd rfl (h (.group, column) (.head _)).2.1
  | paginate page limit => exact absurd rfl (h (.closing, "LIMIT ") (.head _)).2.2
  | close sql => exact absurd rfl (h (.closing, sql) (.head _)).2.2
  | extendBase sql => exact absurd rfl (h (.base, sql) (.head _)).1
  | _ => exact stated_of_eq_cons rfl

/-- A plan that adds to the conditions alone adds nothing where it adds none. -/
theorem Plan.stated {p : Plan}
    (h : ∀ t ∈ p.texts, t.1 ≠ .base ∧ t.1 ≠ .group ∧ t.1 ≠ .closing) : p.contribution.Stated := by
  induction p with
  | skip => exact stated_empty
  | stop _ => exact stated_empty
  | step s =>
    cases s with
    | op operation => exact operation.stated h
    | about v ask => exact stated_of_eq_cons rfl
    | anyMember values columns =>
      cases columns with
      | nil => exact stated_empty
      | cons column columns => exact stated_of_eq_cons rfl
    | anywhere c t => exact stated_of_eq_cons rfl
    | order keys => exact absurd rfl (h (.closing, "ORDER BY ") (.head _)).2.2
  | seq first rest ihf ihr =>
    obtain ⟨hf, hr⟩ := List.forall_mem_append.mp h
    exact (ihf hf).append (ihr hr)
  | hasRow base nested _ => exact stated_of_eq_cons rfl
  | rowIfAsked base start nested _ _ =>
    rw [contribution]
    split
    · exact stated_empty
    · exact stated_of_eq_cons rfl

namespace Filter

variable (args : Arguments)

/-- The templates are joined only for a flag that is asked for. -/
lemma Asset.stated_templateFlags (c : AssetColumns) :
    (templateFlags args c).contribution.Stated := by
  have unasked {column : String} {asked : Option Bool}
      (h : (flag c column asked).contribution.conditions = []) : asked = none := by
    cases asked with
    | none => rfl
    | some set => cases h
  intro none
  obtain ⟨-, flags⟩ := List.append_eq_nil_iff.mp none
  obtain ⟨transferable, burnable⟩ := List.append_eq_nil_iff.mp flags
  unfold templateFlags joined
  rw [unasked transferable, unasked burnable]
  rfl

lemma Asset.stated_plan : (plan args {}).contribution.Stated := by
  have own : ∀ t ∈ AssetColumns.ownTexts {}, t.1 ≠ .base ∧ t.1 ≠ .group ∧ t.1 ≠ .closing := by
    decide
  have others : ∀ t ∈ AssetColumns.nestedTexts {}, t.1 ≠ .base ∧ t.1 ≠ .group ∧ t.1 ≠ .closing := by
    decide
  have columns : (columns args {}).contribution.Stated :=
    Plan.stated fun t ht => own t (texts_columns ht)
  have nested : (duplicates args {} ++ authorized args {}).contribution.Stated :=
    Plan.stated fun t ht => others t (Plan.texts_append_subset texts_duplicates texts_authorized ht)
  exact (columns.append (stated_templateFlags args {})).append nested

lemma Attributes.stated_plan : (plan {} args).contribution.Stated := by
  have conditions : ∀ t ∈ AssetColumns.attributeTexts {},
      t.1 ≠ .base ∧ t.1 ≠ .group ∧ t.1 ≠ .closing := by
    decide
  exact Plan.stated fun t ht => conditions t (texts_plan ht)

end Filter

/-! ### The assets on offer -/

namespace Search

open BoundQuery.Filter BoundQuery.Filter.Attributes

variable {args : Arguments} {market : String}

/-- Asking for assets and their attributes, and for nothing else: a text is appended to the base,
and conditions are added that refer to values. -/
def Describes (args : Arguments) (join : String) (asked : List FilledText) (values : List Value) :
    Prop :=
  ∀ base, ∃ d, (orFault (asset args {} (ofBase base)) >>= attributes args {}) = .ok d ∧
    d.base = base ++ join ∧ d.filledConditions = asked ∧ d.params = values

/-- The condition that an asset of the offer meets some conditions, where there are any. -/
def rowOnOffer (join : String) : List FilledText → List FilledText
  | [] => []
  | asked =>
    [FilledText.group (ofString "EXISTS(" ++ (ofString (offerBase ++ join) ++ (ofString " WHERE " ++
      .joinWith " AND " (ofString "offer_asset.offer_id = listing.offer_id" ::
        ofString "(offer_asset.contract = listing.assets_contract)" :: asked))) ++ ofString ")")]

lemma FoldsNaN.mono {bound bound' : Prop} (h : bound → bound') (hf : FoldsNaN args bound) :
    FoldsNaN args bound' := by
  unfold FoldsNaN at hf ⊢
  obtain ⟨nests, nan⟩ | ⟨t, ht, nests, nan⟩ := hf
  · exact .inl ⟨nests, nan.imp_left h⟩
  · exact .inr ⟨t, ht, nests, nan.imp_left h⟩

/-- What can be asked of the assets on offer can be asked for alone. -/
lemma exists_described {d e : Draft}
    (h : (orFault (asset args {} d) >>= attributes args {}) = .ok e) (base : String) :
    ∃ f, (orFault (asset args {} (ofBase base)) >>= attributes args {}) = .ok f := by
  rw [← run_described] at h ⊢
  obtain ⟨read, sound⟩ := ((runs_described args).outcome d).ok_iff.mp ⟨e, h⟩
  have none_bound : ¬ (ofBase base).HasNaN := by simp [HasNaN, ofBase, seeded]
  exact ((runs_described args).outcome (ofBase base)).ok_iff.mpr
    ⟨read, fun folds => sound (folds.mono fun bound => absurd bound none_bound)⟩

/-- What asking for the assets on offer adds. -/
def description (args : Arguments) : Contribution := (described args).contribution

theorem describes_of_ok {d e : Draft}
    (h : (orFault (asset args {} d) >>= attributes args {}) = .ok e) :
    Describes args (description args).base (description args).conditions
      (description args).values := by
  intro base
  obtain ⟨f, hf⟩ := exists_described h base
  have gained := gains_described hf
  exact ⟨f, hf, gained.base, gained.filledConditions_eq nofun, gained.params⟩

lemma stated_description (args : Arguments) : (description args).Stated :=
  (Asset.stated_plan args).append (Attributes.stated_plan args)

/-- Asking for the assets on offer neither groups rows nor ends the statement. -/
lemma description_lacks (args : Arguments) {place : Place} (h : place = .group ∨ place = .closing) :
    (description args).Lacks place := by
  have open_texts : ∀ t ∈ AssetColumns.texts {} ++ AssetColumns.attributeTexts {},
      t.1 ≠ .group ∧ t.1 ≠ .closing := by
    decide
  apply Plan.lacks
  intro t ht
  obtain ⟨groups, closing⟩ := open_texts t
    (Plan.texts_append_subset_append Asset.texts_plan Attributes.texts_plan ht)
  rcases h with rfl | rfl
  · exact groups
  · exact closing

/-- Where something is asked of the assets on offer, the sale is asked for a row of theirs. -/
lemma contribution_offered (args : Arguments) : (offered args).contribution =
    { conditions := rowOnOffer (description args).base (description args).conditions
      values := (description args).values } := by
  have unfolded : (offered args).contribution =
      if (description args).conditions.isEmpty then {}
      else (correlation.contribution ++ description args).hasRow offerBase := rfl
  rw [unfolded]
  cases hasked : (description args).conditions with
  | nil =>
    rw [stated_description args hasked]
    rfl
  | cons first rest =>
    have joined : (correlation.contribution ++ description args).base = (description args).base :=
      String.empty_append
    have grouped : (correlation.contribution ++ description args).groups = [] :=
      description_lacks args (.inl rfl)
    have closed : (correlation.contribution ++ description args).closing = [] :=
      description_lacks args (.inr rfl)
    have both : (correlation.contribution ++ description args).conditions =
        ofString "offer_asset.offer_id = listing.offer_id" ::
          ofString "(offer_asset.contract = listing.assets_contract)" :: first :: rest := by
      rw [conditions_append, hasked]
      rfl
    have text : (correlation.contribution ++ description args).text offerBase =
        ofString (offerBase ++ (description args).base) ++ (ofString " WHERE " ++
          .joinWith " AND " (ofString "offer_asset.offer_id = listing.offer_id" ::
            ofString "(offer_asset.contract = listing.assets_contract)" :: first :: rest)) := by
      rw [Contribution.text, joined, grouped, closed, both]
      simp [FilledText.clause]
    simp only [List.isEmpty_cons, Bool.false_eq_true, if_false, hasRow, text]
    rfl

/-! ### The sale -/

section Sale

variable (args) (market)

/-- The conditions of a search for sales, with those of the assets on offer among them. -/
def saleConditions (join : String) (asked : List FilledText) : List FilledText :=
  (saleParties args market).conditions ++ (rowOnOffer join asked ++ (saleRest args).conditions)

/-- A search for sales asks some conditions of the assets on offer, on a base that is joined with a
text, with some values: those that asking for the assets alone adds. It asks for them in one nested
statement, and where there are none the table of the assets on offer is not mentioned at all. -/
structure AsksOffered (s : Search) (join : String) (asked : List FilledText) (values : List Value) :
    Prop where
  described : Describes args join asked values
  whole : asked = [] → join = "" ∧ values = []
  conditions : ∃ d, saleDraft args market = .ok d ∧
    d.filledConditions = saleConditions args market join asked
  items : s.items.filled = ofString saleBase ++ (ofString " WHERE " ++
      .joinWith " AND " (saleConditions args market join asked)) ++
    (finishing args saleListing).closing.flatMap fun t => ofString " " ++ t
  params : s.items.params = (saleParties args market).values ++ (values ++
    ((saleRest args).values ++ (finishing args saleListing).values))
  elsewhere : ∀ t ∈ (saleParties args market).conditions ++ ((saleRest args).conditions ++
    (finishing args saleListing).closing), ¬ offerAssetsTable.toList <:+: t.signs
  unmentioned : asked = [] → ¬ offerAssetsTable.toList <:+: s.items.sql.toList


/-- The texts without the letter that the table of assets on offer is written with. -/
def elsewhere : Grammar := .without 'f' (by decide) (by decide)

instance (letters : List Char) (m n : Nat) (t : FilledText) :
    Decidable (elsewhere.Leads letters m n t) := inferInstanceAs (Decidable (t.Spares 'f'))

/-- The texts of a search for sales but for those that describe the assets on offer. -/
def ownTexts : List (Place × String) := saleHeadTexts ++ saleTailTexts ++ saleListing.texts

lemma elsewhere_ownTexts : elsewhere.Admits ownTexts := by decide

lemma obeys_saleParties : (saleParties args market).Obeys elsewhere := by
  rw [← contribution_saleHead]
  exact Plan.obeys fun t ht => elsewhere_ownTexts t
    (List.mem_append_left _ (List.mem_append_left _ (texts_saleHead ht)))

lemma obeys_saleRest : (saleRest args).Obeys elsewhere := by
  rw [← contribution_saleTail]
  exact Plan.obeys fun t ht => elsewhere_ownTexts t
    (List.mem_append_left _ (List.mem_append_right _ (texts_saleTail ht)))

lemma obeys_finishing : (finishing args saleListing).Obeys elsewhere := by
  rw [← contribution_finishPlan]
  exact Plan.obeys fun t ht => elsewhere_ownTexts t
    (List.mem_append_right _ (texts_finishPlan _ ht))

end Sale

/-- The parts of a search for sales, one after the other. -/
lemma parts_sales (args : Arguments) (market : String) : Kind.parts args market .sales =
    saleParties args market ++ ((offered args).contribution ++ saleRest args) := by
  rw [← contribution_saleHead, ← contribution_saleTail]
  rfl

/-- A search for sales adds to its conditions alone, until it is ordered. -/
lemma parts_sales_lacks (args : Arguments) (market : String) (place : Place) (h : place ≠ .name) :
    (Kind.parts args market .sales).Lacks place := by
  have names : ∀ t ∈ saleHeadTexts ++ saleTailTexts, t.1 = .name := by decide
  have parties : (saleParties args market).Lacks place := by
    rw [← contribution_saleHead]
    exact Plan.lacks fun t ht => names t (List.mem_append_left _ (texts_saleHead ht)) ▸ h.symm
  have rest : (saleRest args).Lacks place := by
    rw [← contribution_saleTail]
    exact Plan.lacks fun t ht => names t (List.mem_append_right _ (texts_saleTail ht)) ▸ h.symm
  rw [parts_sales, contribution_offered]
  exact parties.append ((lacks_of _ _ place).append rest)

lemma conditions_parts_sales (args : Arguments) (market : String) :
    (Kind.parts args market .sales).conditions =
      saleConditions args market (description args).base (description args).conditions := by
  rw [parts_sales, contribution_offered]
  rfl

lemma values_parts_sales (args : Arguments) (market : String) :
    (Kind.parts args market .sales).values = (saleParties args market).values ++
      ((description args).values ++ (saleRest args).values) := by
  rw [parts_sales, contribution_offered]
  rfl

/-- What the statement of a search for sales is made of. -/
lemma text_parts_sales (args : Arguments) (market : String) :
    (Kind.parts args market .sales ++ finishing args saleListing).text saleBase =
      ofString saleBase ++ (ofString " WHERE " ++ .joinWith " AND "
        (saleConditions args market (description args).base (description args).conditions)) ++
      (finishing args saleListing).closing.flatMap fun t => ofString " " ++ t := by
  have base : (Kind.parts args market .sales).base = "" :=
    parts_sales_lacks args market .base (by decide)
  have groups : (Kind.parts args market .sales).groups = [] :=
    parts_sales_lacks args market .group (by decide)
  have closing : (Kind.parts args market .sales).closing = [] :=
    parts_sales_lacks args market .closing (by decide)
  have base' : (finishing args saleListing).base = "" := finishing_lacks args _ .base (by decide)
  have groups' : (finishing args saleListing).groups = [] :=
    finishing_lacks args _ .group (by decide)
  obtain ⟨first, rest, started⟩ : ∃ first rest, saleConditions args market (description args).base
      (description args).conditions = first :: rest := ⟨_, _, rfl⟩
  rw [Contribution.text, base_append, base, base', conditions_append, conditions_finishing,
    groups_append, groups, groups', closing_append, closing, conditions_parts_sales,
    List.append_nil, started]
  simp [FilledText.clause]

/-- A search for sales asks of the assets on offer what asking for the assets alone adds, in one
condition of its own, or nothing where that adds no condition. -/
theorem sales_ask_of_offered {s : Search} (h : sales args market = .ok s) :
    ∃ join asked values, AsksOffered args market s join asked values := by
  obtain ⟨d, hd, hs⟩ := Outcome.bind_eq_ok.mp h
  obtain ⟨e, he, hpure⟩ := Outcome.bind_eq_ok.mp hd
  obtain ⟨assets, hassets, hrest⟩ := Outcome.bind_eq_ok.mp he
  obtain ⟨sub, hsub, -⟩ := Outcome.bind_eq_ok.mp hrest
  have drawn : Kind.sales.draft args market = .ok d := hd
  have gained : Gains (Kind.parts args market .sales) (ofBase saleBase) d := Kind.gains_draft drawn
  obtain ⟨htext, hparams⟩ := items_of_finish gained hs
  have filled : s.items.filled = s.items.text.filled s.items.params :=
    Statement.filled_of_delimited
      (delimited_items (Kind.listing_plain .sales) (Kind.tidy_draft drawn) hs)
  refine ⟨(description args).base, (description args).conditions, (description args).values, {
    described := describes_of_ok (Outcome.bind_eq_ok.mpr ⟨assets, hassets, hsub⟩)
    whole := ?_
    conditions := ⟨d, hd, ?_⟩
    items := by rw [filled, htext, text_parts_sales]
    params := ?_
    elsewhere := ?_
    unmentioned := ?_ }⟩
  · intro none
    rw [stated_description args none]
    exact ⟨rfl, rfl⟩
  · rw [gained.filledConditions_eq nofun, conditions_parts_sales]
    rfl
  · rw [hparams, values_append, values_parts_sales, List.append_assoc, List.append_assoc]
  · intro t ht
    have spared : t.Spares 'f' := by
      rcases List.mem_append.mp ht with ht | ht
      · exact (obeys_saleParties args market).conditions t ht
      · exact (List.mem_append.mp ht).elim ((obeys_saleRest args).conditions t)
          ((obeys_finishing args).closing t)
    exact spared.not_word (by decide)
  · intro none
    have unasked : (offered args).contribution.Obeys elsewhere := by
      rw [contribution_offered, none]
      exact obeys_of _ nofun
    have obeyed :
        (Kind.parts args market .sales ++ finishing args saleListing).Obeys elsewhere := by
      rw [parts_sales]
      exact ((obeys_saleParties args market).append (unasked.append (obeys_saleRest args))).append
        (obeys_finishing args)
    have base : (ofString saleBase).Spares 'f' := by decide +kernel
    have spared : FilledText.Spares 'f' ((Kind.parts args market .sales ++
      finishing args saleListing).text saleBase) := obeyed.text base
    intro mentioned
    have sql : s.items.sql.toList = s.items.text.chars := by
      rw [Statement.sql, SqlText.render, String.toList_ofList]
    have letter : 'f' ∈ s.items.text.chars := sql ▸ mentioned.subset (by decide)
    have shown := SqlText.mem_signs_filled (by decide) (by decide) s.items.params letter
    rw [htext] at shown
    exact spared shown

/-- An owner, a flag of the template and an attribute, all of the assets on offer. -/
def transferable : Arguments := .ofList [("data.rarity", .text "rare"),
  ("is_transferable", .text "true"), ("owner", .text "alice"), ("seller", .text "bob")]

/-- A seller, and nothing of the assets on offer. -/
def sold : Arguments := .ofList [("seller", .text "bob")]

theorem sales_ask_of_offered_transferable :
    (∃ s join asked values, sales transferable "atomicmarket" = .ok s ∧
      AsksOffered transferable "atomicmarket" s join asked values ∧ asked.length = 3 ∧
      values = [.text "alice", .json (.object [("rarity", .string "rare")])]) ∧
    ∃ s, sales sold "atomicmarket" = .ok s ∧ AsksOffered sold "atomicmarket" s "" [] [] := by
  constructor
  · obtain ⟨s, hs⟩ := Outcome.exists_of_isOk (x := sales transferable "atomicmarket")
      (by decide +kernel)
    obtain ⟨join, asked, values, offers⟩ := sales_ask_of_offered hs
    obtain ⟨d, hd, -, rfl, rfl⟩ := offers.described ""
    have gained := gains_described hd
    refine ⟨s, join, _, _, hs, offers, ?_, ?_⟩
    · rw [gained.filledConditions_eq nofun]
      rfl
    · rw [gained.params]
      rfl
  · obtain ⟨s, hs⟩ := Outcome.exists_of_isOk (x := sales sold "atomicmarket") (by decide +kernel)
    obtain ⟨join, asked, values, offers⟩ := sales_ask_of_offered hs
    obtain ⟨d, hd, -, hasked, -⟩ := offers.described ""
    have none : asked = [] := by
      cases hd
      exact hasked.symm
    obtain ⟨rfl, rfl⟩ := offers.whole none
    rw [none] at offers
    exact ⟨s, hs, offers⟩

end Search

end BoundQuery
