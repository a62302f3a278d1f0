import BoundQuery.Proofs.Grammar
import BoundQuery.Proofs.SearchContribution

/-!
# Conditions of searches

The composers keep the conditions of a draft closed, for every argument and with the columns that
the searches give them. So the conditions of a search can be read off its statement: the text falls
apart into them, in the order they were added, and none of them spreads to its neighbours.
Main statement: `Search.closed_conditions`.
-/
namespace BoundQuery

open Nesting
open FilledText (ofString)

/-- The texts that lead from one depth of parentheses to another. -/
def Grammar.parentheses : Grammar where
  Leads := FilledText.Leads
  nil _ _ := rfl
  append := FilledText.Leads.append
  valued v hl _ h := h.append ((FilledText.sealed_value v hl).leads _)
  weaken := depthFrom_weaken
  raise := depthFrom_raise
  words := by decide

instance (letters : List Char) (m n : Nat) (t : FilledText) :
    Decidable (Grammar.parentheses.Leads letters m n t) :=
  inferInstanceAs (Decidable (FilledText.Leads letters m n t))

namespace SqlText

lemma chars_joinWith (separator : String) (ts : List SqlText) :
    chars (joinWith separator ts) = separator.toList.intercalate (ts.map chars) := by
  induction ts with
  | nil => rfl
  | cons t ts ih =>
    cases ts with
    | nil => exact (List.intercalate_singleton).symm
    | cons second ts =>
      have joined : separator.toList.intercalate ((t :: second :: ts).map chars) =
          t.chars ++ separator.toList ++
            separator.toList.intercalate ((second :: ts).map chars) :=
        List.intercalate_cons_cons
      rw [joinWith, chars_append, chars_cons, ih, joined, Piece.chars, List.append_assoc]
      exact List.cons_ne_nil _ _

end SqlText

namespace Draft

variable {k : Contribution} {d e : Draft}

/-- What the statement of a draft has after its conditions. -/
def tail (d : Draft) : List Char :=
  SqlText.chars (clause " GROUP BY " ", " (d.groups.map SqlText.ofString)) ++
    SqlText.chars (d.closing.flatMap fun t => .verbatim " " :: t)

/-- The statement of a draft that has conditions. -/
lemma chars_text (h : d.conditions ≠ []) :
    d.text.chars = d.base.toList ++ (" WHERE ".toList ++
      (" AND ".toList.intercalate (d.conditions.map fun c => c.text.chars) ++ d.tail)) := by
  obtain ⟨c, cs, hc⟩ := List.exists_cons_of_ne_nil h
  rw [text, tail, hc, List.map_cons, clause]
  · rw [List.cons_append, List.cons_append, SqlText.chars_cons, SqlText.chars_append,
      SqlText.chars_append, SqlText.chars_cons, SqlText.chars_joinWith]
    simp [Piece.chars, Function.comp_def]
  · exact List.cons_ne_nil _ _

/-- The conditions gained from a contribution with balanced parentheses are sealed. -/
lemma Gains.sealed_conditions (h : Gains k d e) (hk : k.Obeys .parentheses) :
    ∃ more, e.conditions = d.conditions ++ more ∧
      ∀ c ∈ more, Nesting.Sealed reserved c.text.chars := by
  obtain ⟨more, hmore, hfilled⟩ := h.exists_conditions
  refine ⟨more, hmore, fun c hc => ?_⟩
  have shown : (c.text.filled e.params).Sealed reserved := by
    apply hk.conditions
    rw [← hfilled]
    exact List.mem_map_of_mem hc
  exact (SqlText.sealed_chars_iff (by decide)).mpr shown

/-- The conditions of a draft are followed by a clause of their statement, or by nothing. -/
lemma tail_follows (h : ∀ t ∈ d.closing, ∃ word ∈ followers, word <+: ' ' :: t.chars) :
    d.tail = [] ∨ ∃ word ∈ followers, word <+: d.tail := by
  unfold tail
  cases d.groups with
  | cons column columns =>
    refine .inr ⟨" GROUP BY ".toList, by decide, ?_⟩
    rw [List.map_cons, clause, SqlText.chars_cons, List.append_assoc]
    · exact List.prefix_append _ _
    · exact List.cons_ne_nil _ _
  | nil =>
    cases hclosing : d.closing with
    | nil => exact .inl rfl
    | cons t ts =>
      obtain ⟨word, hword, hprefix⟩ := h t (by simp [hclosing])
      refine .inr ⟨word, hword, hprefix.trans ?_⟩
      exact ⟨SqlText.chars (ts.flatMap fun t => .verbatim " " :: t), by simp [clause, Piece.chars]⟩

end Draft

/-! ### Statements of searches -/

/-- A balanced statement that falls apart into some conditions, with no disjunction of them outside
of parentheses. -/
structure Statement.Splits (sql : List Char) (conditions : List Condition) : Prop where
  balanced : Nesting.Balanced sql
  conjuncts : Nesting.conjuncts sql = conditions.map fun c => c.text.chars
  apart : ∀ before after, whereClause sql = before ++ " OR ".toList ++ after →
    depth before ≠ some 0

namespace Draft

variable {k : Contribution} {d : Draft} {base : String}

/-- The statement of a draft that gained such a contribution falls apart into its conditions. -/
theorem Gains.splits (h : Gains k (ofBase base) d) (hk : k.Obeys .parentheses)
    (hbase : (ofString base).Sealed ['W']) (hne : k.conditions ≠ [])
    (hclosing : ∀ t ∈ d.closing, ∃ word ∈ followers, word <+: ' ' :: t.chars) :
    Statement.Splits d.text.chars d.conditions := by
  obtain ⟨more, hmore, hsealed⟩ := h.sealed_conditions hk
  have added : d.conditions = more := hmore
  have some_added : d.conditions ≠ [] := by
    obtain ⟨more', hmore', hfilled⟩ := h.exists_conditions
    have same : d.conditions = more' := hmore'
    rintro hnil
    rw [← same, hnil] at hfilled
    exact hne hfilled.symm
  have parts : ∀ part ∈ d.conditions.map fun c => c.text.chars, Nesting.Sealed reserved part := by
    rw [added]
    exact List.forall_mem_map.mpr hsealed
  have started : Nesting.Sealed ['W'] d.base.toList := by
    have based : (ofString d.base).Sealed ['W'] := by
      rw [h.base]
      exact Grammar.parentheses.concat hbase hk.base
    rwa [FilledText.Sealed, FilledText.signs_ofString] at based
  have follows := d.tail_follows hclosing
  have shown := h.shows_text
  rw [chars_text some_added]
  exact {
    balanced := by
      rw [← chars_text some_added]
      have balanced : (d.text.filled d.params).Balanced := by
        rw [shown.filled]
        exact hk.text hbase.balanced
      exact (SqlText.sealed_chars_iff (by decide)).mpr balanced
    conjuncts := conjuncts_eq started (by simpa using some_added) parts follows
    apart := by
      rw [whereClause_eq started parts follows]
      intro before after split
      have joined : Nesting.Sealed ['R'] (" AND ".toList.intercalate
          (d.conditions.map fun c => c.text.chars)) :=
        Nesting.Sealed.intercalate (by decide) fun part hm => (parts part hm).weaken (by decide)
      exact joined.outside (s := " O".toList) (c := 'R') (by decide) (by decide) rfl split }

end Draft

namespace Search

open BoundQuery.Draft BoundQuery.Filter
open Contribution

variable {args : Arguments} {contract : String} {d : Draft} {s : Search}

/-- The conditions of a draft are closed, and the page and the count of a search both fall apart
into them; the statement that is counted stands in parentheses. -/
structure ShowsConditions (s : Search) (d : Draft) : Prop where
  closed : ∀ c ∈ d.conditions, Closed c.text.chars
  items : Statement.Splits s.items.sql.toList d.conditions
  count : ∃ counted,
    s.count.sql.toList = "SELECT COUNT(*) FROM (".toList ++ counted ++ ") x".toList ∧
    Statement.Splits counted d.conditions
  balanced_count : Nesting.Balanced s.count.sql.toList

/-- The clause of an order starts with its keyword. -/
lemma sort_closing {listing : Listing} {sorted : Draft} (h : sort args listing d = .ok sorted) :
    ∃ clause, sorted = d.close clause ∧ " ORDER BY ".toList <+: ' ' :: SqlText.chars clause := by
  obtain ⟨⟨column, order⟩, -, rfl⟩ := Outcome.map_eq_ok.mp h
  refine ⟨_, rfl, ?_⟩
  rw [Listing.orderKeys, List.map_cons, clause, SqlText.chars_cons]
  · exact List.prefix_append " ORDER BY ".toList _
  · exact List.cons_ne_nil _ _

/-- A search finished from a draft with balanced parentheses that is open for its order and its page
shows the conditions of the draft. -/
theorem showsConditions_of_finish {k : Contribution} {base : String} {listing : Listing}
    (hgains : Gains k (ofBase base) d) (hk : k.Obeys .parentheses) (hclosing : k.closing = [])
    (hbase : (ofString base).Sealed ['W']) (hne : k.conditions ≠ [])
    (hlisting : Grammar.parentheses.Admits listing.texts) (h : finish args listing d = .ok s) :
    s.ShowsConditions d := by
  obtain ⟨sorted, paged, hsorted, hpaged, rfl⟩ := finish_eq_ok_iff.mp h
  have gained : Gains (k ++ finishing args listing) (ofBase base) paged :=
    hgains.trans (gains_finish hsorted hpaged)
  have finished : (finishing args listing).Obeys .parentheses := by
    rw [← contribution_finishPlan]
    exact Plan.obeys fun t ht => hlisting t (texts_finishPlan listing ht)
  obtain ⟨order, rfl, hfollows⟩ := sort_closing hsorted
  obtain ⟨rows, -, rfl⟩ := paginate_eq_ok.mp hpaged
  have unclosed : d.closing = [] := hgains.closing_eq hclosing
  have counted : Statement.Splits d.text.chars d.conditions :=
    hgains.splits hk hbase hne (by simp [unclosed])
  have asked : (k ++ finishing args listing).conditions ≠ [] := by simp [hne]
  have items := gained.splits (hk.append finished) hbase asked (by
    intro t ht
    simp only [close, cut, unclosed, List.nil_append, List.singleton_append, List.mem_cons,
      List.not_mem_nil, or_false] at ht
    rcases ht with rfl | rfl
    · exact ⟨" ORDER BY ".toList, by decide, hfollows⟩
    · exact ⟨" LIMIT ".toList, by decide, List.prefix_append " LIMIT ".toList _⟩)
  have count : (d.statement.toCount).sql.toList =
      "SELECT COUNT(*) FROM (".toList ++ d.text.chars ++ ") x".toList := by
    simp [Statement.sql, Statement.toCount, Draft.statement, SqlText.render, Piece.chars]
  obtain ⟨more, hmore, hsealed⟩ := hgains.sealed_conditions hk
  have added : d.conditions = more := hmore
  exact {
    closed := by
      rw [added]
      exact fun c hc => (hsealed c hc).closed
    items := by
      rw [Statement.sql, SqlText.render, String.toList_ofList]
      exact items
    count := ⟨_, count, counted⟩
    balanced_count := by
      have opened : depthFrom [] (some 0) "SELECT COUNT(*) FROM (".toList = some 1 := by decide
      have inner : depthFrom [] (some 1) d.text.chars = some 1 := depthFrom_raise counted.balanced
      have closed : depthFrom [] (some 1) ") x".toList = some 0 := by decide
      rw [Nesting.Balanced, depth, count, depthFrom_append, depthFrom_append, opened, inner,
        closed] }

/-! ### Columns of the searches -/

/-- The filters with the columns they have by default and those that the searches give them. -/
def filters (now : Int64) : List Composer :=
  [
    .asset {}, .attributes {}, .price {}, .drop {} now,
    .lists {}, .lists ⟨some "asset.collection_name", ["asset.owner"]⟩,
    .lists ⟨some "asset.collection_name", []⟩, .lists ⟨some "ndrop.collection_name", []⟩,
    .lists ⟨some "listing.collection_name", ["listing.seller", "listing.buyer"]⟩,
    .window ⟨"asset.asset_id", some "asset.minted_at_time"⟩,
    .window ⟨"ndrop.drop_id", some "ndrop.created_at_time"⟩,
    .window ⟨"listing.sale_id", some "listing.created_at_time"⟩
  ]

/-- The texts of the searches are sealed where they stand. -/
lemma parentheses_texts : Grammar.parentheses.Admits (texts ++ DropColumns.texts {}) := by
  have sealed : (texts ++ DropColumns.texts {}).all (fun t =>
      decide (Grammar.parentheses.Fits t.1 (.ofChars (asciiChars t.2)))) = true := by decide +kernel
  intro t ht
  rw [ofString, toList_eq_asciiChars (ascii_texts t ht)]
  exact of_decide_eq_true (List.all_eq_true.mp sealed t ht)

lemma parentheses_filters (now : Int64) :
    ∀ composer ∈ filters now, Grammar.parentheses.Admits composer.texts := by
  have part {places : List (Place × String)} (h : places ∈ partTexts) :
      Grammar.parentheses.Admits places := fun t ht =>
    parentheses_texts t (List.mem_append_left _ (subset_texts h ht))
  have states : Grammar.parentheses.Admits (DropColumns.texts {}) := fun t ht =>
    parentheses_texts t (List.mem_append_right _ ht)
  have assets : Grammar.parentheses.Admits (AssetColumns.texts {}) := part (by simp [partTexts])
  have attributes : Grammar.parentheses.Admits (AssetColumns.attributeTexts {}) :=
    part (by simp [partTexts])
  simp only [filters, List.forall_mem_cons]
  refine ⟨assets, attributes, ?_, states, ?_, ?_, ?_, ?_, ?_, ?_, ?_, ?_, List.forall_mem_nil _⟩
  all_goals decide

/-- A filter leaves the conditions of a draft closed. -/
theorem closed_of_apply {now : Int64} {composer : Composer} {e : Draft}
    (hm : composer ∈ filters now) (h : composer.apply args d = .ok e)
    (hd : ∀ c ∈ d.conditions, Closed c.text.chars) :
    d.conditions <+: e.conditions ∧ ∀ c ∈ e.conditions, Closed c.text.chars := by
  have obeyed : (composer.contribution args).Obeys .parentheses :=
    Plan.obeys fun t ht => parentheses_filters now composer hm t (composer.texts_plan args ht)
  obtain ⟨more, hmore, hsealed⟩ := (Composer.gains_apply h).sealed_conditions obeyed
  rw [hmore]
  exact ⟨List.prefix_append _ _,
    List.forall_mem_append.mpr ⟨hd, fun c hc => (hsealed c hc).closed⟩⟩

/-! ### Searches -/

namespace Kind

lemma sealed_base (kind : Kind) : (ofString kind.base).Sealed ['W'] := by
  cases kind with
  | assets => exact (by decide : (ofString assetBase).Sealed ['W'])
  | collections => exact (by decide : (ofString collectionBase).Sealed ['W'])
  | drops now => exact (by decide : (ofString dropBase).Sealed ['W'])
  | sales => exact (by decide +kernel : (ofString saleBase).Sealed ['W'])

lemma parentheses_listing (kind : Kind) : Grammar.parentheses.Admits kind.listing.texts := by
  cases kind with
  | assets => exact (by decide : Grammar.parentheses.Admits assetListing.texts)
  | collections => exact (by decide : Grammar.parentheses.Admits collectionListing.texts)
  | drops now => exact (by decide : Grammar.parentheses.Admits dropListing.texts)
  | sales => exact (by decide : Grammar.parentheses.Admits saleListing.texts)

/-- The page and the count of a search show the conditions of its draft. -/
theorem showsConditions_of_run (kind : Kind) (h : kind.run args contract = .ok s) :
    ∃ d, kind.draft args contract = .ok d ∧ s.ShowsConditions d := by
  obtain ⟨d, hd, hfinish⟩ := run_eq_ok.mp h
  have obeyed : (kind.parts args contract).Obeys .parentheses :=
    Plan.obeys fun t ht => parentheses_texts t (kind.texts_plan ht)
  have unclosed : (kind.parts args contract).Lacks .closing :=
    Plan.lacks fun t ht => unfinished_texts t (kind.texts_plan ht)
  have asked : (kind.parts args contract).conditions ≠ [] := by
    cases kind <;> exact List.cons_ne_nil _ _
  exact ⟨d, hd, showsConditions_of_finish (gains_draft hd) obeyed unclosed kind.sealed_base asked
    kind.parentheses_listing hfinish⟩

end Kind

/-- Every filter, with its default columns and with those of the searches, keeps the conditions of
a draft closed and only adds to them. So the page and the count of every search fall apart into the
conditions of its draft, in the order they were added. -/
theorem closed_conditions (args : Arguments) (contract : String) (now : Int64) :
    (∀ composer ∈ filters now, ∀ d e, composer.apply args d = .ok e →
      (∀ c ∈ d.conditions, Closed c.text.chars) →
        d.conditions <+: e.conditions ∧ ∀ c ∈ e.conditions, Closed c.text.chars) ∧
    (∀ s, assets args contract = .ok s →
      ∃ d, assetDraft args contract = .ok d ∧ s.ShowsConditions d) ∧
    (∀ s, collections args contract = .ok s →
      ∃ d, collectionDraft args contract = .ok d ∧ s.ShowsConditions d) ∧
    (∀ s, drops args contract now = .ok s →
      ∃ d, dropDraft args contract now = .ok d ∧ s.ShowsConditions d) ∧
    ∀ s, sales args contract = .ok s →
      ∃ d, saleDraft args contract = .ok d ∧ s.ShowsConditions d :=
  ⟨fun _ hm _ _ h hd => closed_of_apply hm h hd,
    fun _ h => Kind.showsConditions_of_run .assets h,
    fun _ h => Kind.showsConditions_of_run .collections h,
    fun _ h => Kind.showsConditions_of_run (.drops now) h,
    fun _ h => Kind.showsConditions_of_run .sales h⟩

/-- Arguments that are asked for by disjunctions: accounts, states and attributes. -/
def crowded : Arguments := .ofList [("account_blacklist", .text "carol"),
  ("account_whitelist", .text "alice,bob"), ("authorized_account", .text "dan"),
  ("data.name", .text "Rock"), ("is_burnable", .text "true"), ("state", .text "active,ended")]

theorem closed_conditions_crowded :
    (∃ e, (Composer.drop {} 1000).apply crowded (ofBase "SELECT") = .ok e ∧
      ∀ c ∈ e.conditions, Closed c.text.chars) ∧
    (∃ s d, assets crowded "eosio" = .ok s ∧ assetDraft crowded "eosio" = .ok d ∧
      s.ShowsConditions d) ∧
    (∃ s d, collections crowded "eosio" = .ok s ∧ collectionDraft crowded "eosio" = .ok d ∧
      s.ShowsConditions d) ∧
    (∃ s d, drops crowded "eosio" 1000 = .ok s ∧ dropDraft crowded "eosio" 1000 = .ok d ∧
      s.ShowsConditions d) ∧
    ∃ s d, sales crowded "eosio" = .ok s ∧ saleDraft crowded "eosio" = .ok d ∧
      s.ShowsConditions d := by
  obtain ⟨composers, ofAssets, ofCollections, ofDrops, ofSales⟩ :=
    closed_conditions crowded "eosio" 1000
  obtain ⟨e, he⟩ : ∃ e, (Composer.drop {} 1000).apply crowded (ofBase "SELECT") = .ok e := ⟨_, rfl⟩
  obtain ⟨a, ha⟩ := Outcome.exists_of_isOk (x := assets crowded "eosio") (by decide +kernel)
  obtain ⟨c, hc⟩ := Outcome.exists_of_isOk (x := collections crowded "eosio") (by decide +kernel)
  obtain ⟨d, hd⟩ := Outcome.exists_of_isOk (x := drops crowded "eosio" 1000) (by decide +kernel)
  obtain ⟨s, hs⟩ := Outcome.exists_of_isOk (x := sales crowded "eosio") (by decide +kernel)
  have offered : Composer.drop {} 1000 ∈ filters 1000 := by simp [filters]
  obtain ⟨-, closed⟩ := composers _ offered _ _ he nofun
  obtain ⟨da, hda, showsA⟩ := ofAssets a ha
  obtain ⟨dc, hdc, showsC⟩ := ofCollections c hc
  obtain ⟨dd, hdd, showsD⟩ := ofDrops d hd
  obtain ⟨ds, hds, showsS⟩ := ofSales s hs
  exact ⟨⟨e, he, closed⟩, ⟨a, da, ha, hda, showsA⟩, ⟨c, dc, hc, hdc, showsC⟩,
    ⟨d, dd, hd, hdd, showsD⟩, ⟨s, ds, hs, hds, showsS⟩⟩

end Search

end BoundQuery
