import BoundQuery.Proofs.FilterGrowth
import BoundQuery.Proofs.SearchPlans

/-!
# Contiguous placeholders of searches

The placeholders scanned from the text of a search count upwards from one to the number
of its values: none stands for nothing, and no value is unused. The only exception is a
search for sold out drops and no others, which binds the instant and never mentions it.
Main statement: `Search.contiguous`.
-/
namespace BoundQuery

open BoundQuery.Draft BoundQuery.Filter

namespace Statement

/-- The ordinals of the placeholder tokens in the text of a statement. -/
def references (s : Statement) : List Nat := SqlToken.references s.sql.toList

/-- The references are the ordinals of the values, and they are first met in order. -/
structure Contiguous (s : Statement) : Prop where
  mem_iff : ∀ n, n ∈ s.references ↔ 1 ≤ n ∧ n ≤ s.params.length
  first_met : s.references.eraseDups = List.range' 1 s.params.length

/-- A value is not referred to, and the references are contiguous but for it. -/
def LeavesOut (s : Statement) (v : Value) : Prop :=
  ∃ p : Placeholder, p.value? s.params = some v ∧
    s.references.eraseDups = (List.range' 1 s.params.length).erase p.ordinal

theorem contiguous_of_numbered {s : Statement} (h : Numbered 0 s.params.length s.references) :
    s.Contiguous where
  mem_iff n := by
    rw [h.mem_iff]
    omega
  first_met := h.2

lemma LeavesOut.not_contiguous {s : Statement} {v : Value} (h : s.LeavesOut v) :
    ¬ s.Contiguous := by
  intro contiguous
  obtain ⟨⟨_ | index⟩, hvalue, hgap⟩ := h
  · exact absurd hvalue (by simp)
  · obtain ⟨hlt, -⟩ := List.getElem?_eq_some_iff.mp hvalue
    rw [contiguous.first_met] at hgap
    have member : index + 1 ∈ List.range' 1 s.params.length := by
      rw [List.mem_range'_1]
      omega
    rw [hgap] at member
    exact List.Nodup.not_mem_erase List.nodup_range' member

lemma references_of_delimited {s : Statement} (h : s.text.Delimited false) :
    s.references = s.text.ordinals := by
  rw [references, sql, SqlText.render, String.toList_ofList, h.references_chars]

end Statement

/-- Counting goes on after one ordinal is skipped. -/
lemma eraseDups_gap {m n : Nat} {s t : List Nat} (hs : Numbered 0 m s)
    (ht : Numbered (m + 1) n t) :
    (s ++ t).eraseDups = (List.range' 1 n).erase (m + 1) := by
  have disjoint : ∀ k ∈ t, k ∉ s := by
    intro k hk hks
    have above := (ht.mem_iff.mp hk).1
    have below := (hs.mem_iff.mp hks).2
    omega
  have hmn := ht.1
  have split : List.range' 1 n =
      List.range' 1 m ++ (m + 1) :: List.range' (m + 2) (n - (m + 1)) := by
    have parts := @List.range'_append_1 1 m (n - m)
    rw [show m + (n - m) = n by omega, show n - m = n - (m + 1) + 1 by omega,
      List.range'_succ, Nat.add_comm 1 m] at parts
    exact parts.symm
  have skipped : m + 1 ∉ List.range' 1 m := by
    rw [List.mem_range'_1]
    omega
  rw [eraseDups_append_of_disjoint disjoint, hs.2, ht.2, split,
    List.erase_append_right _ skipped, List.erase_cons_head]
  rfl

/-- A statement whose references skip one value leaves that value out. -/
lemma Statement.leavesOut_of_gap {s : Statement} {v : Value} {m : Nat} {before rows : List Nat}
    (hb : Numbered 0 m before) (hr : Numbered (m + 1) s.params.length rows)
    (href : s.references = before ++ rows) (hv : s.params[m]? = some v) : s.LeavesOut v :=
  ⟨⟨m + 1⟩, hv, by rw [href, eraseDups_gap hb hr]⟩

namespace Draft

/-! ### Finished drafts -/

/-- The ordinals in the conditions of a draft, in order. -/
def ordinals (d : Draft) : List Nat := d.conditions.flatMap fun c => c.text.ordinals

/-- A draft whose parts are delimited and which has no closing clause yet. -/
structure Tidy (d : Draft) : Prop where
  base : Plain d.base
  conditions : ∀ c ∈ d.conditions, c.text.Delimited false
  groups : ∀ g ∈ d.groups, Plain g
  closing : d.closing = []

lemma tidy_ofBase {base : String} (h : Plain base) : (ofBase base).Tidy :=
  ⟨h, nofun, nofun, rfl⟩

lemma Tidy.grows {d e : Draft} (h : d.Tidy) (hg : d.Grows e) : e.Tidy where
  base := by
    obtain ⟨more, hmore, hbase⟩ := hg.base
    rw [hbase]
    exact h.base.append hmore
  conditions := by
    obtain ⟨more, hconditions, hd, -⟩ := hg.conditions
    intro c hc
    rw [hconditions] at hc
    exact (List.mem_append.mp hc).elim (h.conditions c) (hd c)
  groups := by
    obtain ⟨more, hgroups, hmore⟩ := hg.groups
    rw [hgroups]
    exact List.forall_mem_append.mpr ⟨h.groups, hmore⟩
  closing := by rw [hg.closing, h.closing]

/-- What growth adds is numbered from the values bound before. -/
lemma Grows.exists_ordinals {d e : Draft} (hg : d.Grows e) :
    ∃ more, e.ordinals = d.ordinals ++ more ∧ Numbered d.params.length e.params.length more := by
  obtain ⟨more, hconditions, -, hn⟩ := hg.conditions
  exact ⟨_, by rw [ordinals, hconditions, List.flatMap_append, ordinals], hn⟩

/-- A draft that grew from nothing has all its values numbered. -/
lemma Grows.numbered {base : String} {d : Draft} (h : (ofBase base).Grows d) :
    Numbered 0 d.params.length d.ordinals := by
  obtain ⟨more, hmore, hn⟩ := h.exists_ordinals
  rw [hmore]
  exact hn

end Draft

/-! ### Order and pages -/

/-- The columns of a listing hold no dollar sign. -/
structure Filter.Listing.Plain (listing : Listing) : Prop where
  columns : ∀ entry ∈ listing.columns, BoundQuery.Plain entry.2
  tiebreak : ∀ column ∈ listing.tiebreak, BoundQuery.Plain column

lemma delimited_orderKey {key : OrderKey} (h : Plain key.column) : key.text.Delimited false := by
  have space : Plain " " := by decide
  have order : Plain key.order.sql := by
    cases key.order with
    | asc => decide
    | desc => decide
  have nulls : Plain (if key.nullsLast then " NULLS LAST" else "") := by
    cases key.nullsLast with
    | false => decide
    | true => decide
  exact ⟨((h.append space).append order).append nulls, nofun, trivial⟩

/-- The clause that orders the rows. -/
def orderClause (listing : Listing) (column : String) (order : SortOrder) : SqlText :=
  clause "ORDER BY " ", " ((listing.orderKeys column order).map OrderKey.text)

lemma orderClause_spec {listing : Listing} (hl : listing.Plain) {column : String}
    (hc : Plain column) (order : SortOrder) :
    (orderClause listing column order).Delimited false ∧
      (orderClause listing column order).ordinals = [] := by
  have keys : ∀ key ∈ listing.orderKeys column order, Plain key.column := by
    intro key hk
    rcases Listing.column_of_mem_orderKeys hk with same | tiebreak
    · rwa [same]
    · exact hl.tiebreak _ tiebreak
  constructor
  · apply (delimited_clause (by decide) (by decide) (by decide) (by decide) _).weaken
    intro t ht
    obtain ⟨key, hk, rfl⟩ := List.mem_map.mp ht
    exact delimited_orderKey (keys key hk)
  · rw [orderClause, ordinals_clause, List.flatMap_map, List.flatMap_eq_nil_iff]
    intro key _
    rfl

/-- A column is offered under its key or not at all. -/
lemma plain_columnFor {listing : Listing} (hl : listing.Plain) {key column : String}
    (h : listing.columnFor key = .ok column) : Plain column := by
  obtain ⟨entry, hm, rfl⟩ := List.mem_map.mp (Listing.mem_columns_of_columnFor h)
  exact hl.columns entry hm

namespace Search

variable {args : Arguments} {listing : Listing}

/-- A finished search is a page of the ordered draft together with the count of the draft. -/
theorem finish_eq_ok_iff {d : Draft} {s : Search} :
    finish args listing d = .ok s ↔ ∃ sorted paged, sort args listing d = .ok sorted ∧
      page args listing sorted = .ok paged ∧ s = ⟨paged.statement, d.statement.toCount⟩ := by
  simp only [finish, Outcome.bind_eq_ok, Outcome.orError_eq_ok, Outcome.orFault_eq_ok,
    Outcome.pure_eq_ok, eq_comm (a := s)]
  tauto

theorem finish_eq_ok {d : Draft} {s : Search} (h : finish args listing d = .ok s) :
    ∃ key column order limit rows, listing.columnFor key = .ok column ∧
      s = ⟨((d.close (orderClause listing column order)).cut limit rows).statement,
        d.statement.toCount⟩ := by
  obtain ⟨sorted, paged, hsorted, hpaged, hs⟩ := finish_eq_ok_iff.mp h
  obtain ⟨⟨column, order⟩, hrequested, rfl⟩ := Outcome.map_eq_ok.mp hsorted
  obtain ⟨rows, -, rfl⟩ := paginate_eq_ok.mp hpaged
  obtain ⟨column', hcolumn, hrequested⟩ := Outcome.bind_eq_ok.mp hrequested
  obtain ⟨order', -, hpair⟩ := Outcome.bind_eq_ok.mp hrequested
  cases hpair
  exact ⟨_, column, order, _, rows, hcolumn, hs⟩

lemma delimited_toCount {s : Statement} (h : s.text.Delimited false) :
    s.toCount.text.Delimited false := by
  have closed : SqlText.Delimited true [.verbatim ") x"] :=
    ⟨by decide, fun _ => by decide, trivial⟩
  exact ⟨by decide, nofun, h.append closed⟩

/-- The statement that counts refers to what the statement counted refers to. -/
lemma references_toCount {s : Statement} (h : s.text.Delimited false) :
    s.toCount.references = s.text.ordinals := by
  rw [Statement.references_of_delimited (delimited_toCount h)]
  simp [Statement.toCount]

lemma delimited_pageClause (p q : Placeholder) :
    SqlText.Delimited false
      [.verbatim "LIMIT ", .placeholder p, .verbatim " OFFSET ", .placeholder q] :=
  ⟨by decide, nofun, by decide, fun _ => by decide, trivial⟩

/-- The closing clauses of a page of an ordered draft. -/
lemma closing_paged {d : Draft} (hd : d.Tidy) (column : String) (order : SortOrder)
    (limit rows : Int64) :
    ((d.close (orderClause listing column order)).cut limit rows).closing =
      [orderClause listing column order, [.verbatim "LIMIT ", .placeholder ⟨d.params.length + 1⟩,
        .verbatim " OFFSET ", .placeholder ⟨d.params.length + 2⟩]] := by
  simp [cut, close, hd.closing]

lemma delimited_paged (hl : listing.Plain) {d : Draft} (hd : d.Tidy) {column : String}
    (hc : Plain column) (order : SortOrder) (limit rows : Int64) :
    ((d.close (orderClause listing column order)).cut limit rows).text.Delimited false := by
  apply delimited_text
  · exact hd.base
  · exact hd.conditions
  · exact hd.groups
  · rw [closing_paged hd]
    intro t ht
    rcases List.mem_pair.mp ht with rfl | rfl
    · exact (orderClause_spec hl hc order).1
    · exact delimited_pageClause _ _

/-- The page of a finished search is delimited. -/
theorem delimited_items (hl : listing.Plain) {d : Draft} (hd : d.Tidy) {s : Search}
    (h : finish args listing d = .ok s) : s.items.text.Delimited false := by
  obtain ⟨key, column, order, limit, rows, hcolumn, rfl⟩ := finish_eq_ok h
  exact delimited_paged hl hd (plain_columnFor hl hcolumn) order limit rows

/-- The count refers to what the conditions refer to, and the page to the two values that cut
it out as well. -/
theorem finish_references (hl : listing.Plain) {d : Draft} (hd : d.Tidy) {s : Search}
    (h : finish args listing d = .ok s) :
    s.count.references = d.ordinals ∧ s.count.params = d.params ∧
      s.items.references = d.ordinals ++ [d.params.length + 1, d.params.length + 2] ∧
      ∃ limit rows, s.items.params = d.params ++ [limit, rows] := by
  obtain ⟨key, column, order, limit, rows, hcolumn, rfl⟩ := finish_eq_ok h
  have offered := plain_columnFor hl hcolumn
  have hoo := (orderClause_spec hl offered order).2
  have counted : d.text.Delimited false := by
    apply delimited_text hd.base hd.conditions hd.groups
    simp [hd.closing]
  have listed := delimited_paged hl hd offered order limit rows
  refine ⟨?_, rfl, ?_, .int limit, .int rows, rfl⟩
  · rw [references_toCount counted]
    simp [statement, ordinals_text, hd.closing, Draft.ordinals]
  · rw [Statement.references_of_delimited listed]
    have same : ((d.close (orderClause listing column order)).cut limit rows).conditions =
      d.conditions := rfl
    rw [statement, ordinals_text, closing_paged hd, same, ← Draft.ordinals]
    simp [hoo]

/-- Both statements of a search are contiguous. -/
structure Contiguous (s : Search) : Prop where
  items : s.items.Contiguous
  count : s.count.Contiguous

/-- The two values of a page count on from those of the draft. -/
lemma numbered_page (n : Nat) : Numbered n (n + 2) [n + 1, n + 2] := by
  have first : Numbered n (n + 1) [n + 1] := numbered_of_forall_eq (by simp) (by simp)
  have second : Numbered (n + 1) (n + 2) [n + 2] := numbered_of_forall_eq (by simp) (by simp)
  exact first.append second

/-- A search is contiguous when the values of its draft are numbered. -/
theorem contiguous_of_finish (hl : listing.Plain) {d : Draft} (hd : d.Tidy)
    (hn : Numbered 0 d.params.length d.ordinals) {s : Search}
    (h : finish args listing d = .ok s) : s.Contiguous := by
  obtain ⟨hc, hcp, hi, limit, rows, hip⟩ := finish_references hl hd h
  constructor
  · apply Statement.contiguous_of_numbered
    rw [hi, hip, List.length_append]
    exact hn.append (numbered_page _)
  · apply Statement.contiguous_of_numbered
    rwa [hc, hcp]

/-! ### Searches -/

/-- The texts of the searches let a draft grow. -/
lemma growing_texts : ∀ t ∈ texts, Place.Growing t := by
  have places : ∀ t ∈ texts, t.1 ≠ .closing ∧ t.1 ≠ .state := by decide +kernel
  intro t ht
  exact ⟨fun sign => (bare_texts t (List.mem_append_left _ ht) _ sign).1 rfl, places t ht⟩

namespace Kind

variable {kind : Kind} {contract : String} {d : Draft}

lemma listing_plain (kind : Kind) : kind.listing.Plain := by
  cases kind with
  | assets => exact (⟨by decide, by decide⟩ : assetListing.Plain)
  | collections => exact (⟨by decide, by decide⟩ : collectionListing.Plain)
  | drops now => exact (⟨by decide, by decide⟩ : dropListing.Plain)
  | sales => exact (⟨by decide, by decide⟩ : saleListing.Plain)

lemma plain_base (kind : Kind) : Plain kind.base := by
  cases kind with
  | assets => exact (by decide +kernel : Plain assetBase)
  | collections => exact (by decide +kernel : Plain collectionBase)
  | drops now => exact (by decide +kernel : Plain dropBase)
  | sales => exact (by decide +kernel : Plain saleBase)

/-- The draft of a search for anything but drops grows from its base. -/
theorem grows_draft (hk : ∀ now, kind ≠ .drops now) (h : kind.draft args contract = .ok d) :
    (ofBase kind.base).Grows d :=
  Plan.grows_run (fun t ht => growing_texts t (texts_plan_of_ne hk ht))
    ((kind.run_plan args contract).trans h)

/-- A search for anything but drops is contiguous. -/
theorem contiguous_of_run (kind : Kind) (hk : ∀ now, kind ≠ .drops now) {s : Search}
    (h : kind.run args contract = .ok s) : s.Contiguous := by
  obtain ⟨d, hd, hfinish⟩ := run_eq_ok.mp h
  have grown := grows_draft hk hd
  exact contiguous_of_finish kind.listing_plain ((tidy_ofBase kind.plain_base).grows grown)
    grown.numbered hfinish

end Kind

end Search

/-! ### Sold out drops -/

/-- The states asked for are all the one whose condition does not mention the instant. -/
def Arguments.AsksSoldOutOnly (args : Arguments) : Prop :=
  args.list "state" ≠ [] ∧ ∀ v ∈ args.list "state", v = .text "sold_out"

namespace Filter.DropState

theorem asksSoldOutOnly_iff {args : Arguments} {states : List DropState}
    (h : requested args = .ok states) :
    args.AsksSoldOutOnly ↔ states ≠ [] ∧ ∀ state ∈ states, state = .soldOut := by
  obtain ⟨named, hlist, rfl⟩ := requested_eq_ok.mp h
  have name_iff (state : DropState) : state.name = "sold_out" ↔ state = .soldOut := by
    cases state <;> simp [name]
  have empty_iff : distinct named = [] ↔ named = [] := by
    simp only [List.eq_nil_iff_forall_not_mem, mem_distinct]
  unfold Arguments.AsksSoldOutOnly
  rw [hlist, ne_eq, ne_eq, List.map_eq_nil_iff, empty_iff]
  simp only [List.forall_mem_map, Value.text.injEq, name_iff, mem_distinct]

/-- Asking for states leaves a draft tidy, whether their conditions refer to the instant or not. -/
lemma tidy_require {c : DropColumns} (hc : c.Plain) (now : Int64) (states : List DropState)
    {d : Draft} (hd : d.Tidy) : (require c now states d).Tidy := by
  cases states with
  | nil => exact hd
  | cons first rest =>
    refine ⟨hd.base, ?_, hd.groups, hd.closing⟩
    intro condition hm
    rcases List.mem_append.mp hm with hm | hm
    · exact hd.conditions condition hm
    · rw [List.mem_singleton.mp hm]
      exact delimited_anyOf hc d.next first rest

/-- Asking for sold out drops binds the instant, which no condition refers to. -/
theorem require_soldOut {c : DropColumns} (hc : c.Plain) (now : Int64) {states : List DropState}
    (hne : states ≠ []) (h : ∀ state ∈ states, state = .soldOut) {d : Draft} (hd : d.Tidy) :
    (require c now states d).Tidy ∧ (require c now states d).ordinals = d.ordinals ∧
      (require c now states d).params = d.params ++ [.int now] := by
  obtain ⟨first, rest, rfl⟩ := List.exists_cons_of_ne_nil hne
  have silent : (anyOf c d.next first rest).text.ordinals = [] := by
    rw [ordinals_anyOf, List.flatMap_eq_nil_iff]
    intro state hm
    rw [h state hm]
    rfl
  have added : (require c now (first :: rest) d).conditions =
      d.conditions ++ [anyOf c d.next first rest] := rfl
  refine ⟨tidy_require hc now _ hd, ?_, rfl⟩
  rw [Draft.ordinals, added, List.flatMap_append, List.flatMap_singleton, silent,
    List.append_nil, Draft.ordinals]

end Filter.DropState

namespace Search

variable {args : Arguments}

lemma grows_dropStart (args : Arguments) (contract : String) :
    (ofBase dropBase).Grows (dropStart args contract) := by
  have head : dropHeadTexts ⊆ texts := subset_texts (by simp [partTexts])
  exact Plan.grows_run (fun t ht => growing_texts t (head (texts_dropHead ht))) run_dropHead

/-- The draft of drops asks for the states and grows on. -/
theorem grows_dropDraft {contract : String} {now : Int64} {d : Draft}
    (h : dropDraft args contract now = .ok d) :
    ∃ states, DropState.requested args = .ok states ∧
      (DropState.require {} now states (dropStart args contract)).Grows d := by
  obtain ⟨required, hrequired, h⟩ := Outcome.bind_eq_ok.mp h
  obtain rfl := Outcome.pure_eq_ok.mp h
  obtain ⟨states, hstates, rfl⟩ := Outcome.map_eq_ok.mp (Outcome.orError_eq_ok.mp hrequired)
  have tail : dropTailTexts ⊆ texts := subset_texts (by simp [partTexts])
  exact ⟨states, hstates,
    Plan.grows_run (fun t ht => growing_texts t (tail (texts_dropTail ht))) (run_listed _ _ _)⟩

lemma dropColumns_plain : DropColumns.Plain {} :=
  ⟨by decide, by decide, by decide, by decide⟩

theorem tidy_dropDraft {contract : String} {now : Int64} {d : Draft}
    (h : dropDraft args contract now = .ok d) : d.Tidy := by
  obtain ⟨states, -, rest⟩ := grows_dropDraft h
  have base : Plain dropBase := Kind.plain_base (.drops now)
  have start := (tidy_ofBase base).grows (grows_dropStart args contract)
  exact (DropState.tidy_require dropColumns_plain now states start).grows rest

theorem Kind.tidy_draft {kind : Kind} {contract : String} {d : Draft}
    (h : kind.draft args contract = .ok d) : d.Tidy := by
  have grown (hk : ∀ now, kind ≠ .drops now) : d.Tidy :=
    (tidy_ofBase kind.plain_base).grows (grows_draft hk h)
  cases kind with
  | drops now => exact tidy_dropDraft h
  | assets => exact grown nofun
  | collections => exact grown nofun
  | sales => exact grown nofun

/-- A search for drops in any other state is contiguous. -/
theorem drops_contiguous {contract : String} {now : Int64} {s : Search}
    (hs : ¬ args.AsksSoldOutOnly) (h : drops args contract now = .ok s) : s.Contiguous := by
  obtain ⟨d, hd, hfinish⟩ := Outcome.bind_eq_ok.mp h
  obtain ⟨states, hstates, hrest⟩ := grows_dropDraft hd
  have mentioned : ∀ state ∈ states.head?, ∃ asked ∈ states, asked ≠ .soldOut := by
    intro state hstate
    have hne : states ≠ [] := by
      intro none
      simp [none] at hstate
    rw [DropState.asksSoldOutOnly_iff hstates] at hs
    by_contra unmentioned
    push Not at unmentioned
    exact hs ⟨hne, unmentioned⟩
  have grown := (grows_dropStart args contract).trans
    ((DropState.grows_require dropColumns_plain now mentioned _).trans hrest)
  exact contiguous_of_finish (Kind.listing_plain (.drops now)) (tidy_dropDraft hd) grown.numbered
    hfinish

/-- A search for sold out drops never refers to the instant it binds. -/
theorem drops_leavesOut {contract : String} {now : Int64} {s : Search}
    (hs : args.AsksSoldOutOnly) (h : drops args contract now = .ok s) :
    s.items.LeavesOut (.int now) ∧ s.count.LeavesOut (.int now) := by
  obtain ⟨d, hd, hfinish⟩ := Outcome.bind_eq_ok.mp h
  obtain ⟨states, hstates, hrest⟩ := grows_dropDraft hd
  obtain ⟨hne, hall⟩ := (DropState.asksSoldOutOnly_iff hstates).mp hs
  have started := grows_dropStart args contract
  have start_tidy := (tidy_ofBase (Kind.plain_base (.drops now))).grows started
  have before := started.numbered
  obtain ⟨tidy, unmentioned, bound⟩ :=
    DropState.require_soldOut dropColumns_plain now hne hall start_tidy
  obtain ⟨more, hmore, after⟩ := hrest.exists_ordinals
  obtain ⟨more_params, hparams⟩ := hrest.params
  rw [unmentioned] at hmore
  rw [bound, List.length_append, List.length_singleton] at after
  rw [bound, List.append_assoc] at hparams
  obtain ⟨hc, hcp, hi, limit, rows, hip⟩ :=
    finish_references (Kind.listing_plain (.drops now)) (tidy.grows hrest) hfinish
  constructor
  · have gap := hi
    rw [hmore, List.append_assoc] at gap
    refine Statement.leavesOut_of_gap before ?_ gap ?_
    · rw [hip, List.length_append]
      exact after.append (numbered_page _)
    · simp [hip, hparams]
  · refine Statement.leavesOut_of_gap before ?_ (hc.trans hmore) ?_
    · rwa [hcp]
    · simp [hcp, hparams]

/-- A search that is given is contiguous, unless it is for sold out drops and no others: then
the one value that is not referred to is the instant. -/
theorem contiguous (args : Arguments) (contract : String) (now : Int64) :
    (∀ s, assets args contract = .ok s → s.Contiguous) ∧
      (∀ s, collections args contract = .ok s → s.Contiguous) ∧
      (∀ s, sales args contract = .ok s → s.Contiguous) ∧
      ∀ s, drops args contract now = .ok s →
        (s.items.Contiguous ↔ ¬ args.AsksSoldOutOnly) ∧
        (s.count.Contiguous ↔ ¬ args.AsksSoldOutOnly) ∧
        (args.AsksSoldOutOnly → s.items.LeavesOut (.int now) ∧ s.count.LeavesOut (.int now)) := by
  refine ⟨fun s h => ?_, fun s h => ?_, fun s h => ?_, ?_⟩
  · exact Kind.contiguous_of_run .assets nofun h
  · exact Kind.contiguous_of_run .collections nofun h
  · exact Kind.contiguous_of_run .sales nofun h
  · intro s h
    have silent := fun hs => drops_leavesOut hs h
    refine ⟨⟨?_, ?_⟩, ⟨?_, ?_⟩, silent⟩
    · intro items hs
      exact (silent hs).1.not_contiguous items
    · intro hs
      exact (drops_contiguous hs h).items
    · intro count hs
      exact (silent hs).2.not_contiguous count
    · intro hs
      exact (drops_contiguous hs h).count

/-- One search of each kind, and one for drops that are sold out. -/
theorem contiguous_unless_sold_out :
    (∃ s, assets (.ofList [("owner", .text "alice,bob")]) "c" = .ok s ∧ s.Contiguous) ∧
      (∃ s, collections (.ofList [("authorized_account", .text "alice")]) "c" = .ok s ∧
        s.Contiguous) ∧
      (∃ s, sales (.ofList [("seller", .text "bob"), ("owner", .text "alice")]) "c" = .ok s ∧
        s.Contiguous) ∧
      (∃ s, drops (.ofList [("state", .text "active,sold_out")]) "c" 1000 = .ok s ∧
        s.items.Contiguous ∧ s.count.Contiguous) ∧
      ∃ s, drops (.ofList [("state", .text "sold_out")]) "c" 1000 = .ok s ∧
        s.items.LeavesOut (.int 1000) ∧ ¬ s.items.Contiguous := by
  have mixed : ¬ (Arguments.ofList [("state", .text "active,sold_out")]).AsksSoldOutOnly := by
    have asked : (Arguments.ofList [("state", .text "active,sold_out")]).list "state" =
      [.text "active", .text "sold_out"] := rfl
    simp [Arguments.AsksSoldOutOnly, asked]
  have only : (Arguments.ofList [("state", .text "sold_out")]).AsksSoldOutOnly := by
    have asked : (Arguments.ofList [("state", .text "sold_out")]).list "state" =
      [.text "sold_out"] := rfl
    simp [Arguments.AsksSoldOutOnly, asked]
  obtain ⟨owned, howned⟩ : ∃ s, assets (.ofList [("owner", .text "alice,bob")]) "c" = .ok s :=
    ⟨_, rfl⟩
  obtain ⟨grouped, hgrouped⟩ : ∃ s,
      collections (.ofList [("authorized_account", .text "alice")]) "c" = .ok s := ⟨_, rfl⟩
  obtain ⟨sold, hsold⟩ : ∃ s,
      sales (.ofList [("seller", .text "bob"), ("owner", .text "alice")]) "c" = .ok s := ⟨_, rfl⟩
  obtain ⟨dropped, hdropped⟩ : ∃ s,
      drops (.ofList [("state", .text "active,sold_out")]) "c" 1000 = .ok s := ⟨_, rfl⟩
  obtain ⟨gone, hgone⟩ : ∃ s,
      drops (.ofList [("state", .text "sold_out")]) "c" 1000 = .ok s := ⟨_, rfl⟩
  obtain ⟨hitems, hcount, -⟩ := (contiguous _ _ _).2.2.2 dropped hdropped
  obtain ⟨hunless, -, hsilent⟩ := (contiguous _ _ _).2.2.2 gone hgone
  refine ⟨⟨owned, howned, (contiguous _ _ 0).1 _ howned⟩,
    ⟨grouped, hgrouped, (contiguous _ _ 0).2.1 _ hgrouped⟩,
    ⟨sold, hsold, (contiguous _ _ 0).2.2.1 _ hsold⟩,
    ⟨dropped, hdropped, hitems.mpr mixed, hcount.mpr mixed⟩,
    ⟨gone, hgone, (hsilent only).1, ?_⟩⟩
  intro h
  exact hunless.mp h only

end Search

end BoundQuery
