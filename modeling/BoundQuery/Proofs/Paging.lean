import BoundQuery.Proofs.Conjuncts
import BoundQuery.Proofs.RowOrder
import BoundQuery.Proofs.Lookups

/-!
# Pages and the count

The page and the count of a search are of one query: the count wraps its text, and the page orders
its rows and cuts them by two values of its own. The other pages of the search differ from it in
those values only. As the last key of the order tells all rows apart, the pages one after the other
are all rows of the query, in order and each once. Main statement: `Search.Kind.pages_and_count`.
-/
namespace BoundQuery

open BoundQuery.Draft BoundQuery.Filter

/-! ### Texts -/

namespace SqlText

@[simp] lemma render_append (s t : SqlText) : render (s ++ t) = render s ++ render t := by
  simp [render]

@[simp] lemma render_cons (p : Piece) (t : SqlText) :
    render (p :: t) = String.ofList p.chars ++ render t := by
  simp [render]

lemma render_joinWith (separator : String) (ts : List SqlText) :
    render (joinWith separator ts) = separator.intercalate (ts.map render) := by
  rw [← String.toList_inj, render, String.toList_ofList, chars_joinWith,
    String.toList_intercalate, List.map_map]
  simp [Function.comp_def, render]

lemma render_clause (keyword separator : String) {ts : List SqlText} (h : ts ≠ []) :
    render (Draft.clause keyword separator ts) =
      keyword ++ separator.intercalate (ts.map render) := by
  obtain ⟨t, ts, rfl⟩ := List.exists_cons_of_ne_nil h
  rw [Draft.clause, render_cons, render_joinWith, Piece.chars, String.ofList_toList]
  exact List.cons_ne_nil _ _

end SqlText

namespace Filter.OrderKey

/-- A key as it is written. -/
def sql (key : OrderKey) : String :=
  key.column ++ " " ++ key.order.sql ++ if key.nullsLast then " NULLS LAST" else ""

lemma render_text (key : OrderKey) : SqlText.render key.text = key.sql := by
  simp [OrderKey.text, sql, SqlText.ofString, SqlText.render, Piece.chars, String.append_assoc]

end Filter.OrderKey

namespace Statement

/-- A statement that counts the rows of another. -/
structure Counts (count query : Statement) : Prop where
  sql : count.sql = "SELECT COUNT(*) FROM (" ++ query.sql ++ ") x"
  params : count.params = query.params

/-- A statement that orders the rows of another by some keys and cuts a page out of them. -/
structure Pages (page query : Statement) (keys : List OrderKey) (limit skipped : Int64) :
    Prop where
  sql : page.sql = query.sql ++ " ORDER BY " ++ ", ".intercalate (keys.map OrderKey.sql)
    ++ " LIMIT " ++ Placeholder.text ⟨query.params.length + 1⟩
    ++ " OFFSET " ++ Placeholder.text ⟨query.params.length + 2⟩
  params : page.params = query.params ++ [.int limit, .int skipped]

/-- What a page of a query may be answered with, where a table holds the rows of the query: the
values of the page say how many rows it has at most, and how many are skipped. -/
def MayAnswer {κ : String → Type} [∀ column, LinearOrder (κ column)] (page query : Statement)
    (keys : List OrderKey) (table answer : List (TableRow κ)) : Prop :=
  ∃ limit skipped, page.Pages query keys limit skipped ∧
    PageOf keys limit.toInt.toNat skipped.toInt.toNat table answer

variable {page query : Statement} {keys : List OrderKey} {limit skipped : Int64}

lemma counts_toCount (s : Statement) : s.toCount.Counts s where
  sql := by
    have closed : SqlText.render [.verbatim ") x"] = ") x" := rfl
    simp only [Statement.sql, toCount, List.cons_append, SqlText.render_cons,
      SqlText.render_append, closed, Piece.chars, String.ofList_toList, String.append_assoc]
  params := rfl

/-- The values of a page are known from it. -/
lemma Pages.mayAnswer_iff (h : page.Pages query keys limit skipped) {κ : String → Type}
    [∀ column, LinearOrder (κ column)] {table answer : List (TableRow κ)} :
    page.MayAnswer query keys table answer ↔
      PageOf keys limit.toInt.toNat skipped.toInt.toNat table answer := by
  constructor
  · rintro ⟨limit', skipped', h', hpage⟩
    have values := h'.params.symm.trans h.params
    simp only [List.append_cancel_left_eq, List.cons.injEq, Value.int.injEq, and_true] at values
    obtain ⟨rfl, rfl⟩ := values
    exact hpage
  · intro hpage
    exact ⟨limit, skipped, h, hpage⟩

end Statement

/-! ### The page and the count of one search -/

/-- The rows before a page are those of the earlier pages. -/
lemma Draft.toInt_of_offset {page limit rows : Int64} (h : offset page limit = .ok rows) :
    rows.toInt = (page.toInt - 1) * limit.toInt := by
  unfold offset at h
  split at h
  next => cases h
  next before hbefore =>
    split at h
    next => cases h
    next held hrows =>
      cases h
      rw [Decimal.toInt64?_eq_some.mp hrows, Decimal.toInt64?_eq_some.mp hbefore]

namespace Search

/-- A finished search, with the order and the rows that it was asked for. -/
lemma finish_eq_ok_iff_asked {args : Arguments} {listing : Listing} {d : Draft} {s : Search} :
    finish args listing d = .ok s ↔ ∃ column order rows,
      listing.requested args = .ok (column, order) ∧
      offset ((args.int? "page").getD 1) ((args.int? "limit").getD listing.defaultLimit) =
        .ok rows ∧
      s = ⟨((d.close (orderClause listing column order)).cut
        ((args.int? "limit").getD listing.defaultLimit) rows).statement, d.statement.toCount⟩ := by
  rw [finish_eq_ok_iff]
  constructor
  · rintro ⟨sorted, paged, hsorted, hpaged, rfl⟩
    obtain ⟨⟨column, order⟩, hrequested, rfl⟩ := Outcome.map_eq_ok.mp hsorted
    obtain ⟨rows, hrows, rfl⟩ := paginate_eq_ok.mp hpaged
    exact ⟨column, order, rows, hrequested, hrows, rfl⟩
  · rintro ⟨column, order, rows, hrequested, hrows, rfl⟩
    exact ⟨_, _, Outcome.map_eq_ok.mpr ⟨(column, order), hrequested, rfl⟩,
      paginate_eq_ok.mpr ⟨rows, hrows, rfl⟩, rfl⟩

/-- Ordering and cutting a draft makes a page of its statement. -/
lemma pages_cut (d : Draft) (listing : Listing) (column : String) (order : SortOrder)
    (limit rows : Int64) :
    ((d.close (orderClause listing column order)).cut limit rows).statement.Pages d.statement
      (listing.orderKeys column order) limit rows where
  sql := by
    have text : ((d.close (orderClause listing column order)).cut limit rows).text =
        d.text ++ (.verbatim " " :: orderClause listing column order) ++
          [.verbatim " ", .verbatim "LIMIT ", .placeholder ⟨d.params.length + 1⟩,
            .verbatim " OFFSET ", .placeholder ⟨d.params.length + 2⟩] := by
      simp [Draft.text, cut, close]
    have ordered : SqlText.render (orderClause listing column order) =
        "ORDER BY " ++ ", ".intercalate ((listing.orderKeys column order).map OrderKey.sql) := by
      rw [orderClause, SqlText.render_clause _ _ (by simp [Listing.orderKeys]), List.map_map]
      simp only [Function.comp_def, OrderKey.render_text]
    have paged (p q : Placeholder) : SqlText.render [.verbatim " ", .verbatim "LIMIT ",
        .placeholder p, .verbatim " OFFSET ", .placeholder q] =
          " LIMIT " ++ (p.text ++ (" OFFSET " ++ q.text)) := by
      rw [← String.toList_inj]
      simp [SqlText.render, Piece.chars, Placeholder.text]
    simp only [Draft.statement, Statement.sql, text, SqlText.render_append, SqlText.render_cons,
      ordered, paged, Piece.chars, String.ofList_toList, String.append_assoc]
    rfl
  params := rfl

namespace Kind

/-- The column that tells the rows of a search apart. -/
def tiebreak : Kind → String
  | .assets => "asset.asset_id"
  | .collections => "asset.collection_name"
  | .drops _ => "ndrop.drop_id"
  | .sales => "listing.sale_id"

/-- The keys that a search orders by: the column asked for with nulls last, then the column that
tells rows apart unless it is the same. -/
def keys (kind : Kind) (column : String) (order : SortOrder) : List OrderKey :=
  ⟨column, order, true⟩ ::
    if kind.tiebreak = column then [] else [⟨kind.tiebreak, order, false⟩]

lemma orderKeys_eq (kind : Kind) (column : String) (order : SortOrder) :
    kind.listing.orderKeys column order = kind.keys column order := by
  cases kind <;> rfl

/-- The rows asked for on a page. -/
def limit (args : Arguments) : Int64 := (args.int? "limit").getD 100

lemma limit_eq (kind : Kind) (args : Arguments) :
    (args.int? "limit").getD kind.listing.defaultLimit = limit args := by
  cases kind <;> rfl

/-- What the page of some number may be answered with, where a table holds the rows of the query. -/
def Answers {κ : String → Type} [∀ column, LinearOrder (κ column)] (kind : Kind)
    (args : Arguments) (contract : String) (query : Statement) (keys : List OrderKey)
    (table : List (TableRow κ)) (page : Int64) (answer : List (TableRow κ)) : Prop :=
  ∃ s, kind.run (args.insert "page" (.int page)) contract = .ok s ∧
    s.items.MayAnswer query keys table answer

variable {kind : Kind} {args : Arguments} {contract : String} {d : Draft} {column : String}
  {order : SortOrder}

/-! ### The other pages -/

lemma get?_insert_page (v : Value) {name : String} (h : name ≠ "page") :
    (args.insert "page" v).get? name = args.get? name := by
  rw [Arguments.get?_insert, if_neg h]

/-- The number of the page is read by no filter. -/
lemma draft_insert_page (kind : Kind) (args : Arguments) (v : Value) (contract : String) :
    kind.draft (args.insert "page" v) contract = kind.draft args contract := by
  have others : ∀ lookup ∈ kind.lookups, lookup.name? ≠ some "page" := by
    cases kind with
    | drops now =>
      have drops : ∀ lookup ∈ (Kind.drops 0).lookups, lookup.name? ≠ some "page" := by decide
      exact drops
    | assets | collections | sales => decide
  have plain : (AttributeKey.ofName? "page").isSome = false := by decide +kernel
  apply draft_congr
  intro lookup hr
  apply Lookup.alike_of_get?
  intro name hn
  apply get?_insert_page
  rintro rfl
  rcases Lookup.name?_of_reads hn with named | ⟨-, described⟩
  · exact others lookup hr named
  · rw [plain] at described
    cases described

/-- Every page whose rows can be counted is made of the same draft. -/
lemma run_insert_page (hd : kind.draft args contract = .ok d)
    (hr : kind.listing.requested args = .ok (column, order)) {page : Int64} {s : Search} :
    kind.run (args.insert "page" (.int page)) contract = .ok s ↔
      ∃ rows, offset page (limit args) = .ok rows ∧
        s = ⟨((d.close (orderClause kind.listing column order)).cut (limit args) rows).statement,
          d.statement.toCount⟩ := by
  have requested : kind.listing.requested (args.insert "page" (.int page)) =
      .ok (column, order) := by
    rw [← hr, Listing.requested, Listing.requested, Arguments.text?, Arguments.text?,
      Arguments.text?, Arguments.text?, get?_insert_page _ (by decide),
      get?_insert_page _ (by decide)]
  have rows : ((args.insert "page" (.int page)).int? "limit").getD kind.listing.defaultLimit =
      limit args := by
    rw [Arguments.int?, get?_insert_page _ (by decide)]
    exact limit_eq kind args
  have number : ((args.insert "page" (.int page)).int? "page").getD 1 = page := by
    rw [Arguments.int?, Arguments.get?_insert, if_pos rfl]
    rfl
  rw [run_eq_ok, draft_insert_page]
  constructor
  · rintro ⟨d', hd', hs⟩
    obtain rfl := Except.ok.inj (hd.symm.trans hd')
    obtain ⟨column', order', skipped, hr', hskipped, rfl⟩ := finish_eq_ok_iff_asked.mp hs
    obtain ⟨rfl, rfl⟩ := Prod.mk.inj (Except.ok.inj (requested.symm.trans hr'))
    rw [rows, number] at hskipped
    exact ⟨skipped, hskipped, by rw [rows]⟩
  · rintro ⟨skipped, hskipped, rfl⟩
    refine ⟨d, hd, finish_eq_ok_iff_asked.mpr ⟨column, order, skipped, requested, ?_, ?_⟩⟩
    · rw [rows, number]
      exact hskipped
    · rw [rows]

/-! ### Pages one after the other -/

section Table

variable {κ : String → Type} [∀ column, LinearOrder (κ column)] {table sorted : List (TableRow κ)}

/-- Rows that differ in the column that tells rows apart are not tied. -/
lemma tieless_keys (hd : table.Pairwise fun r s => r kind.tiebreak ≠ s kind.tiebreak) :
    Tieless (kind.keys column order) table := by
  apply tieless_of_distinct ?_ hd
  by_cases same : kind.tiebreak = column
  · exact ⟨_, List.mem_cons_self, same.symm⟩
  · exact ⟨⟨kind.tiebreak, order, false⟩, by simp [keys, same], rfl⟩

/-- A page is answered with its part of the sorted rows, where the rows before it can be counted. -/
lemma answers_iff (hd : kind.draft args contract = .ok d)
    (hr : kind.listing.requested args = .ok (column, order)) (hl : 1 ≤ (limit args).toInt)
    (h : Ordered (kind.keys column order) table sorted)
    (ht : Tieless (kind.keys column order) table) {page : Int64} (hp : 1 ≤ page.toInt)
    {answer : List (TableRow κ)} :
    kind.Answers args contract d.statement (kind.keys column order) table page answer ↔
      (page.toInt - 1) * (limit args).toInt < 2 ^ 63 ∧
        answer = (sorted.drop ((page.toInt.toNat - 1) * (limit args).toInt.toNat)).take
          (limit args).toInt.toNat := by
  have skipped {rows : Int64} (hrows : offset page (limit args) = .ok rows) :
      rows.toInt.toNat = (page.toInt.toNat - 1) * (limit args).toInt.toNat := by
    rw [toInt_of_offset hrows, Int.toNat_mul (by omega) (by omega)]
    congr 1
    omega
  have cut (rows : Int64) := pages_cut d kind.listing column order (limit args) rows
  rw [orderKeys_eq] at cut
  constructor
  · rintro ⟨s, hs, hm⟩
    obtain ⟨rows, hrows, rfl⟩ := (run_insert_page hd hr).mp hs
    rw [(cut rows).mayAnswer_iff, h.pageOf_iff ht, skipped hrows] at hm
    refine ⟨?_, hm⟩
    rw [← toInt_of_offset hrows]
    exact rows.toInt_lt
  · rintro ⟨fits, hanswer⟩
    have before : -2 ^ 63 ≤ page.toInt - 1 ∧ page.toInt - 1 < 2 ^ 63 := by
      have bound := page.toInt_lt
      omega
    have nonneg : 0 ≤ (page.toInt - 1) * (limit args).toInt :=
      Int.mul_nonneg (by omega) (by omega)
    obtain ⟨rows, hrows⟩ := exists_offset before ⟨by omega, fits⟩
    refine ⟨_, (run_insert_page hd hr).mpr ⟨rows, hrows, rfl⟩, ?_⟩
    rw [(cut rows).mayAnswer_iff, h.pageOf_iff ht, skipped hrows]
    exact hanswer

/-- The first pages, one after the other, are the first of the sorted rows. -/
lemma flatten_answers (hd : kind.draft args contract = .ok d)
    (hr : kind.listing.requested args = .ok (column, order)) (hl : 1 ≤ (limit args).toInt)
    (h : Ordered (kind.keys column order) table sorted)
    (ht : Tieless (kind.keys column order) table) {pages : List (List (TableRow κ))}
    (hn : pages.length < 2 ^ 63)
    (hp : ∀ i (hi : i < pages.length), kind.Answers args contract d.statement
      (kind.keys column order) table (Int64.ofNat (i + 1)) pages[i]) :
    pages.flatten = sorted.take (pages.length * (limit args).toInt.toNat) := by
  apply flatten_pages
  intro i hi
  have number : (Int64.ofNat (i + 1)).toInt = i + 1 := Int64.toInt_ofNat_of_lt (by omega)
  have answer := ((answers_iff hd hr hl h ht (by omega)).mp (hp i hi)).2
  rwa [number, show ((i : Int) + 1).toNat - 1 = i by omega] at answer

/-- The pages of a search lead through the rows of a table in one order: a page is its part of the
order, where the rows before it can be counted, and the first pages together are its front, up to
all of it. -/
structure LeadsThrough (kind : Kind) (args : Arguments) (contract : String) (query : Statement)
    (keys : List OrderKey) (table sorted : List (TableRow κ)) : Prop where
  ordered : Ordered keys table sorted
  nodup : sorted.Nodup
  part : ∀ page : Int64, 1 ≤ page.toInt → (page.toInt - 1) * (limit args).toInt < 2 ^ 63 →
    ∀ answer, kind.Answers args contract query keys table page answer ↔
      answer = (sorted.drop ((page.toInt.toNat - 1) * (limit args).toInt.toNat)).take
        (limit args).toInt.toNat
  front : ∀ pages : List (List (TableRow κ)), pages.length < 2 ^ 63 →
    (∀ i (hi : i < pages.length),
      kind.Answers args contract query keys table (Int64.ofNat (i + 1)) pages[i]) →
    pages.flatten = sorted.take (pages.length * (limit args).toInt.toNat) ∧
      (table.length ≤ pages.length * (limit args).toInt.toNat →
        pages.flatten = sorted ∧ pages.flatten.length = table.length)

lemma leadsThrough (hd : kind.draft args contract = .ok d)
    (hr : kind.listing.requested args = .ok (column, order)) (hl : 1 ≤ (limit args).toInt)
    (h : Ordered (kind.keys column order) table sorted)
    (ht : Tieless (kind.keys column order) table) :
    kind.LeadsThrough args contract d.statement (kind.keys column order) table sorted where
  ordered := h
  nodup := h.perm.nodup_iff.mpr ht.nodup
  part page hp fits answer := by rw [answers_iff hd hr hl h ht hp, and_iff_right fits]
  front pages hn hp := by
    have front := flatten_answers hd hr hl h ht hn hp
    refine ⟨front, fun enough => ?_⟩
    have all : pages.flatten = sorted := by
      rw [front, List.take_of_length_le]
      rwa [h.perm.length_eq]
    exact ⟨all, by rw [all, h.perm.length_eq]⟩

end Table

/-- The page and the count of a search are of one query: the count wraps its text, and the page
orders its rows by the keys asked for and cuts them by two values of its own. Another page has the
same count. Where the rows of the query differ in the column that tells them apart, no two of them
are tied, and the pages of at least one row lead through all of them. -/
theorem pages_and_count (kind : Kind) (args : Arguments) (contract : String) {s : Search}
    (h : kind.run args contract = .ok s) :
    ∃ query column order, kind.listing.requested args = .ok (column, order) ∧
      s.count.Counts query ∧
      (∃ skipped, skipped.toInt = (((args.int? "page").getD 1).toInt - 1) * (limit args).toInt ∧
        s.items.Pages query (kind.keys column order) (limit args) skipped) ∧
      (∀ (page : Int64) (other : Search),
        kind.run (args.insert "page" (.int page)) contract = .ok other → other.count = s.count) ∧
      ∀ (κ : String → Type) [∀ column, LinearOrder (κ column)] (table : List (TableRow κ)),
        (table.Pairwise fun r s => r kind.tiebreak ≠ s kind.tiebreak) →
          Tieless (kind.keys column order) table ∧
            (1 ≤ (limit args).toInt → ∃ sorted,
              kind.LeadsThrough args contract query (kind.keys column order) table sorted) := by
  obtain ⟨d, hd, hs⟩ := run_eq_ok.mp h
  obtain ⟨column, order, rows, hr, hrows, rfl⟩ := finish_eq_ok_iff_asked.mp hs
  rw [limit_eq] at hrows ⊢
  have cut := pages_cut d kind.listing column order (limit args) rows
  rw [orderKeys_eq] at cut
  refine ⟨d.statement, column, order, hr, d.statement.counts_toCount,
    ⟨rows, toInt_of_offset hrows, cut⟩, ?_, ?_⟩
  · intro page other hother
    obtain ⟨_, -, rfl⟩ := (run_insert_page hd hr).mp hother
    rfl
  · intro κ _ table distinct
    have tieless : Tieless (kind.keys column order) table := tieless_keys distinct
    obtain ⟨sorted, ordered⟩ := exists_ordered (kind.keys column order) table
    exact ⟨tieless, fun hl => ⟨sorted, leadsThrough hd hr hl ordered tieless⟩⟩

/-- Sales in the order of their price, two on a page. -/
def cheapest : Arguments :=
  .ofList [("limit", .int 2), ("order", .text "asc"), ("sort", .text "price")]

/-- Three sales, two of them at one price. -/
def threeSales : List (TableRow fun _ => Int) :=
  [(7, 500), (8, 300), (9, 500)].map fun (id, price) column =>
    if column = "listing.sale_id" then some id else some price

/-- Two pages of two are all three sales. -/
theorem pages_and_count_cheapest :
    ∃ s query, Kind.sales.run cheapest "atomicmarket" = .ok s ∧ s.count.Counts query ∧
      ∃ keys, Tieless keys threeSales ∧
        ∀ first second, Kind.sales.Answers cheapest "atomicmarket" query keys threeSales 1 first →
          Kind.sales.Answers cheapest "atomicmarket" query keys threeSales 2 second →
            (first ++ second).Perm threeSales := by
  obtain ⟨s, hs⟩ := Outcome.exists_of_isOk
    (x := Kind.sales.run cheapest "atomicmarket") (by decide +kernel)
  have two : limit cheapest = 2 := by decide +kernel
  obtain ⟨query, column, order, -, counts, -, -, rows⟩ := pages_and_count .sales cheapest _ hs
  have distinct : threeSales.Pairwise fun r s =>
      r (Kind.tiebreak .sales) ≠ s (Kind.tiebreak .sales) := by decide
  obtain ⟨tieless, leads⟩ := rows _ threeSales distinct
  obtain ⟨sorted, leads⟩ := leads (by rw [two]; decide)
  refine ⟨s, query, hs, counts, _, tieless, ?_⟩
  intro first second hfirst hsecond
  have answered : ∀ i (hi : i < [first, second].length), Kind.sales.Answers cheapest "atomicmarket"
      query (Kind.sales.keys column order) threeSales (Int64.ofNat (i + 1)) [first, second][i] := by
    intro i hi
    rcases i with _ | _ | i
    · exact hfirst
    · exact hsecond
    · simp at hi
  have enough : threeSales.length ≤ 2 * (limit cheapest).toInt.toNat := by
    rw [two]
    decide
  have all := ((leads.front [first, second] (by simp) answered).2 enough).1
  rw [List.flatten_cons, List.flatten_singleton] at all
  rw [all]
  exact leads.ordered.perm

end Kind

end Search

end BoundQuery
