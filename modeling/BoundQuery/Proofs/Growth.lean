import BoundQuery.Proofs.Equations
import BoundQuery.Proofs.Numbering

/-!
# Growth of a draft

A draft grows when conditions and the values behind their placeholders are added and
nothing written before is touched. The new placeholders count on from the values bound
before, so growth composes: each filter has to be looked at alone. A nested draft grows
from the values of its parent, and folding it back is growth of the parent.
-/
namespace BoundQuery

/-! ### Texts of conditions -/

/-- An operand with no dollar sign of its own. -/
def Operand.Quiet : Operand → Prop
  | .column name => Plain name
  | .parameter _ => True
  | .number n => Plain (toString n)

lemma Operand.Quiet.delimited {operand : Operand} (h : operand.Quiet) :
    operand.text.Delimited false := by
  cases operand with
  | column name => exact ⟨h, nofun, trivial⟩
  | parameter p => trivial
  | number n => exact ⟨h, nofun, trivial⟩

namespace Condition

@[simp] theorem ordinals_group (c : Condition) :
    (Condition.group c).text.ordinals = c.text.ordinals := by
  simp [text]

lemma delimited_closed : SqlText.Delimited true [.verbatim ")"] :=
  ⟨by decide, fun _ => by decide, trivial⟩

/-- Parentheses stand apart from what is between them. -/
lemma delimited_group {c : Condition} (h : c.text.Delimited false) :
    (Condition.group c).text.Delimited false :=
  ⟨by decide, nofun, h.append delimited_closed⟩

lemma delimited_anyRow {statement : SqlText} (h : statement.Delimited false) :
    (Condition.anyRow statement).text.Delimited false :=
  ⟨by decide, nofun, h.append delimited_closed⟩

@[simp] theorem ordinals_or (c c' : Condition) :
    (Condition.or c c').text.ordinals = c.text.ordinals ++ c'.text.ordinals := by
  simp [text]

lemma delimited_or {c c' : Condition} (h : c.text.Delimited false)
    (h' : c'.text.Delimited false) : (Condition.or c c').text.Delimited false :=
  h.append ⟨by decide, fun _ => by decide, h'⟩

@[simp] theorem ordinals_and (c c' : Condition) :
    (Condition.and c c').text.ordinals = c.text.ordinals ++ c'.text.ordinals := by
  simp [text]

lemma delimited_and {c c' : Condition} (h : c.text.Delimited false)
    (h' : c'.text.Delimited false) : (Condition.and c c').text.Delimited false :=
  h.append ⟨by decide, fun _ => by decide, h'⟩

theorem ordinals_anyOf (first : Condition) (rest : List Condition) :
    (anyOf first rest).text.ordinals = (first :: rest).flatMap fun c => c.text.ordinals := by
  induction rest generalizing first with
  | nil => simp [anyOf]
  | cons c rest ih =>
    have step : anyOf first (c :: rest) = anyOf (.or first c) rest := rfl
    rw [step, ih]
    simp

/-- Conditions that are delimited stay so side by side. -/
theorem delimited_anyOf {first : Condition} {rest : List Condition}
    (h : ∀ c ∈ first :: rest, c.text.Delimited false) :
    (anyOf first rest).text.Delimited false := by
  induction rest generalizing first with
  | nil => exact h first List.mem_cons_self
  | cons c rest ih =>
    have joined : (Condition.or first c).text.Delimited false :=
      delimited_or (h first (by simp)) (h c (by simp))
    have step : anyOf first (c :: rest) = anyOf (.or first c) rest := rfl
    rw [step]
    apply ih
    intro c' hc'
    rcases List.mem_cons.mp hc' with rfl | hc'
    · exact joined
    · exact h c' (by simp [hc'])

@[simp] theorem ordinals_compareTo (column : String) (comparison : Comparison) (p : Placeholder) :
    (compareTo column comparison p).text.ordinals = [p.ordinal] := by
  simp [compareTo, text, Operand.text]

lemma delimited_compare {left right : Operand} {comparison : Comparison} (hl : left.Quiet)
    (hs : Plain comparison.symbol) (hr : right.Quiet) :
    (Condition.compare left comparison right).text.Delimited false := by
  have space : Plain " " := by decide
  have sign : Plain (" " ++ comparison.symbol ++ " ") := (space.append hs).append space
  have apart : OpensApart (" " ++ comparison.symbol ++ " ") :=
    opensApart_append (opensApart_append (by decide) _) _
  exact hl.delimited.append ⟨sign, fun _ => apart, hr.delimited⟩

lemma delimited_compareTo {column : String} {comparison : Comparison} (p : Placeholder)
    (hcolumn : Plain column) (hsymbol : Plain comparison.symbol) :
    (compareTo column comparison p).text.Delimited false :=
  delimited_compare hcolumn hsymbol trivial

@[simp] theorem ordinals_isNull (column : String) (expected : Bool) :
    (Condition.isNull column expected).text.ordinals = [] := rfl

lemma delimited_isNull {column : String} (expected : Bool) (h : Plain column) :
    (Condition.isNull column expected).text.Delimited false := by
  cases expected with
  | false => exact ⟨h.append (by decide), nofun, trivial⟩
  | true => exact ⟨h.append (by decide), nofun, trivial⟩

lemma delimited_contains {column : String} (p : Placeholder) (h : Plain column) :
    (Condition.contains column p).text.Delimited false :=
  ⟨h.append (by decide), nofun, by decide, fun _ => by decide, trivial⟩

@[simp] theorem ordinals_raw (sql : SqlText) : (raw sql).text.ordinals = sql.ordinals :=
  ordinals_group (.verbatim sql)

/-- A text without placeholders, in parentheses. -/
lemma delimited_raw {sql : String} (h : Plain sql) :
    (raw (.ofString sql)).text.Delimited false :=
  delimited_group ⟨h, nofun, trivial⟩

end Condition

namespace Membership.Test

/-- A test is delimited, and it refers to what it binds. -/
theorem choose_spec (column : String) (hcolumn : Plain column) (sense : Sense) (m : Nat)
    (values : List Value) :
    ((choose ⟨m + 1⟩ values).1.text column sense).Delimited false ∧
      Numbered m (m + (choose ⟨m + 1⟩ values).2.length)
        ((choose ⟨m + 1⟩ values).1.text column sense).ordinals := by
  have once : Numbered m (m + 1) [m + 1] := numbered_of_forall_eq (by simp) (by simp)
  have unnest_delimited (type : ArrayType) :
      (unnested ⟨m + 1⟩ type column).Delimited false := by
    refine ⟨by decide, nofun, ?_, fun _ => ?_, trivial⟩
    · cases type <;> simp [ArrayType.sql, hcolumn] <;> decide
    · cases type <;> exact opensApart_append (opensApart_append (by decide) _) _
  rcases values with _ | ⟨v, _ | ⟨w, values⟩⟩
  · cases sense
    · exact ⟨⟨by decide, nofun, trivial⟩, numbered_nil m⟩
    · exact ⟨⟨by decide, nofun, trivial⟩, numbered_nil m⟩
  · cases sense
    · exact ⟨⟨hcolumn.append (by decide), nofun, trivial⟩, once⟩
    · exact ⟨⟨hcolumn.append (by decide), nofun, trivial⟩, once⟩
  · simp only [choose]
    split
    · cases sense
      · exact ⟨⟨hcolumn.append (by decide), nofun, by decide, fun _ => by decide,
          trivial⟩, once⟩
      · exact ⟨⟨hcolumn.append (by decide), nofun, by decide, fun _ => by decide,
          trivial⟩, once⟩
    · cases sense
      · exact ⟨unnest_delimited _, once⟩
      · exact ⟨⟨by decide, nofun, unnest_delimited _⟩, once⟩

end Membership.Test

namespace Draft

/-! ### Growth -/

/-- What a filter may do to a draft. -/
structure Grows (d e : Draft) : Prop where
  base : ∃ more, Plain more ∧ e.base = d.base ++ more
  params : ∃ more, e.params = d.params ++ more
  conditions : ∃ more, e.conditions = d.conditions ++ more ∧
    (∀ c ∈ more, c.text.Delimited false) ∧
    Numbered d.params.length e.params.length (more.flatMap fun c => c.text.ordinals)
  groups : ∃ more, e.groups = d.groups ++ more ∧ ∀ g ∈ more, Plain g
  closing : e.closing = d.closing

theorem Grows.refl (d : Draft) : d.Grows d where
  base := ⟨"", by decide, by simp⟩
  params := ⟨[], by simp⟩
  conditions := ⟨[], by simp⟩
  groups := ⟨[], by simp⟩
  closing := rfl

/-- What is added later refers to later values, so growth composes. -/
theorem Grows.trans {d e f : Draft} (h : d.Grows e) (h' : e.Grows f) : d.Grows f where
  base := by
    obtain ⟨s, hs, he⟩ := h.base
    obtain ⟨t, ht, hf⟩ := h'.base
    exact ⟨s ++ t, hs.append ht, by rw [hf, he, String.append_assoc]⟩
  params := by
    obtain ⟨vs, he⟩ := h.params
    obtain ⟨ws, hf⟩ := h'.params
    exact ⟨vs ++ ws, by rw [hf, he, List.append_assoc]⟩
  conditions := by
    obtain ⟨cs, he, hcs, hn⟩ := h.conditions
    obtain ⟨cs', hf, hcs', hn'⟩ := h'.conditions
    refine ⟨cs ++ cs', by rw [hf, he, List.append_assoc], ?_, ?_⟩
    · intro c hc
      exact (List.mem_append.mp hc).elim (hcs c) (hcs' c)
    · rw [List.flatMap_append]
      exact hn.append hn'
  groups := by
    obtain ⟨gs, he, hgs⟩ := h.groups
    obtain ⟨gs', hf, hgs'⟩ := h'.groups
    exact ⟨gs ++ gs', by rw [hf, he, List.append_assoc], List.forall_mem_append.mpr ⟨hgs, hgs'⟩⟩
  closing := h'.closing.trans h.closing

/-- Values are bound and conditions that refer to them are added. -/
theorem grows_of_bound (d : Draft) (values : List Value) {conditions : List Condition}
    (hd : ∀ c ∈ conditions, c.text.Delimited false)
    (hn : Numbered d.params.length (d.params.length + values.length)
      (conditions.flatMap fun c => c.text.ordinals)) :
    d.Grows { d with
      params := d.params ++ values
      conditions := d.conditions ++ conditions } where
  base := ⟨"", by decide, by simp⟩
  params := ⟨values, rfl⟩
  conditions := ⟨conditions, rfl, hd, by simpa using hn⟩
  groups := ⟨[], by simp⟩
  closing := rfl

/-- Values are bound and one condition that refers to them is added. -/
theorem grows_of_bound_one (d : Draft) (values : List Value) {c : Condition}
    (hd : c.text.Delimited false)
    (hn : Numbered d.params.length (d.params.length + values.length) c.text.ordinals) :
    d.Grows { d with
      params := d.params ++ values
      conditions := d.conditions ++ [c] } := by
  apply grows_of_bound
  · intro c' hc'
    rwa [List.mem_singleton.mp hc']
  · rwa [List.flatMap_singleton]

/-- A value is bound, and the condition added refers to it at least once. -/
theorem grows_bind_add (d : Draft) (v : Value) {c : Condition} (hd : c.text.Delimited false)
    (hne : c.text.ordinals ≠ []) (hn : ∀ k ∈ c.text.ordinals, k = d.params.length + 1) :
    d.Grows ((d.bind v).2.add c) :=
  grows_of_bound_one d [v] hd (numbered_of_forall_eq hne hn)

/-- A condition without placeholders is added. -/
theorem grows_add (d : Draft) {c : Condition} (hd : c.text.Delimited false)
    (hn : c.text.ordinals = []) : d.Grows (d.add c) := by
  have grown : d.Grows { d with params := d.params ++ [], conditions := d.conditions ++ [c] } :=
    grows_of_bound_one d [] hd (by rw [hn]; exact numbered_nil _)
  rwa [List.append_nil] at grown

theorem grows_extendBase (d : Draft) {sql : String} (h : Plain sql) : d.Grows (d.extendBase sql) :=
  { Grows.refl d with base := ⟨sql, h, rfl⟩ }

theorem grows_addGroups (d : Draft) {columns : List String}
    (h : ∀ column ∈ columns, Plain column) : d.Grows (d.addGroups columns) :=
  { Grows.refl d with groups := ⟨columns, rfl, h⟩ }

theorem grows_addNullCheck (d : Draft) {column : String} (expected : Bool) (h : Plain column) :
    d.Grows (d.addNullCheck column expected) :=
  grows_add d (Condition.delimited_isNull expected h) rfl

theorem grows_addComparison (d : Draft) {column : String} {comparison : Comparison} (v : Value)
    (hcolumn : Plain column) (hsymbol : Plain comparison.symbol) :
    d.Grows (d.addComparison column comparison v) :=
  grows_bind_add d v (Condition.delimited_compareTo d.next hcolumn hsymbol) (by simp)
    (by simp [next])

theorem grows_addRaw (d : Draft) {sql : String} (h : Plain sql) :
    d.Grows (d.addRaw (.ofString sql)) :=
  grows_add d (Condition.delimited_raw h) (Condition.ordinals_raw _)

/-- Columns that agree are compared without a value. -/
theorem grows_addJoin (d : Draft) {left right : String} {columns : List String}
    (hl : Plain left) (hr : Plain right) (hc : ∀ column ∈ columns, Plain column) :
    d.Grows (d.addJoin left right columns) := by
  have qualified {table column : String} (ht : Plain table) (h : Plain column) :
      Plain (table ++ "." ++ column) := (ht.append (by decide)).append h
  have silent (column : String) : (Condition.compare (.column (left ++ "." ++ column)) .eq
      (.column (right ++ "." ++ column))).text.ordinals = [] := rfl
  have grown : d.Grows { d with
      params := d.params ++ []
      conditions := (d.addJoin left right columns).conditions } := by
    apply grows_of_bound d []
    · intro c hm
      obtain ⟨column, hcolumn, rfl⟩ := List.mem_map.mp hm
      have plain := hc column hcolumn
      exact Condition.delimited_compare (qualified hl plain) (by decide) (qualified hr plain)
    · rw [List.flatMap_map, List.flatMap_eq_nil_iff.mpr fun column _ => silent column]
      exact numbered_nil _
  rwa [List.append_nil] at grown

/-! ### Membership tests -/

/-- A test binds values; it is delimited and numbered as the values are. -/
theorem test_spec (d : Draft) {column : String} (values : List Value) (sense : Sense)
    (h : Plain column) :
    ∃ bound, (d.test column values sense).2 = { d with params := d.params ++ bound } ∧
      (d.test column values sense).1.text.Delimited false ∧
      Numbered d.params.length (d.params.length + bound.length)
        (d.test column values sense).1.text.ordinals := by
  have spec := Membership.Test.choose_spec column h sense d.params.length values
  exact ⟨(Membership.Test.choose d.next values).2, rfl, spec.1, spec.2⟩

theorem grows_addMember (d : Draft) {column : String} (values : List Value) (h : Plain column) :
    d.Grows (d.addMember column values) := by
  obtain ⟨bound, hbound, hd, hn⟩ := d.test_spec values .allow h
  have added : d.addMember column values =
      ((d.test column values .allow).2).add (d.test column values .allow).1 := rfl
  rw [added, hbound]
  exact grows_of_bound_one d bound hd hn

/-- A null that passes as well is asked for without a value. -/
theorem grows_addNonMember (d : Draft) {column : String} (values : List Value) (orNull : Bool)
    (h : Plain column) : d.Grows (d.addNonMember column values orNull) := by
  obtain ⟨bound, hbound, hd, hn⟩ := d.test_spec values .deny h
  have added : d.addNonMember column values orNull =
      ((d.test column values .deny).2).add (if orNull then
        (d.test column values .deny).1.orNull column else (d.test column values .deny).1) := rfl
  rw [added, hbound]
  cases orNull with
  | false => exact grows_of_bound_one d bound hd hn
  | true =>
    have hnull := Condition.delimited_isNull true h
    exact grows_of_bound_one d bound (Condition.delimited_group (Condition.delimited_or hd hnull))
      (by simpa [Condition.orNull] using hn)

/-! ### The text of a draft -/

/-- A keyword and a separator stand apart from the items. -/
lemma delimited_clause {keyword separator : String} {items : List SqlText}
    (hk : Plain keyword) (hko : OpensApart keyword) (hs : Plain separator)
    (hso : OpensApart separator) (h : ∀ t ∈ items, t.Delimited false) :
    (clause keyword separator items).Delimited true := by
  cases items with
  | nil => trivial
  | cons t ts => exact ⟨hk, fun _ => hko, SqlText.Delimited.joinWith hs hso h⟩

lemma ordinals_clause (keyword separator : String) (items : List SqlText) :
    (clause keyword separator items).ordinals = items.flatMap SqlText.ordinals := by
  cases items with
  | nil => rfl
  | cons t ts =>
    rw [clause, SqlText.ordinals_verbatim, SqlText.ordinals_joinWith]
    nofun

lemma delimited_closing {closing : List SqlText} (h : ∀ t ∈ closing, t.Delimited false) :
    SqlText.Delimited true (closing.flatMap fun t => .verbatim " " :: t) := by
  induction closing with
  | nil => trivial
  | cons t ts ih =>
    have rest := ih fun s hs => h s (List.mem_cons_of_mem t hs)
    exact ⟨by decide, fun _ => by decide, (h t List.mem_cons_self).append rest⟩

/-- A draft whose parts are delimited has a delimited text. -/
theorem delimited_text {d : Draft} (hb : Plain d.base)
    (hc : ∀ c ∈ d.conditions, c.text.Delimited false) (hg : ∀ g ∈ d.groups, Plain g)
    (ht : ∀ t ∈ d.closing, t.Delimited false) : d.text.Delimited false := by
  have conditions : (clause " WHERE " " AND " (d.conditions.map Condition.text)).Delimited true :=
    delimited_clause (by decide) (by decide) (by decide) (by decide) (by simpa using hc)
  have groups : (clause " GROUP BY " ", " (d.groups.map SqlText.ofString)).Delimited true := by
    apply delimited_clause (by decide) (by decide) (by decide) (by decide)
    intro t hm
    obtain ⟨g, hgm, rfl⟩ := List.mem_map.mp hm
    exact ⟨hg g hgm, nofun, trivial⟩
  have front : SqlText.Delimited false
      (.verbatim d.base :: clause " WHERE " " AND " (d.conditions.map Condition.text)) :=
    ⟨hb, nofun, conditions.weaken false⟩
  exact (front.append groups).append (delimited_closing ht)

/-- The placeholders of a draft are those of its conditions and of its closing clauses. -/
theorem ordinals_text (d : Draft) :
    d.text.ordinals = (d.conditions.flatMap fun c => c.text.ordinals) ++
      d.closing.flatMap SqlText.ordinals := by
  have groups : (d.groups.map SqlText.ofString).flatMap SqlText.ordinals = [] := by
    simp [List.flatMap_map, List.flatMap_eq_nil_iff, SqlText.ofString]
  have closing : SqlText.ordinals (d.closing.flatMap fun t => .verbatim " " :: t) =
      d.closing.flatMap SqlText.ordinals := by
    induction d.closing with
    | nil => rfl
    | cons t ts ih => simp [ih]
  rw [text, SqlText.ordinals_append, SqlText.ordinals_append, SqlText.ordinals_verbatim,
    ordinals_clause, ordinals_clause, groups, closing, List.flatMap_map, List.append_nil]

/-! ### Nested drafts -/

/-- The text of a draft that grew from some values is numbered from there on. -/
theorem Grows.nested_text {base : String} {values : List Value} {sub : Draft} (hb : Plain base)
    (h : (seeded base values).Grows sub) :
    sub.text.Delimited false ∧ Numbered values.length sub.params.length sub.text.ordinals := by
  obtain ⟨more, hmore, hbase⟩ := h.base
  obtain ⟨conditions, hconditions, hd, hn⟩ := h.conditions
  have same : sub.conditions = conditions := hconditions
  obtain ⟨groups, hgroups, hgs⟩ := h.groups
  have no_closing : sub.closing = [] := h.closing
  constructor
  · apply delimited_text
    · rw [hbase]
      exact hb.append hmore
    · rwa [same]
    · rw [hgroups]
      exact hgs
    · simp [no_closing]
  · rw [ordinals_text, no_closing, same, List.flatMap_nil, List.append_nil]
    exact hn

/-- A nested statement is written between parentheses of its own. -/
lemma anyRow_spec {base : String} {values : List Value} {sub : Draft} (hb : Plain base)
    (h : (seeded base values).Grows sub) :
    (Condition.anyRow sub.text).text.Delimited false ∧
      Numbered values.length sub.params.length (Condition.anyRow sub.text).text.ordinals := by
  obtain ⟨hd, hn⟩ := h.nested_text hb
  refine ⟨Condition.delimited_anyRow hd, ?_⟩
  simpa [Condition.text] using hn

/-- Folding a nested draft back is growth of its parent. -/
theorem Grows.fold {base : String} {d sub e : Draft} (hb : Plain base)
    (h : (d.nested base).Grows sub) (hf : d.fold sub = .ok e) : d.Grows e := by
  obtain ⟨_, habsorb, rfl⟩ := Outcome.map_eq_ok.mp hf
  obtain ⟨-, rfl⟩ := absorb_eq_ok.mp habsorb
  obtain ⟨hd, hn⟩ := anyRow_spec hb h
  obtain ⟨more, hmore⟩ := h.params
  have params : sub.params = d.params ++ more := hmore
  rw [params, List.length_append] at hn
  have grown := grows_of_bound_one d more (Condition.delimited_group hd)
    (by simpa using hn)
  rwa [← params] at grown

end Draft

end BoundQuery
