import BoundQuery.Proofs.NestedText
import BoundQuery.Proofs.Plans

/-!
# Grammars of texts

Filters put their texts together in few ways: texts follow each other, a value stands behind a text,
and parentheses stand around one. A grammar is a property of texts that is kept by all of them. What
a plan adds obeys a grammar as soon as the texts of the plan do, and so does the statement made of
it. Main statements: `Plan.obeys` and `Contribution.Obeys.text`.
-/
namespace BoundQuery

open FilledText (ofString)
open Nesting (reserved)

/-- A word that conditions and statements are written with. It leads from one depth of parentheses
to another, and none of some letters stands outside of all parentheses. -/
structure Word where
  letters : List Char
  start : Nat
  stop : Nat
  text : String
  deriving DecidableEq

/-- The words of conditions and statements. -/
def Word.all : List Word :=
  [".", " ", ", ", "=", "!=", "<", "<=", ">", ">=", "0", "1=0", "1=1", " = ", " != ", " @> ",
    "::jsonb", "::", "BIGINT[]", "TEXT[]", " IS NULL", " IS NOT NULL"].map (Word.mk reserved 0 0) ++
  [" AND ", " OR ", " WHERE ", " GROUP BY ", "ASC", "DESC", " NULLS LAST",
    " = ANY(auth_collection.authorized_accounts)"].map (Word.mk [] 0 0) ++
  ["(", "EXISTS(", " = ANY(", " != ALL("].map (Word.mk reserved 0 1) ++
  ["EXISTS (SELECT FROM UNNEST(", "NOT EXISTS (SELECT FROM UNNEST("].map (Word.mk reserved 0 2) ++
  [⟨reserved, 1, 0, ")"⟩, ⟨reserved, 2, 1, ") u(c) WHERE u.c = "⟩, ⟨[], 0, 1, " * POWER(10, "⟩]

/-- A property of the texts that lead from one depth of parentheses to another with none of some
letters outside of all parentheses. It is kept where texts follow each other and where a value
stands behind a text, and one level deeper it is of no account which letters there are. -/
structure Grammar where
  Leads : List Char → Nat → Nat → FilledText → Prop
  nil (letters : List Char) (n : Nat) : Leads letters n n []
  append {letters : List Char} {l m n : Nat} {s t : FilledText} :
    Leads letters l m s → Leads letters m n t → Leads letters l n (s ++ t)
  valued {letters : List Char} {m n : Nat} {a : String} (v : Value) : '$' ∉ letters → a ≠ "" →
    Leads letters m n (ofString a) → Leads letters m n (ofString a ++ [.value v])
  weaken {letters weaker : List Char} {m n : Nat} {t : FilledText} : weaker ⊆ letters →
    Leads letters m n t → Leads weaker m n t
  raise {letters : List Char} {m n : Nat} {t : FilledText} :
    Leads [] m n t → Leads letters (m + 1) (n + 1) t
  words : ∀ w ∈ Word.all, Leads w.letters w.start w.stop (ofString w.text)

namespace Grammar

variable (G : Grammar)

/-- A text that may stand among others as a condition. -/
def Part (t : FilledText) : Prop := G.Leads reserved 0 0 t

/-- A text that may stand in parentheses. -/
def Even (t : FilledText) : Prop := G.Leads [] 0 0 t

/-- The texts that may stand at a place. -/
def Fits : Place → FilledText → Prop
  | .name => G.Part
  | .state => G.Part
  | .enclosed => G.Even
  | .table => G.Even
  | .base => G.Leads ['W'] 0 0
  | .group => G.Even
  | .closing => G.Even

/-- Each of some texts may stand at its place. -/
def Admits (places : List (Place × String)) : Prop := ∀ t ∈ places, G.Fits t.1 (ofString t.2)

section

variable [∀ letters m n t, Decidable (G.Leads letters m n t)]

instance : ∀ place t, Decidable (G.Fits place t)
  | .name, t => inferInstanceAs (Decidable (G.Leads reserved 0 0 t))
  | .state, t => inferInstanceAs (Decidable (G.Leads reserved 0 0 t))
  | .enclosed, t => inferInstanceAs (Decidable (G.Leads [] 0 0 t))
  | .table, t => inferInstanceAs (Decidable (G.Leads [] 0 0 t))
  | .base, t => inferInstanceAs (Decidable (G.Leads ['W'] 0 0 t))
  | .group, t => inferInstanceAs (Decidable (G.Leads [] 0 0 t))
  | .closing, t => inferInstanceAs (Decidable (G.Leads [] 0 0 t))

instance (places : List (Place × String)) : Decidable (G.Admits places) :=
  List.decidableBAll (fun t : Place × String => G.Fits t.1 (ofString t.2)) places

end

variable {G}

/-! ### Texts put together -/

section Texts

variable {letters : List Char} {l m n : Nat} {a b : String} {s t : FilledText}
  {ts : List FilledText}

/-- A word may stand wherever fewer letters are reserved as well. -/
lemma word (h : ∃ w ∈ Word.all, letters ⊆ w.letters ∧ w.start = m ∧ w.stop = n ∧ w.text = a) :
    G.Leads letters m n (ofString a) := by
  obtain ⟨w, hw, fewer, rfl, rfl, rfl⟩ := h
  exact G.weaken fewer (G.words w hw)

lemma concat (ha : G.Leads letters l m (ofString a)) (hb : G.Leads letters m n (ofString b)) :
    G.Leads letters l n (ofString (a ++ b)) := by
  rw [FilledText.ofString_append]
  exact G.append ha hb

/-- A value with a word right before it. -/
lemma valued_after (hl : '$' ∉ letters) (hb : b ≠ "") (ha : G.Leads letters l m (ofString a))
    (h : G.Leads letters m n (ofString b)) (v : Value) :
    G.Leads letters l n (ofString (a ++ b) ++ [.value v]) := by
  rw [FilledText.ofString_append, List.append_assoc]
  exact G.append ha (G.valued v hl hb h)

lemma Part.even (h : G.Part t) : G.Even t := G.weaken (List.nil_subset _) h

lemma Even.append (hs : G.Even s) (ht : G.Even t) : G.Even (s ++ t) := G.append hs ht

/-- No letter is reserved inside of parentheses. -/
lemma Even.deeper (h : G.Even t) (n : Nat) : G.Leads letters (n + 1) (n + 1) t := by
  induction n generalizing letters with
  | zero => exact G.raise h
  | succ n ih => exact G.raise ih

/-- Parentheses around a text make a condition of it. -/
lemma Even.group (h : G.Even t) : G.Part t.group :=
  G.append (G.append (G.word (by decide)) (h.deeper 0)) (G.word (by decide))

lemma even_joinWith (hs : G.Even (ofString a)) (h : ∀ t ∈ ts, G.Even t) :
    G.Even (FilledText.joinWith a ts) := by
  induction ts with
  | nil => exact G.nil [] 0
  | cons t ts ih =>
    obtain ⟨first, rest⟩ := List.forall_mem_cons.mp h
    cases ts with
    | nil => exact first
    | cons second ts => exact (first.append hs).append (ih rest)

lemma even_clause (hk : G.Even (ofString a)) (hs : G.Even (ofString b)) (h : ∀ t ∈ ts, G.Even t) :
    G.Even (FilledText.clause a b ts) := by
  cases ts with
  | nil => exact G.nil [] 0
  | cons t ts => exact hk.append (even_joinWith hs h)

/-- Closing clauses stand one after the other. -/
lemma even_closing (h : ∀ t ∈ ts, G.Even t) : G.Even (ts.flatMap fun t => ofString " " ++ t) := by
  induction ts with
  | nil => exact G.nil [] 0
  | cons t ts ih =>
    obtain ⟨first, rest⟩ := List.forall_mem_cons.mp h
    exact (Even.append (G.word (by decide)) first).append (ih rest)

end Texts

/-! ### Conditions -/

section Conditions

variable {column other : String} {comparison : Comparison}

/-- The symbols of comparisons with a meaning of their own are words. -/
lemma part_symbol (h : comparison ∈ Comparison.basic) : G.Part (ofString comparison.symbol) := by
  revert comparison
  simp only [Comparison.basic, List.forall_mem_cons]
  refine ⟨?_, ?_, ?_, ?_, ?_, ?_, nofun⟩
  all_goals exact G.word (by decide)

lemma part_comparison (hc : G.Part (ofString column)) (hs : G.Part (ofString comparison.symbol))
    (v : Value) : G.Part (.comparison column comparison v) :=
  G.valued_after (by decide) (by decide) (G.concat (G.concat hc (G.word (by decide))) hs)
    (G.word (by decide)) v

lemma part_compared (hc : G.Part (ofString column)) (hs : G.Part (ofString comparison.symbol))
    (ho : G.Part (ofString other)) : G.Part (.compared column comparison other) :=
  G.concat (G.concat (G.concat (G.concat hc (G.word (by decide))) hs) (G.word (by decide))) ho

lemma part_contains (hc : G.Part (ofString column)) (v : Value) : G.Part (.contains column v) :=
  G.append (m := 0) (G.valued_after (by decide) (by decide) hc (G.word (by decide)) v)
    (G.word (by decide))

lemma part_null (hc : G.Part (ofString column)) (expected : Bool) :
    G.Part (ofString (column ++ if expected then " IS NULL" else " IS NOT NULL")) := by
  cases expected with
  | true => exact G.concat hc (G.word (by decide))
  | false => exact G.concat hc (G.word (by decide))

/-- That a list that stands in a relation of its own has the column. -/
lemma part_unnested (hc : G.Part (ofString column)) (type : Membership.ArrayType) {opening : String}
    (ho : G.Leads reserved 0 2 (ofString opening)) (hne : opening ≠ "") (v : Value) :
    G.Part (ofString opening ++ [.value v]
      ++ ofString ("::" ++ type.sql ++ ") u(c) WHERE u.c = " ++ column ++ ")")) := by
  have cast : G.Even (ofString "::") := G.word (by decide)
  have array : G.Even (ofString type.sql) := by
    cases type <;> exact G.word (by decide)
  have typed : G.Leads reserved 2 2 (ofString ("::" ++ type.sql)) :=
    G.concat (cast.deeper 1) (array.deeper 1)
  have tested : G.Leads reserved 2 1 (ofString ("::" ++ type.sql ++ ") u(c) WHERE u.c = ")) :=
    G.concat typed (G.word (by decide))
  have closed : G.Leads reserved 2 0
      (ofString ("::" ++ type.sql ++ ") u(c) WHERE u.c = " ++ column ++ ")")) :=
    G.concat (m := 1) (G.concat tested (hc.even.deeper 0)) (G.word (by decide))
  exact G.append (G.valued v (by decide) hne ho) closed

/-- A membership test is a condition in every form. -/
theorem part_filled (hc : G.Part (ofString column)) (sense : Sense) (values : List Value) :
    G.Part (Membership.filled column sense values) := by
  rcases values with _ | ⟨v, _ | ⟨w, rest⟩⟩
  · cases sense <;> exact G.word (by decide)
  · cases sense <;> exact G.valued_after (by decide) (by decide) hc (G.word (by decide)) v
  · simp only [Membership.filled]
    split
    next few =>
      cases sense <;> exact G.append (m := 1)
        (G.valued_after (by decide) (by decide) hc (G.word (by decide)) _) (G.word (by decide))
    next many =>
      cases sense <;> exact part_unnested hc _ (G.word (by decide)) (by decide) _

end Conditions

end Grammar

/-! ### Contributions -/

namespace Contribution

/-- What a contribution writes obeys a grammar. -/
structure Obeys (G : Grammar) (k : Contribution) : Prop where
  base : G.Leads ['W'] 0 0 (ofString k.base)
  conditions : ∀ t ∈ k.conditions, G.Part t
  groups : ∀ column ∈ k.groups, G.Even (ofString column)
  closing : ∀ t ∈ k.closing, G.Even t

variable {G : Grammar} {k k' : Contribution}

/-- Conditions and the values they refer to. -/
lemma obeys_of {conditions : List FilledText} (values : List Value)
    (h : ∀ t ∈ conditions, G.Part t) :
    Obeys G { conditions := conditions, values := values } :=
  ⟨G.nil _ _, h, List.forall_mem_nil _, List.forall_mem_nil _⟩

lemma obeys_one {t : FilledText} (values : List Value) (h : G.Part t) :
    Obeys G { conditions := [t], values := values } :=
  obeys_of values (List.forall_mem_singleton.mpr h)

lemma obeys_empty : Obeys G {} := obeys_of [] (List.forall_mem_nil _)

/-- A closing clause and the values it refers to. -/
lemma obeys_close {t : FilledText} (values : List Value) (h : G.Even t) :
    Obeys G { closing := [t], values := values } :=
  ⟨G.nil _ _, List.forall_mem_nil _, List.forall_mem_nil _, List.forall_mem_singleton.mpr h⟩

lemma Obeys.append (h : k.Obeys G) (h' : k'.Obeys G) : (k ++ k').Obeys G where
  base := G.concat h.base h'.base
  conditions := List.forall_mem_append.mpr ⟨h.conditions, h'.conditions⟩
  groups := List.forall_mem_append.mpr ⟨h.groups, h'.groups⟩
  closing := List.forall_mem_append.mpr ⟨h.closing, h'.closing⟩

/-- The statement made of a base obeys the grammar that the contribution does. -/
theorem Obeys.text (h : k.Obeys G) {base : String} (hb : G.Even (ofString base)) :
    G.Even (k.text base) := by
  have started : G.Even (ofString (base ++ k.base)) :=
    G.concat hb (G.weaken (List.nil_subset _) h.base)
  have filtered : G.Even (.clause " WHERE " " AND " k.conditions) :=
    Grammar.even_clause (G.word (by decide)) (G.word (by decide)) fun t ht =>
      (h.conditions t ht).even
  have grouped : G.Even (.clause " GROUP BY " ", " (k.groups.map ofString)) :=
    Grammar.even_clause (G.word (by decide)) (G.word (by decide))
      (List.forall_mem_map.mpr h.groups)
  exact ((started.append filtered).append grouped).append (Grammar.even_closing h.closing)

/-- That a nested statement has a row is a condition. -/
lemma part_anyRow {t : FilledText} (h : G.Even t) :
    G.Part (ofString "EXISTS(" ++ t ++ ofString ")") :=
  G.append (G.append (G.word (by decide)) (h.deeper 0)) (G.word (by decide))

lemma Obeys.hasRow (h : k.Obeys G) {base : String} (hb : G.Even (ofString base)) :
    (k.hasRow base).Obeys G :=
  obeys_one k.values (part_anyRow (h.text hb)).even.group

lemma obeys_agreement {left right : String} (hl : G.Part (ofString left))
    (hr : G.Part (ofString right)) {columns : List String}
    (h : ∀ column ∈ columns, G.Part (ofString column)) :
    (agreement left right columns).Obeys G := by
  apply obeys_of []
  refine List.forall_mem_map.mpr fun column hm => ?_
  have named : G.Part (ofString (left ++ "." ++ column)) :=
    G.concat (G.concat hl (G.word (by decide))) (h column hm)
  have equated : G.Part (ofString (left ++ "." ++ column ++ " = " ++ right)) :=
    G.concat (G.concat named (G.word (by decide))) hr
  exact G.concat (G.concat equated (G.word (by decide))) (h column hm)

lemma obeys_membership {column : String} (h : G.Part (ofString column)) (values : List Value)
    (sense : Sense) : (membership column values sense).Obeys G :=
  obeys_one _ (Grammar.part_filled h sense values)

lemma obeys_orNull {column : String} (h : G.Part (ofString column)) (values : List Value) :
    (orNull column values).Obeys G := by
  have null : G.Even (ofString (" OR " ++ column ++ " IS NULL")) :=
    G.concat (G.concat (G.word (by decide)) h.even) (G.word (by decide))
  exact obeys_one _ ((Grammar.part_filled h .deny values).even.append null).group

end Contribution

/-! ### Plans -/

open Contribution BoundQuery.Filter

section Obeys

variable {G : Grammar}

/-- What an operation adds obeys a grammar where its texts do. -/
theorem Operation.obeys {op : Operation} (h : G.Admits op.texts) : op.contribution.Obeys G := by
  cases op with
  | compare column comparison v =>
    have named : G.Part (ofString column) := h (.name, column) (.head _)
    have compared : G.Part (ofString comparison.symbol) :=
      h (.name, comparison.symbol) (.tail _ (.head _))
    exact obeys_one [v] (Grammar.part_comparison named compared v)
  | member column values =>
    have named : G.Part (ofString column) := h (.name, column) (.head _)
    rw [contribution]
    cases values.asList? with
    | none => exact obeys_empty
    | some items => exact obeys_membership named items .allow
  | nonMember column values orNull =>
    have named : G.Part (ofString column) := h (.name, column) (.head _)
    rw [contribution]
    cases values.asList? with
    | none => exact obeys_empty
    | some items =>
      cases orNull with
      | true => exact obeys_orNull named items
      | false => exact obeys_membership named items .deny
  | nullCheck column expected =>
    exact obeys_one [] (Grammar.part_null (h (.name, column) (.head _)) expected)
  | join left right columns =>
    have named : ∀ column ∈ columns, G.Part (ofString column) := fun column hm =>
      h (.name, column) (by simp [texts, hm])
    exact obeys_agreement (h (.name, left) (.head _)) (h (.name, right) (.tail _ (.head _))) named
  | groups columns =>
    have grouped : ∀ column ∈ columns, G.Even (ofString column) := fun column hm =>
      h (.group, column) (List.mem_map_of_mem hm)
    exact ⟨G.nil _ _, List.forall_mem_nil _, grouped, List.forall_mem_nil _⟩
  | paginate page limit =>
    have limited : G.Even (ofString "LIMIT ") := h (.closing, "LIMIT ") (.head _)
    have offset : G.Even (ofString " OFFSET ") := h (.closing, " OFFSET ") (.tail _ (.head _))
    rw [contribution]
    cases Draft.offset page limit with
    | error _ => exact obeys_empty
    | ok rows =>
      have last := G.valued (.int rows) (by decide) (by decide) offset
      have cut := G.append (G.valued (.int limit) (by decide) (by decide) limited) last
      rw [← List.append_assoc] at cut
      exact obeys_close [.int limit, .int rows] cut
  | raw sql =>
    have enclosed : G.Even (ofString sql) := h (.enclosed, sql) (.head _)
    have grouped : G.Part (ofString sql).group := enclosed.group
    rw [FilledText.group, ← FilledText.ofString_append, ← FilledText.ofString_append] at grouped
    exact obeys_one [] grouped
  | close sql => exact obeys_close [] (h (.closing, sql) (.head _))
  | extendBase sql =>
    exact ⟨h (.base, sql) (.head _), List.forall_mem_nil _, List.forall_mem_nil _,
      List.forall_mem_nil _⟩

namespace Filter.DropState

variable {c : DropColumns} {first : DropState} {rest : List DropState}

/-- The condition of a state may stand in parentheses; it has conjunctions outside of them. -/
lemma even_shown (h : G.Admits (Ask.inStates c first rest).texts) (now : Value)
    (state : DropState) : G.Even (state.shown c now) := by
  have start : G.Part (ofString c.startTime) := h (.state, c.startTime) (.head _)
  have stop : G.Part (ofString c.endTime) := h (.state, c.endTime) (.tail _ (.head _))
  have most : G.Part (ofString c.maxClaimable) :=
    h (.state, c.maxClaimable) (by simp [Ask.texts])
  have claimed : G.Part (ofString c.currentClaimed) :=
    h (.state, c.currentClaimed) (by simp [Ask.texts])
  have instant {column : String} (hc : G.Part (ofString column)) (comparison : Comparison)
      (hb : comparison ∈ Comparison.basic) : G.Even (.comparison column comparison now) :=
    (Grammar.part_comparison hc (Grammar.part_symbol hb) now).even
  have fixed {column other : String} (hc : G.Part (ofString column)) (comparison : Comparison)
      (hb : comparison ∈ Comparison.basic) (ho : G.Part (ofString other)) :
      G.Even (.compared column comparison other) :=
    (Grammar.part_compared hc (Grammar.part_symbol hb) ho).even
  have zero : G.Part (ofString "0") := G.word (by decide)
  have both {s t : FilledText} (hs : G.Even s) (ht : G.Even t) :
      G.Even (s ++ ofString " AND " ++ t) := (hs.append (G.word (by decide))).append ht
  have either {s t : FilledText} (hs : G.Even s) (ht : G.Even t) :
      G.Even (FilledText.group (s ++ ofString " OR " ++ t)) :=
    ((hs.append (G.word (by decide))).append ht).group.even
  have remaining : G.Even (remainingShown c) :=
    either (fixed most .eq (by decide) zero) (fixed claimed .lt (by decide) most)
  cases state with
  | created => exact both (instant start .gt (by decide)) remaining
  | active =>
    have running := either (fixed stop .eq (by decide) zero) (instant stop .gt (by decide))
    exact both (both (instant start .le (by decide)) running) remaining
  | soldOut => exact both (fixed most .gt (by decide) zero) (fixed claimed .ge (by decide) most)
  | ended =>
    have timed := both (instant start .le (by decide)) (fixed stop .gt (by decide) zero)
    exact both (both timed (instant stop .le (by decide))) remaining

lemma part_anyShown (h : G.Admits (Ask.inStates c first rest).texts) (now : Value) :
    G.Part (anyShown c now first rest) := by
  have each (state : DropState) : G.Even (state.shown c now).group :=
    (even_shown h now state).group.even
  cases rest with
  | nil => exact (even_shown h now first).group
  | cons second rest =>
    exact (Grammar.even_joinWith (G.word (by decide))
      (List.forall_mem_map.mpr fun state _ => each state)).group

end Filter.DropState

/-- What is asked of a value obeys a grammar where its texts do. -/
lemma Ask.part_shown {ask : Ask} (h : G.Admits ask.texts) (v : Value) : G.Part (ask.shown v) := by
  cases ask with
  | contains column =>
    have held : G.Part (.contains column v) := Grammar.part_contains (h (.name, column) (.head _)) v
    exact held.even.group
  | authorizes =>
    have valued : G.Leads reserved 0 1 (ofString "(" ++ [.value v]) :=
      G.valued v (by decide) (by decide) (G.word (by decide))
    have listed : G.Even (ofString " = ANY(auth_collection.authorized_accounts)") :=
      G.word (by decide)
    have authorized := G.append (G.append valued (listed.deeper 0)) (t := ofString ")") (n := 0)
      (G.word (by decide))
    rwa [List.append_assoc (ofString "(")] at authorized
  | scaled c comparison =>
    have price : G.Part (ofString c.price) := h (.name, c.price) (.head _)
    have precision : G.Part (ofString c.precision) := h (.name, c.precision) (.tail _ (.head _))
    have compared : G.Part (ofString comparison.symbol) :=
      h (.name, comparison.symbol) (by simp [texts])
    have power : G.Even (ofString (" * POWER(10, " ++ c.precision ++ ")")) :=
      G.concat (m := 1) (G.concat (G.word (by decide)) (precision.even.deeper 0))
        (G.word (by decide))
    exact ((Grammar.part_comparison price compared v).even.append power).group
  | inStates c first rest => exact Filter.DropState.part_anyShown h v

/-- That a template has a row that contains a value may stand in parentheses. -/
lemma Filter.Demand.even_rowInTemplate {c : AssetColumns} {table : String}
    (h : G.Admits (c.rowTexts table)) (v : Value) : G.Even (rowInTemplate c table v) := by
  have base : G.Even (ofString ("SELECT FROM " ++ templatesTable ++ " " ++ table)) :=
    h (.table, _) (.head _)
  have named : G.Part (ofString table) := h (.name, table) (.tail _ (.head _))
  have asset : G.Part (ofString c.asset) := h (.name, c.asset) (by simp [AssetColumns.rowTexts])
  have contract : G.Part (ofString "contract") :=
    h (.name, "contract") (by simp [AssetColumns.rowTexts])
  have template : G.Part (ofString "template_id") :=
    h (.name, "template_id") (by simp [AssetColumns.rowTexts])
  have columns : ∀ column ∈ ["contract", "template_id"], G.Part (ofString column) :=
    List.forall_mem_cons.mpr ⟨contract, List.forall_mem_singleton.mpr template⟩
  have data : G.Part (ofString (table ++ ".immutable_data")) :=
    h (.name, _) (by simp [AssetColumns.rowTexts])
  have held := obeys_one [v] (Grammar.part_contains data v).even.group
  exact (part_anyRow (((obeys_agreement named asset columns).append held).text base)).even

lemma Filter.OrderKey.even_filled {key : OrderKey} (h : G.Even (ofString key.column)) :
    G.Even (key.text.filled []) := by
  have direction : G.Even (ofString key.order.sql) := by
    cases key.order <;> exact G.word (by decide)
  have nulls : G.Even (ofString (if key.nullsLast then " NULLS LAST" else "")) := by
    split
    · exact G.word (by decide)
    · exact G.nil [] 0
  have ordered : G.Even (ofString (key.column ++ " " ++ key.order.sql)) :=
    G.concat (G.concat h (G.word (by decide))) direction
  exact Grammar.Even.append (G.concat ordered nulls) (G.nil [] 0)

/-- What a step adds obeys a grammar where its texts do. -/
theorem Plan.Step.obeys {s : Plan.Step} (h : G.Admits s.texts) : s.contribution.Obeys G := by
  cases s with
  | op operation => exact operation.obeys h
  | about v ask => exact obeys_one [v] (ask.part_shown h v)
  | anyMember values columns =>
    cases columns with
    | nil => exact obeys_empty
    | cons column columns =>
      have tests : ∀ t ∈ (column :: columns).map (Membership.filled · .allow values), G.Even t :=
        List.forall_mem_map.mpr fun column hm =>
          (Grammar.part_filled (h (.name, column) (List.mem_map_of_mem hm)) .allow values).even
      exact obeys_one _ (Grammar.even_joinWith (G.word (by decide)) tests).group
  | anywhere c t =>
    obtain ⟨columns, row⟩ := List.forall_mem_append.mp h
    let object : Value := (Demand.mk .any [t]).object
    have mutable : G.Even (.contains (c.asset ++ ".mutable_data") object) :=
      (Grammar.part_contains (columns (.name, _) (.head _)) object).even
    have immutable : G.Even (.contains (c.asset ++ ".immutable_data") object) :=
      (Grammar.part_contains (columns (.name, _) (.tail _ (.head _))) object).even
    have disjunction : G.Even (ofString " OR ") := G.word (by decide)
    have either := ((mutable.append disjunction).append immutable).append disjunction
    exact obeys_one [object] (either.append (Filter.Demand.even_rowInTemplate row object)).group
  | order keys =>
    obtain ⟨opening, columns⟩ := List.forall_mem_cons.mp h
    have shown : ∀ key ∈ keys, G.Even (key.text.filled []) := fun key hm =>
      Filter.OrderKey.even_filled (columns (.closing, key.column) (List.mem_map_of_mem hm))
    exact obeys_close [] (Grammar.even_clause opening (G.word (by decide))
      (List.forall_mem_map.mpr shown))

/-- What a plan adds obeys a grammar where its texts do. -/
theorem Plan.obeys {p : Plan} (h : G.Admits p.texts) : p.contribution.Obeys G := by
  induction p with
  | skip => exact obeys_empty
  | stop _ => exact obeys_empty
  | step s => exact s.obeys h
  | seq first rest ihf ihr =>
    obtain ⟨hf, hr⟩ := List.forall_mem_append.mp h
    exact (ihf hf).append (ihr hr)
  | hasRow base nested ih =>
    obtain ⟨hb, hn⟩ := List.forall_mem_cons.mp h
    exact (ih hn).hasRow hb
  | rowIfAsked base start nested ihs ihn =>
    obtain ⟨hb, hrest⟩ := List.forall_mem_cons.mp h
    obtain ⟨hs, hn⟩ := List.forall_mem_append.mp hrest
    rw [contribution]
    split
    · exact obeys_empty
    · exact ((ihs hs).append (ihn hn)).hasRow hb

end Obeys

end BoundQuery
