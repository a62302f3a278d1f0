import BoundQuery.Proofs.Equations
import BoundQuery.Proofs.FilledCondition

/-!
# Contributions to a draft

A contribution is what a step adds to a draft, written with the values in place and so without
placeholders. A draft gains it when the texts added refer to values bound by the step and show the
contribution. Gains compose: what is bound later disturbs no text written before, and a nested
draft that gained a contribution is shown, inside its parent, with its own values in place.
-/
namespace BoundQuery

structure Contribution where
  base : String := ""
  conditions : List FilledText := []
  groups : List String := []
  closing : List FilledText := []
  values : List Value := []

open FilledText (ofString)

namespace Contribution

/-- One contribution after another. -/
instance : Append Contribution where
  append k k' :=
    ⟨k.base ++ k'.base, k.conditions ++ k'.conditions, k.groups ++ k'.groups,
      k.closing ++ k'.closing, k.values ++ k'.values⟩

section Append

variable (k k' : Contribution)

@[simp] theorem base_append : (k ++ k').base = k.base ++ k'.base := rfl

@[simp] theorem conditions_append : (k ++ k').conditions = k.conditions ++ k'.conditions := rfl

@[simp] theorem groups_append : (k ++ k').groups = k.groups ++ k'.groups := rfl

@[simp] theorem closing_append : (k ++ k').closing = k.closing ++ k'.closing := rfl

@[simp] theorem values_append : (k ++ k').values = k.values ++ k'.values := rfl

end Append

/-- The statement that a contribution makes of a base. -/
def text (base : String) (k : Contribution) : FilledText :=
  ofString (base ++ k.base) ++ FilledText.clause " WHERE " " AND " k.conditions
    ++ FilledText.clause " GROUP BY " ", " (k.groups.map ofString)
    ++ k.closing.flatMap fun t => ofString " " ++ t

/-- A column compared with a value. -/
def comparison (column : String) (comparison : Comparison) (v : Value) : Contribution where
  conditions := [.comparison column comparison v]
  values := [v]

/-- A condition that binds nothing. -/
def condition (sql : String) : Contribution where
  conditions := [ofString sql]

/-- Whether a column is null. -/
def nullCheck (column : String) (expected : Bool) : Contribution :=
  .condition (column ++ if expected then " IS NULL" else " IS NOT NULL")

/-- That two tables agree on some columns. -/
def agreement (left right : String) (columns : List String) : Contribution where
  conditions := columns.map fun column =>
    ofString (left ++ "." ++ column ++ " = " ++ right ++ "." ++ column)

/-- The clause that cuts a page out. -/
def page (limit rows : Int64) : Contribution where
  closing := [ofString "LIMIT " ++ [.value (.int limit)] ++ ofString " OFFSET "
    ++ [.value (.int rows)]]
  values := [.int limit, .int rows]

/-- That the nested statement made of a base has a row. -/
def hasRow (base : String) (k : Contribution) : Contribution where
  conditions := [FilledText.group (ofString "EXISTS(" ++ k.text base ++ ofString ")")]
  values := k.values

/-- A membership test on a column. -/
def membership (column : String) (values : List Value) (sense : Sense) : Contribution where
  conditions := [Membership.filled column sense values]
  values := Membership.bound values

/-- A membership test that a null passes as well. -/
def orNull (column : String) (values : List Value) : Contribution where
  conditions := [FilledText.group (Membership.filled column .deny values
    ++ ofString (" OR " ++ column ++ " IS NULL"))]
  values := Membership.bound values

end Contribution

namespace Draft

/-- No text is added. -/
lemma none_added {α : Type} {R : α → FilledText → Prop} (before : List α) :
    ∃ more, before = before ++ more ∧ List.Forall₂ R more [] :=
  ⟨[], (List.append_nil before).symm, .nil⟩

/-- A draft gains a contribution: texts are added that show it and refer to the values added. -/
structure Gains (k : Contribution) (d e : Draft) : Prop where
  base : e.base = d.base ++ k.base
  conditions : ∃ more, e.conditions = d.conditions ++ more ∧
    List.Forall₂ (fun c shown => c.text.Shows d.params.length e.params shown) more k.conditions
  groups : e.groups = d.groups ++ k.groups
  closing : ∃ more, e.closing = d.closing ++ more ∧
    List.Forall₂ (fun t shown => t.Shows d.params.length e.params shown) more k.closing
  params : e.params = d.params ++ k.values

theorem Gains.refl (d : Draft) : Gains {} d d where
  base := (String.append_empty).symm
  conditions := none_added d.conditions
  groups := (List.append_nil _).symm
  closing := none_added d.closing
  params := (List.append_nil _).symm

/-- Later values leave the earlier texts as they are, and later texts refer to later values. -/
theorem Gains.trans {k k' : Contribution} {d e f : Draft} (h : Gains k d e) (h' : Gains k' e f) :
    Gains (k ++ k') d f := by
  have before {t : SqlText} {shown : FilledText}
      (ht : t.Shows d.params.length e.params shown) :
      t.Shows d.params.length f.params shown := by
    rw [h'.params]
    exact ht.extend k'.values
  have after {t : SqlText} {shown : FilledText}
      (ht : t.Shows e.params.length f.params shown) :
      t.Shows d.params.length f.params shown := by
    apply ht.weaken
    rw [h.params, List.length_append]
    omega
  obtain ⟨cs, he, hcs⟩ := h.conditions
  obtain ⟨cs', hf, hcs'⟩ := h'.conditions
  obtain ⟨ts, het, hts⟩ := h.closing
  obtain ⟨ts', hft, hts'⟩ := h'.closing
  exact {
    base := by rw [h'.base, h.base, String.append_assoc]; rfl
    conditions := ⟨cs ++ cs', by rw [hf, he, List.append_assoc],
      List.rel_append (hcs.imp fun _ _ => before) (hcs'.imp fun _ _ => after)⟩
    groups := by rw [h'.groups, h.groups, List.append_assoc]; rfl
    closing := ⟨ts ++ ts', by rw [hft, het, List.append_assoc],
      List.rel_append (hts.imp fun _ _ => before) (hts'.imp fun _ _ => after)⟩
    params := by rw [h'.params, h.params, List.append_assoc]; rfl }

/-- Values are bound, and conditions that refer to them are added. -/
theorem gains_of_bound (d : Draft) (values : List Value) {conditions : List Condition}
    {texts : List FilledText}
    (h : List.Forall₂ (fun c shown => c.text.Shows d.params.length (d.params ++ values) shown)
      conditions texts) :
    Gains { conditions := texts, values := values } d
      { d with params := d.params ++ values, conditions := d.conditions ++ conditions } :=
  { Gains.refl d with
    conditions := ⟨conditions, rfl, h⟩
    closing := none_added d.closing
    params := rfl }

/-- A condition is added that refers to nothing. -/
theorem gains_add (d : Draft) {c : Condition} {shown : FilledText}
    (h : c.text.Shows d.params.length d.params shown) :
    Gains { conditions := [shown] } d (d.add c) :=
  { Gains.refl d with
    conditions := ⟨[c], rfl, .cons h .nil⟩
    closing := none_added d.closing }

/-- A value is bound, and a condition is added that refers to it. -/
theorem gains_bind_add (d : Draft) (v : Value) {c : Condition} {shown : FilledText}
    (h : c.text.Shows d.params.length (d.params ++ [v]) shown) :
    Gains { conditions := [shown], values := [v] } d ((d.bind v).2.add c) :=
  gains_of_bound d [v] (.cons h .nil)

/-! ### Steps -/

theorem gains_addComparison (d : Draft) (column : String) (comparison : Comparison) (v : Value) :
    Gains (.comparison column comparison v) d (d.addComparison column comparison v) :=
  gains_bind_add d v
    (Condition.shows_compareTo column comparison (d.value?_next v) d.length_lt_next)

theorem gains_addNullCheck (d : Draft) (column : String) (expected : Bool) :
    Gains (.nullCheck column expected) d (d.addNullCheck column expected) :=
  gains_add d (SqlText.shows_ofString _)

theorem gains_addRaw (d : Draft) (sql : String) :
    Gains (.condition ("(" ++ sql ++ ")")) d (d.addRaw (.ofString sql)) := by
  apply gains_add
  have inner : (SqlText.ofString sql).Shows d.params.length d.params (ofString sql) :=
    SqlText.shows_ofString sql
  exact inner.group.congr (by simp [FilledText.group])

/-- That two tables agree is written without placeholders. -/
lemma shows_agreement (left right : String) (columns : List String) {m : Nat}
    {params : List Value} :
    List.Forall₂ (fun (c : Condition) shown => c.text.Shows m params shown)
      (columns.map fun column =>
        .compare (.column (left ++ "." ++ column)) .eq (.column (right ++ "." ++ column)))
      (Contribution.agreement left right columns).conditions := by
  apply forall₂_map_map
  intro column
  have equals : ofString " = " = ofString " " ++ (ofString "=" ++ ofString " ") := rfl
  exact (Condition.shows_compare _ .eq rfl).congr
    (by simp [FilledText.compared, Comparison.symbol, equals])

theorem gains_addJoin (d : Draft) (left right : String) (columns : List String) :
    Gains (.agreement left right columns) d (d.addJoin left right columns) :=
  { Gains.refl d with
    conditions := ⟨_, rfl, shows_agreement left right columns⟩
    closing := none_added d.closing }

theorem gains_extendBase (d : Draft) (sql : String) :
    Gains { base := sql } d (d.extendBase sql) :=
  { Gains.refl d with
    base := rfl
    conditions := none_added d.conditions
    closing := none_added d.closing }

theorem gains_addGroups (d : Draft) (columns : List String) :
    Gains { groups := columns } d (d.addGroups columns) :=
  { Gains.refl d with
    groups := rfl
    conditions := none_added d.conditions
    closing := none_added d.closing }

/-- A closing clause is added that refers to nothing. -/
theorem gains_close (d : Draft) {clause : SqlText} {shown : FilledText}
    (h : clause.Shows d.params.length d.params shown) :
    Gains { closing := [shown] } d (d.close clause) :=
  { Gains.refl d with
    conditions := none_added d.conditions
    closing := ⟨[clause], rfl, .cons h .nil⟩ }

/-- A page is cut out by two values of its own. -/
theorem gains_cut (d : Draft) (limit rows : Int64) :
    Gains (.page limit rows) d (d.cut limit rows) := by
  have limited : (⟨d.params.length + 1⟩ : Placeholder).value?
      (d.params ++ [.int limit, .int rows]) = some (.int limit) := by
    simp
  have offset : (⟨d.params.length + 2⟩ : Placeholder).value?
      (d.params ++ [.int limit, .int rows]) = some (.int rows) := by
    rw [show d.params.length + 2 = (d.params.length + 1) + 1 from rfl, Placeholder.value?_succ,
      List.getElem?_append_right (by omega)]
    simp
  have after : SqlText.Shows [.verbatim " OFFSET ", .placeholder ⟨d.params.length + 2⟩]
      d.params.length (d.params ++ [.int limit, .int rows])
      (ofString " OFFSET " ++ [.value (.int rows)]) :=
    (SqlText.shows_nil.placeholder offset (Nat.lt_add_of_pos_right Nat.two_pos)).verbatim " OFFSET "
  have page := (after.placeholder limited (Nat.lt_succ_self _)).verbatim "LIMIT "
  exact { Gains.refl d with
    conditions := none_added d.conditions
    closing := ⟨_, rfl, .cons (page.congr (by simp)) .nil⟩
    params := rfl }

/-! ### Membership tests -/

theorem gains_addMember (d : Draft) (column : String) (values : List Value) :
    Gains (.membership column values .allow) d (d.addMember column values) := by
  have added : d.addMember column values =
      ((d.test column values .allow).2).add (d.test column values .allow).1 := rfl
  rw [added, test_snd]
  exact gains_of_bound d _ (.cons (d.shows_test column values .allow) .nil)

theorem gains_addNonMember (d : Draft) (column : String) (values : List Value) (orNull : Bool) :
    Gains (if orNull then .orNull column values else .membership column values .deny) d
      (d.addNonMember column values orNull) := by
  have added : d.addNonMember column values orNull =
      ((d.test column values .deny).2).add (if orNull then
        (d.test column values .deny).1.orNull column else (d.test column values .deny).1) := rfl
  have tested := d.shows_test column values .deny
  rw [added, test_snd]
  cases orNull with
  | false => exact gains_of_bound d _ (.cons tested .nil)
  | true => exact gains_of_bound d _ (.cons (Condition.shows_orNull column tested) .nil)

/-! ### Nested drafts -/

/-- The text of a draft shows what the draft gained since it was started. -/
theorem Gains.shows_text {k : Contribution} {base : String} {values : List Value} {sub : Draft}
    (h : Gains k (seeded base values) sub) :
    sub.text.Shows values.length sub.params (k.text base) := by
  obtain ⟨cs, hconditions, hcs⟩ := h.conditions
  obtain ⟨ts, hclosing, hts⟩ := h.closing
  have conditions : sub.conditions = cs := hconditions
  have closing : sub.closing = ts := hclosing
  have groups : sub.groups = k.groups := h.groups
  have started : sub.base = base ++ k.base := h.base
  have filtered : List.Forall₂ (fun t shown => SqlText.Shows t values.length sub.params shown)
      (cs.map Condition.text) k.conditions := List.forall₂_map_left_iff.mpr hcs
  have grouped : List.Forall₂ (fun t shown => SqlText.Shows t values.length sub.params shown)
      (k.groups.map SqlText.ofString) (k.groups.map ofString) :=
    forall₂_map_map _ SqlText.shows_ofString
  rw [Draft.text, Contribution.text, conditions, closing, groups, started]
  have front := (SqlText.Shows.clause " WHERE " " AND " filtered).verbatim (base ++ k.base)
  exact (front.append (SqlText.Shows.clause " GROUP BY " ", " grouped)).append
    (SqlText.Shows.closing hts)

/-- Folding a nested draft back adds that the statement it grew into has a row. -/
theorem Gains.fold {k : Contribution} {base : String} {d sub e : Draft}
    (h : Gains k (d.nested base) sub) (hf : d.fold sub = .ok e) : Gains (k.hasRow base) d e := by
  obtain ⟨_, habsorb, rfl⟩ := Outcome.map_eq_ok.mp hf
  obtain ⟨-, rfl⟩ := absorb_eq_ok.mp habsorb
  have params : sub.params = d.params ++ k.values := h.params
  have row := (Condition.shows_anyRow h.shows_text).group
  rw [params] at row
  have gained := gains_of_bound d k.values
    (List.Forall₂.cons (a := Condition.group (.anyRow sub.text)) row .nil)
  rwa [← params] at gained

/-! ### Conditions with the values in place -/

/-- The conditions of a draft with the values in place. -/
def filledConditions (d : Draft) : List FilledText :=
  d.conditions.map fun c => c.text.filled d.params

/-- Every placeholder in the conditions of a draft stands for a value. -/
def Bound (d : Draft) : Prop := ∀ c ∈ d.conditions, ∀ k ∈ c.text.ordinals, k ≤ d.params.length

variable {k : Contribution} {d e : Draft}

/-- The conditions gained are those of the contribution once their values are in place. -/
lemma Gains.exists_conditions (h : Gains k d e) : ∃ more, e.conditions = d.conditions ++ more ∧
    (more.map fun c => c.text.filled e.params) = k.conditions := by
  obtain ⟨more, hmore, hshown⟩ := h.conditions
  have equal : List.Forall₂ Eq (more.map fun c => c.text.filled e.params) k.conditions :=
    List.forall₂_map_left_iff.mpr (hshown.imp fun _ _ shows => shows.filled)
  rw [List.forall₂_eq_eq_eq] at equal
  exact ⟨more, hmore, equal⟩

/-- What a draft gains leaves its own conditions as they are, and their meaning where they are
bound. -/
lemma Gains.filledConditions_eq (h : Gains k d e) (hd : d.Bound) :
    e.filledConditions = d.filledConditions ++ k.conditions := by
  obtain ⟨more, hmore, hfilled⟩ := h.exists_conditions
  have kept : (d.conditions.map fun c => c.text.filled e.params) = d.filledConditions := by
    apply List.map_congr_left
    intro c hc
    rw [h.params, SqlText.filled_append_params (hd c hc)]
  rw [filledConditions, hmore, List.map_append, hfilled, kept]

lemma Gains.closing_eq (h : Gains k d e) (hk : k.closing = []) : e.closing = d.closing := by
  obtain ⟨more, hmore, hshown⟩ := h.closing
  rw [hk, List.forall₂_nil_right_iff] at hshown
  rw [hmore, hshown, List.append_nil]

end Draft

end BoundQuery
