import BoundQuery.Value
import Mathlib.Tactic

/-!
# Lists inside lists

Documents and values nest in lists. What is found inside nested lists is named by the places that
lead to it; the members of an object are not looked into. A property of all that is found follows
from the step over one list, and a conversion that goes through lists converts what is found at
each place.
-/
namespace BoundQuery

/-! ### Places -/

section
variable {α β : Type} {items? : α → Option (List α)}

/-- What the places of a path lead to, each the place of an item in a list. -/
def descend (items? : α → Option (List α)) : List Nat → α → Option α
  | [], a => some a
  | place :: path, a => (items? a).bind fun items => items[place]?.bind (descend items? path)

/-- What holds wherever paths lead holds of the whole and wherever paths lead from its items. -/
theorem forall_descend {P : α → Prop} {a : α} :
    (∀ path b, descend items? path a = some b → P b) ↔
      P a ∧ ∀ items, items? a = some items → ∀ item ∈ items,
        ∀ path b, descend items? path item = some b → P b := by
  constructor
  · intro all
    refine ⟨all [] a rfl, fun items hitems item hitem path b hb => ?_⟩
    obtain ⟨place, hplace⟩ := List.mem_iff_getElem?.mp hitem
    refine all (place :: path) b ?_
    rw [descend, hitems, Option.bind_some, hplace, Option.bind_some, hb]
  · rintro ⟨whole, each⟩ path b hb
    cases path with
    | nil =>
      cases hb
      exact whole
    | cons place path =>
      rw [descend, Option.bind_eq_some_iff] at hb
      obtain ⟨items, hitems, hb⟩ := hb
      rw [Option.bind_eq_some_iff] at hb
      obtain ⟨item, hplace, hb⟩ := hb
      exact each items hitems item (List.mem_of_getElem? hplace) path b hb

/-- A conversion that goes through lists converts what is at the end of each path. -/
theorem descend_map {f : α → β} {items?' : β → Option (List β)}
    (through : ∀ a, items?' (f a) = (items? a).map (List.map f)) (path : List Nat) (a : α) :
    descend items?' path (f a) = (descend items? path a).map f := by
  induction path generalizing a with
  | nil => rfl
  | cons place path ih =>
    rw [descend, descend, through]
    cases items? a with
    | none => rfl
    | some items =>
      rw [Option.map_some, Option.bind_some, Option.bind_some, List.getElem?_map]
      cases items[place]? with
      | none => rfl
      | some item => exact ih item

/-- A list is left alone exactly if each of its items is. -/
theorem map_eq_self_iff {f : α → α} {as : List α} : as.map f = as ↔ ∀ a ∈ as, f a = a := by
  have same := @List.map_inj_left α α as f id
  rwa [List.map_id] at same

end

/-! ### Documents -/

namespace Json

def items? : Json → Option (List Json)
  | .array items => some items
  | _ => none

/-- The document that the places of a path lead to. -/
def at? (d : Json) (path : List Nat) : Option Json := descend items? path d

mutual

/-- Induction on the nesting of lists. -/
theorem list_induction {P : Json → Prop}
    (step : ∀ d : Json, (∀ items, d.items? = some items → ∀ item ∈ items, P item) → P d)
    (d : Json) : P d := by
  refine step d fun items hitems => ?_
  cases d with
  | array nested =>
    cases hitems
    exact forall_list_induction step items
  | _ => cases hitems

theorem forall_list_induction {P : Json → Prop}
    (step : ∀ d : Json, (∀ items, d.items? = some items → ∀ item ∈ items, P item) → P d)
    (items : List Json) : ∀ item ∈ items, P item := by
  cases items with
  | nil => nofun
  | cons d ds =>
    exact List.forall_mem_cons.mpr ⟨list_induction step d, forall_list_induction step ds⟩

end

end Json

/-! ### Values -/

namespace Value

/-- The value that the places of a path lead to. -/
def at? (v : Value) (path : List Nat) : Option Value := descend asList? path v

mutual

/-- Induction on the nesting of lists. -/
theorem list_induction {P : Value → Prop}
    (step : ∀ v : Value, (∀ items, v.asList? = some items → ∀ item ∈ items, P item) → P v)
    (v : Value) : P v := by
  refine step v fun items hitems => ?_
  cases v with
  | list nested =>
    cases hitems
    exact forall_list_induction step items
  | _ => cases hitems

theorem forall_list_induction {P : Value → Prop}
    (step : ∀ v : Value, (∀ items, v.asList? = some items → ∀ item ∈ items, P item) → P v)
    (items : List Value) : ∀ item ∈ items, P item := by
  cases items with
  | nil => nofun
  | cons v vs =>
    exact List.forall_mem_cons.mpr ⟨list_induction step v, forall_list_induction step vs⟩

end

/-- Reading a document keeps its lists. -/
theorem asList?_ofJson (d : Json) : (ofJson d).asList? = d.items?.map (List.map ofJson) := by
  cases d with
  | array items => rw [ofJson, ofJsonItems_eq_map, asList?, Json.items?, Option.map_some]
  | number number =>
    cases number with
    | integer n lower upper =>
      rw [ofJson, ofJsonNumber]
      cases Decimal.toInt64? n with
      | _ => rfl
    | float x finite => rfl
  | _ => rfl

/-- The value at the end of a path is the value of the document there. -/
theorem at?_ofJson (d : Json) (path : List Nat) : (ofJson d).at? path = (d.at? path).map ofJson :=
  descend_map asList?_ofJson path d

end Value

end BoundQuery
