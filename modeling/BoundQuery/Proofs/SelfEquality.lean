import BoundQuery.Draft
import BoundQuery.Arguments
import Mathlib.Tactic

/-!
# Values that differ from themselves

Values are compared by kind and floats as numbers, so a value differs from itself exactly when
there is a NaN in it, at any depth of its lists. A document has no NaN. Bound values therefore
start with themselves unless a NaN is among them.
-/
namespace BoundQuery

namespace Binary64

/-- A finite number is not a NaN. -/
lemma isNaN_of_isFinite {x : Binary64} (h : x.isFinite = true) : x.isNaN = false := by
  rw [isFinite, decide_eq_true_eq] at h
  rw [isNaN, decide_eq_false_iff_not]
  omega

end Binary64

theorem JsonNumber.same_self (n : JsonNumber) : n.same n = true := by
  cases n with
  | integer n lower upper => exact beq_self_eq_true n
  | float x finite => exact (Binary64.same_self_iff x).mpr (Binary64.isNaN_of_isFinite finite)

namespace Json

mutual

/-- A document equals itself. -/
theorem same_self (d : Json) : d.same d = true := by
  cases d with
  | null => rfl
  | bool b => exact beq_self_eq_true b
  | number n => exact n.same_self
  | string s => exact beq_self_eq_true s
  | array items => exact sameItems_self items
  | object members => exact sameMembers_self members

theorem sameItems_self (items : List Json) : sameItems items items = true := by
  cases items with
  | nil => rfl
  | cons d items => rw [sameItems, same_self d, sameItems_self items, Bool.and_self]

theorem sameMembers_self (members : List (String × Json)) :
    sameMembers members members = true := by
  cases members with
  | nil => rfl
  | cons member members =>
    obtain ⟨name, d⟩ := member
    rw [sameMembers, same_self d, sameMembers_self members, beq_self_eq_true, Bool.and_self,
      Bool.and_self]

end

end Json

namespace Value

mutual

/-- A NaN is in the value. -/
def hasNaN : Value → Bool
  | .float x => x.isNaN
  | .list items => anyNaN items
  | _ => false

/-- A NaN is in one of the values. -/
def anyNaN : List Value → Bool
  | [] => false
  | v :: vs => v.hasNaN || anyNaN vs

end

@[simp] theorem anyNaN_nil : anyNaN [] = false := rfl

@[simp] theorem anyNaN_cons (v : Value) (vs : List Value) :
    anyNaN (v :: vs) = (v.hasNaN || anyNaN vs) := rfl

@[simp] theorem hasNaN_list (items : List Value) : (list items).hasNaN = anyNaN items := rfl

@[simp] theorem anyNaN_append (vs ws : List Value) :
    anyNaN (vs ++ ws) = (anyNaN vs || anyNaN ws) := by
  induction vs with
  | nil => rfl
  | cons v vs ih => rw [List.cons_append, anyNaN_cons, anyNaN_cons, ih, Bool.or_assoc]

mutual

/-- A value equals itself unless a NaN is in it. -/
theorem same_self (v : Value) : v.same v = !v.hasNaN := by
  cases v with
  | null => rfl
  | bool b => exact beq_self_eq_true b
  | int n => exact beq_self_eq_true n
  | float x =>
    rw [same, hasNaN, Bool.eq_iff_iff, Binary64.same_self_iff, Bool.not_eq_true']
  | text s => exact beq_self_eq_true s
  | list items => exact sameItems_self items
  | json d => exact d.same_self

theorem sameItems_self (vs : List Value) : sameItems vs vs = !anyNaN vs := by
  cases vs with
  | nil => rfl
  | cons v vs => rw [sameItems, same_self v, sameItems_self vs, anyNaN_cons, Bool.not_or]

end

end Value

/-- Values that go on from the same ones start alike when no NaN is among those and what they go on
with does. -/
theorem Draft.startsWith_append (bound more others : List Value) :
    startsWith (bound ++ more) (bound ++ others) =
      (!Value.anyNaN bound && startsWith more others) := by
  induction bound with
  | nil => rfl
  | cons v bound ih =>
    rw [List.cons_append, List.cons_append, startsWith, v.same_self, ih, Value.anyNaN_cons,
      Bool.not_or, Bool.and_assoc]

/-- Values start with some of them exactly when no NaN is among those. -/
theorem Draft.startsWith_append_self (bound more : List Value) :
    startsWith (bound ++ more) bound = !Value.anyNaN bound := by
  have ended := startsWith_append bound more []
  rwa [List.append_nil, startsWith_nil, Bool.and_true] at ended

namespace Arguments

lemma anyNaN_texts (items : List (List Char)) : Value.anyNaN (items.filterMap fun item =>
    if item.isEmpty then none else some (.text (String.ofList item))) = false := by
  induction items with
  | nil => rfl
  | cons item items ih =>
    rw [List.filterMap_cons]
    by_cases empty : item.isEmpty = true
    · simp only [if_pos empty, ih]
    · simp only [if_neg empty, Value.anyNaN_cons, ih]
      rfl

/-- The items of a value have a NaN when the value has one. -/
theorem anyNaN_itemsOf (v : Value) : Value.anyNaN (itemsOf v) = v.hasNaN := by
  cases v with
  | text s => exact anyNaN_texts _
  | list items => rfl
  | _ => exact Bool.or_false _

/-- A NaN is in the argument. -/
def NaNAt (args : Arguments) (name : String) : Prop :=
  ∃ v, args.get? name = some v ∧ v.hasNaN = true

theorem anyNaN_list (args : Arguments) (name : String) :
    Value.anyNaN (args.list name) = true ↔ args.NaNAt name := by
  unfold list NaNAt
  cases args.get? name with
  | none => simp
  | some v => simp [anyNaN_itemsOf]

end Arguments

end BoundQuery
