import BoundQuery.Arguments
import Mathlib.Tactic

/-!
# Texts with commas

A text is split at its commas and nowhere else, so items without a comma are found again between
the commas that join them. Of a list argument given as a text, the items are what is left when the
empty ones are dropped.
-/
namespace BoundQuery

lemma splitCommas_of_not_mem {item : List Char} (h : ',' ∉ item) : splitCommas item = [item] := by
  induction item with
  | nil => rfl
  | cons c item ih =>
    rw [List.mem_cons, not_or] at h
    rw [splitCommas, if_neg (Ne.symm h.1), ih h.2]

lemma splitCommas_append {item : List Char} (h : ',' ∉ item) (rest : List Char) :
    splitCommas (item ++ ',' :: rest) = item :: splitCommas rest := by
  induction item with
  | nil => simp [splitCommas]
  | cons c item ih =>
    rw [List.mem_cons, not_or] at h
    rw [List.cons_append, splitCommas, if_neg (Ne.symm h.1), ih h.2]

lemma splitCommas_intercalate {items : List (List Char)} (hne : items ≠ [])
    (h : ∀ item ∈ items, ',' ∉ item) : splitCommas ([','].intercalate items) = items := by
  obtain ⟨item, items, rfl⟩ := List.exists_cons_of_ne_nil hne
  induction items generalizing item with
  | nil =>
    rw [List.intercalate_singleton]
    exact splitCommas_of_not_mem (h item (by simp))
  | cons second items ih =>
    rw [List.intercalate_cons_cons, List.append_assoc, List.singleton_append,
      splitCommas_append (h item (by simp)),
      ih second (by simp) fun item hm => h item (List.mem_cons_of_mem _ hm)]

namespace Arguments

/-- The items of a text are what stands between its commas, if anything does. -/
theorem itemsOf_text (s : String) :
    itemsOf (.text s) = ((splitCommas s.toList).filter fun item => !item.isEmpty).map
      fun item => .text (String.ofList item) := by
  rw [itemsOf, ← List.filterMap_eq_map, List.filterMap_filter]
  congr 1
  funext item
  cases item <;> rfl

end Arguments

end BoundQuery
