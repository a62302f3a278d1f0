import BoundQuery.Composer
import BoundQuery.Proofs.Outcome

/-!
# Equations of steps

What a step of a draft or of a filter comes to, with the choices it makes on its arguments in
the open. The statements here unfold the definitions once, so that a property of drafts is shown
for each step without unfolding it again.
-/
namespace BoundQuery

namespace Draft

lemma listFor_eq_ok {column : String} {v : Value} {items : List Value} :
    listFor column v = .ok items ↔ v.asList? = some items := by
  unfold listFor
  cases v.asList? <;> simp

lemma asList?_eq_none_of_listFor {column : String} {v : Value} {e : Error}
    (h : listFor column v = .error e) : v.asList? = none := by
  unfold listFor at h
  cases hv : v.asList? with
  | none => rfl
  | some items =>
    rw [hv] at h
    cases h

theorem absorb_eq_ok {d sub : Draft} {r : Condition × Draft} :
    d.absorb sub = .ok r ↔
      startsWith sub.params d.params = true ∧ r = (.anyRow sub.text, d.adopt sub.params) := by
  unfold absorb
  by_cases h : startsWith sub.params d.params = true
  · rw [if_pos h, Except.ok.injEq]
    simp only [h, true_and]
    exact eq_comm
  · simp [h]

/-- Rows that a machine integer can count are counted. -/
lemma exists_offset {page limit : Int64}
    (hbefore : -2 ^ 63 ≤ page.toInt - 1 ∧ page.toInt - 1 < 2 ^ 63)
    (hrows : -2 ^ 63 ≤ (page.toInt - 1) * limit.toInt ∧
      (page.toInt - 1) * limit.toInt < 2 ^ 63) :
    ∃ rows, offset page limit = .ok rows := by
  have before : (Int64.ofInt (page.toInt - 1)).toInt = page.toInt - 1 :=
    Int64.toInt_ofInt_of_le hbefore.1 hbefore.2
  refine ⟨Int64.ofInt ((page.toInt - 1) * limit.toInt), ?_⟩
  simp only [offset, Decimal.toInt64?, if_pos hbefore, before, if_pos hrows]

/-- The draft with the clause that cuts a page out. -/
def cut (d : Draft) (limit rows : Int64) : Draft :=
  { d with
    params := d.params ++ [.int limit, .int rows]
    closing := d.closing ++ [[.verbatim "LIMIT ", .placeholder ⟨d.params.length + 1⟩,
      .verbatim " OFFSET ", .placeholder ⟨d.params.length + 2⟩]] }

theorem paginate_eq_ok {d e : Draft} {page limit : Int64} :
    d.paginate page limit = .ok e ↔
      ∃ rows, offset page limit = .ok rows ∧ e = d.cut limit rows := by
  have cut_eq (rows : Int64) : (((d.bind (.int limit)).2.bind (.int rows)).2.close
      [.verbatim "LIMIT ", .placeholder d.next, .verbatim " OFFSET ",
        .placeholder (d.bind (.int limit)).2.next]) = d.cut limit rows := by
    simp [bind, close, next, cut]
  rw [paginate, Outcome.map_eq_ok]
  constructor
  · rintro ⟨rows, hrows, rfl⟩
    exact ⟨rows, hrows, cut_eq rows⟩
  · rintro ⟨rows, hrows, rfl⟩
    exact ⟨rows, hrows, cut_eq rows⟩

end Draft

open BoundQuery.Draft

namespace Filter

/-! ### Nested statements of the filters -/

namespace Attributes

/-- The nested statement that asks for a term, bound before it, in the template. -/
def anywhereDraft (c : AssetColumns) (p : Placeholder) (d : Draft) : Draft :=
  (templateOf c "any_template" d).add (.group (.contains "any_template.immutable_data" p))

/-- The condition that asks for a term in any of the sources. -/
def anywhereCondition (c : AssetColumns) (p : Placeholder) (d : Draft) : Condition :=
  .group (.or
    (.or (.contains (c.asset ++ ".mutable_data") p) (.contains (c.asset ++ ".immutable_data") p))
    (.anyRow (anywhereDraft c p d).text))

theorem requireAnywhere_eq_ok {c : AssetColumns} {d e : Draft} {t : Term} :
    requireAnywhere c d t = .ok e ↔
      startsWith (d.bind (objectOf [t])).2.params (d.bind (objectOf [t])).2.params = true ∧
      e = (d.bind (objectOf [t])).2.add
        (anywhereCondition c d.next (d.bind (objectOf [t])).2) := by
  unfold requireAnywhere
  simp only [Outcome.map_eq_ok, absorb_eq_ok]
  constructor
  · rintro ⟨r, ⟨hs, rfl⟩, rfl⟩
    exact ⟨hs, rfl⟩
  · rintro ⟨hs, rfl⟩
    exact ⟨_, ⟨hs, rfl⟩, rfl⟩

end Attributes

/-! ### Optional bounds -/

lemma Window.compare_eq_applyBound (column : String) (comparison : Comparison)
    (v : Option Value) (d : Draft) :
    Window.compare column comparison v d = Criterion.applyBound d column comparison v := by
  cases v <;> rfl

/-! ### Drop states asked for -/

namespace DropState

theorem ofName_eq_ok {name : String} {state : DropState} :
    ofName name = .ok state ↔ name = state.name := by
  constructor
  · intro h
    unfold ofName at h
    split at h
    · rename_i found
      cases h
      have same := List.find?_some found
      exact (eq_of_beq same).symm
    · cases h
  · rintro rfl
    cases state <;> rfl

theorem ofValue_eq_ok {v : Value} {state : DropState} :
    ofValue v = .ok state ↔ v = .text state.name := by
  cases v with
  | text name => simp [ofValue, Value.asText?, ofName_eq_ok]
  | _ => simp [ofValue, Value.asText?]

theorem mem_distinct {state : DropState} {states : List DropState} :
    state ∈ distinct states ↔ state ∈ states := by
  have kept (held : List DropState) : state ∈ states.foldl
      (fun kept state => if state ∈ kept then kept else kept ++ [state]) held ↔
        state ∈ held ∨ state ∈ states := by
    induction states generalizing held with
    | nil => simp
    | cons next states ih =>
      rw [List.foldl_cons, ih]
      by_cases h : next ∈ held
      · rw [if_pos h, List.mem_cons]
        constructor
        · rintro (hs | hs)
          · exact .inl hs
          · exact .inr (.inr hs)
        · rintro (hs | rfl | hs)
          · exact .inl hs
          · exact .inl h
          · exact .inr hs
      · rw [if_neg h, List.mem_append, List.mem_singleton, List.mem_cons, or_assoc]
  exact (kept []).trans (by simp)

/-- The states asked for are named by the texts of the list. -/
theorem requested_eq_ok {args : Arguments} {states : List DropState} :
    requested args = .ok states ↔
      ∃ named, args.list "state" = named.map (fun state => .text state.name) ∧
        states = distinct named := by
  have texts (named : List DropState) : (args.list "state").mapM ofValue = .ok named ↔
      args.list "state" = named.map fun state => .text state.name := by
    simp only [Outcome.mapM_eq_ok, ofValue_eq_ok]
    rw [← List.forall₂_eq_eq_eq, List.forall₂_map_right_iff]
  simp only [requested, Outcome.map_eq_ok, texts, eq_comm (b := states)]

end DropState

end Filter

end BoundQuery
