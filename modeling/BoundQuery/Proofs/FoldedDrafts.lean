import BoundQuery.Proofs.Equations
import BoundQuery.Proofs.FilledText
import BoundQuery.Proofs.SelfEquality

/-!
# Folding any draft into any other

A nested draft need not be one that its parent opened: it may have been started from other values,
or either may have bound more in the meantime. Folding compares the values, and where those of the
nested draft start with all that the parent has now, nothing that is written changes its meaning.
Everything else is a fault. Main statement: `Draft.fold_keeps_meaning`.
-/
namespace BoundQuery

/-! ### Tokens of a text put together -/

/-- A text that does not open with a digit is cut apart from what stands before it. -/
lemma SqlToken.scanFrom_append (state : Option (List Char)) (text : List Char) {rest : List Char}
    (h : NoDigitAhead rest) :
    scanFrom state (text ++ rest) = scanFrom state text ++ scan rest := by
  fun_induction scanFrom state text with
  | case1 => rfl
  | case2 digits =>
    simpa using scanFrom_digits (List.forall_mem_nil _) h digits
  | case3 text ih => simp [scanFrom, ih]
  | case4 c text hc ih => simp [scanFrom, hc, ih]
  | case5 digits c text hd ih => simp [scanFrom, hd, ih]
  | case6 digits text hd ih => simp [scanFrom, hd, ih]
  | case7 digits c text hd hc ih => simp [scanFrom, hd, hc, ih]

namespace Draft

/-! ### Values that start with others -/

/-- The first of some values equal all of some others, one by one. -/
def StartAs (values others : List Value) : Prop :=
  List.Forall₂ (fun v w => v.same w = true) (values.take others.length) others

theorem startsWith_iff {values others : List Value} :
    startsWith values others = true ↔ StartAs values others := by
  induction others generalizing values with
  | nil => simp [startsWith_nil, StartAs]
  | cons w others ih =>
    cases values with
    | nil => simp [startsWith, StartAs]
    | cons v values =>
      rw [startsWith, Bool.and_eq_true, ih]
      simp only [StartAs, List.length_cons, List.take_succ_cons, List.forall₂_cons]

/-- A placeholder of the others has an equal value among the values that start with them. -/
lemma StartAs.exists_value {values others : List Value} (h : StartAs values others)
    {p : Placeholder} (lower : 1 ≤ p.ordinal) (upper : p.ordinal ≤ others.length) :
    ∃ v w, p.value? others = some v ∧ p.value? values = some w ∧ w.same v = true := by
  obtain ⟨_ | index⟩ := p
  · exact absurd lower (by decide)
  · obtain ⟨lengths, each⟩ := List.forall₂_iff_get.mp h
    have within : index < others.length := upper
    have taken : index < (values.take others.length).length := by rwa [lengths]
    have found : index < values.length := by
      rw [List.length_take] at taken
      omega
    refine ⟨others[index], values[index], ?_, ?_, ?_⟩
    · rw [Placeholder.value?_succ, List.getElem?_eq_getElem within]
    · rw [Placeholder.value?_succ, List.getElem?_eq_getElem found]
    · have equal := each index taken within
      rwa [List.get_eq_getElem, List.get_eq_getElem, List.getElem_take] at equal

/-! ### A fold -/

/-- What becomes of a draft when another is folded into it. -/
structure FoldedInto (d sub e : Draft) : Prop where
  base : e.base = d.base
  groups : e.groups = d.groups
  closing : e.closing = d.closing
  /-- One condition is added, and its placeholder tokens are those of the nested statement. -/
  condition : ∃ c : Condition, e.conditions = d.conditions ++ [c] ∧
    SqlText.render c.text = "(EXISTS(" ++ sub.statement.sql ++ "))" ∧
    SqlToken.scan (SqlText.render c.text).toList =
      "(EXISTS(".toList.map .character ++ SqlToken.scan sub.statement.sql.toList ++
        "))".toList.map .character
  params : e.params = sub.params
  /-- What was bound before still has a value that equals the one it had. -/
  earlier : ∀ p : Placeholder, 1 ≤ p.ordinal → p.ordinal ≤ d.params.length →
    ∃ v w, p.value? d.params = some v ∧ p.value? e.params = some w ∧ w.same v = true
  /-- The nested statement refers to the values that it referred to on its own. -/
  inside : ∀ token ∈ SqlToken.scan sub.statement.sql.toList,
    token.value? e.params = token.value? sub.statement.params
  next : ∀ v, (e.bind v).1.ordinal = sub.params.length + 1

lemma text_folded (sub : Draft) :
    (Condition.group (.anyRow sub.text)).text.chars =
      "(EXISTS(".toList ++ (sub.text.chars ++ "))".toList) := by
  have opened : "(EXISTS(".toList = "(".toList ++ "EXISTS(".toList := by decide +kernel
  have closed : "))".toList = ")".toList ++ ")".toList := by decide +kernel
  simp [Condition.text, Piece.chars, opened, closed]

/-- Folding succeeds where the values start with those of the parent, and then it adds the
condition and adopts the values. -/
lemma fold_eq (d sub : Draft) : d.fold sub =
    if startsWith sub.params d.params then
      .ok ((d.adopt sub.params).add (.group (.anyRow sub.text)))
    else .error .unseededSubquery := by
  unfold fold absorb
  split <;> rfl

lemma foldedInto_of_startAs {d sub : Draft} (h : StartAs sub.params d.params) :
    FoldedInto d sub ((d.adopt sub.params).add (.group (.anyRow sub.text))) where
  base := rfl
  groups := rfl
  closing := rfl
  condition := by
    have sent : sub.statement.sql.toList = sub.text.chars := String.toList_ofList
    have written : SqlText.render (Condition.group (.anyRow sub.text)).text =
        "(EXISTS(" ++ sub.statement.sql ++ "))" := by
      rw [← String.toList_inj, SqlText.render, String.toList_ofList, text_folded]
      simp [sent]
    -- A reference that ends the nested text ends there in the condition too: no digit follows.
    have ending : NoDigitAhead "))".toList := by
      intro c hc
      have first : c = ')' := by simpa [eq_comm] using hc
      rw [first]
      decide
    have silent : SqlToken.scan "))".toList = "))".toList.map .character := by decide +kernel
    refine ⟨_, rfl, written, ?_⟩
    rw [SqlText.render, String.toList_ofList, text_folded, sent,
      SqlToken.scan_append_of_no_dollar (by decide +kernel), SqlToken.scan,
      SqlToken.scanFrom_append none _ ending, silent, List.append_assoc, SqlToken.scan]
  params := rfl
  earlier p lower upper := h.exists_value lower upper
  inside _ _ := rfl
  next _ := rfl

/-- Whatever two drafts are, folding one into the other either adds the condition that it has a
row and changes the meaning of nothing that is written, or it is the fault of a subquery that was
not seeded. It is the fault exactly where the values of the one do not start with all values that
the other has by then: where both went on from the same values, a NaN among those apart, exactly
where the subquery does not start with what its parent bound in the meantime. -/
theorem fold_keeps_meaning (d sub : Draft) :
    (∀ e, d.fold sub = .ok e → FoldedInto d sub e) ∧
      ((∃ e, d.fold sub = .ok e) ↔ StartAs sub.params d.params) ∧
      (d.fold sub = .error .unseededSubquery ↔ ¬ StartAs sub.params d.params) ∧
      ∀ opened inner later, sub.params = opened ++ inner → d.params = opened ++ later →
        (d.fold sub = .error .unseededSubquery ↔
          Value.anyNaN opened = true ∨ ¬ StartAs inner later) := by
  have fault_iff : d.fold sub = .error .unseededSubquery ↔ ¬ StartAs sub.params d.params := by
    rw [fold_eq, ← startsWith_iff]
    cases startsWith sub.params d.params <;> simp
  refine ⟨?_, ?_, fault_iff, ?_⟩
  · intro e he
    rw [fold_eq] at he
    split at he
    next started =>
      cases he
      exact foldedInto_of_startAs (startsWith_iff.mp started)
    next => cases he
  · rw [fold_eq, ← startsWith_iff]
    cases startsWith sub.params d.params <;> simp
  · intro opened inner later hsub hd
    rw [fault_iff, hsub, hd, ← startsWith_iff, ← startsWith_iff, startsWith_append,
      Bool.and_eq_true, not_and_or, Bool.not_eq_true', Bool.not_eq_false]

/-- A draft that has bound a negative zero and a name. -/
def zeroPriced : Draft :=
  ((ofBase "SELECT FROM listing").addEquality "listing.price" (.float (.zero true))).addEquality
    "listing.seller" (.text "alice")

/-- A draft that goes on from a zero and the same name, and was not opened by the other. -/
def seededByHand : Draft :=
  (seeded "SELECT FROM offer" [.float (.zero false), .text "alice"]).addEquality "offer.id" (.int 5)

/-- The two zeros are equal, so one takes the place of the other. A subquery that was opened before
another name was bound cannot be folded any more. -/
theorem fold_keeps_meaning_zero :
    FoldedInto zeroPriced seededByHand
        ((zeroPriced.adopt seededByHand.params).add (.group (.anyRow seededByHand.text))) ∧
      (zeroPriced.addEquality "listing.buyer" (.text "bob")).fold
          ((zeroPriced.nested "SELECT FROM offer").addEquality "offer.id" (.int 5)) =
        .error .unseededSubquery := by
  refine ⟨(fold_keeps_meaning zeroPriced seededByHand).1 _ rfl, ?_⟩
  apply ((fold_keeps_meaning _ _).2.2.2 zeroPriced.params [.int 5] [.text "bob"] rfl rfl).mpr
  right
  rw [← startsWith_iff]
  decide +kernel

end Draft

end BoundQuery
