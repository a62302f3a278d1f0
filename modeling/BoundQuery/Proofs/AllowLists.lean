import BoundQuery.Proofs.DenyLists

/-!
# Lists that mean the same at every length

An allow list of integers is true of a column that holds one of them, and a deny list that keeps
nulls is true of all other columns. Neither depends on the form of the test: an unknown comparison
and an unmatched element are both short of true, and where a deny list parts from its short forms,
at a null, the null check decides. Main statement: `Draft.membership_truth_eq_yes`.
-/
namespace BoundQuery

/-- A column holds the integer that one of the values stands for. -/
def Value.Held (values : List Value) (held : Option Int) : Prop :=
  ∃ x, held = some x ∧ ∃ v ∈ values, v.integer? = some x

namespace Membership.Test

variable {i : Interpretation} {column : String} {values : List Value} {next : Placeholder}

/-- The test chosen for an allow list, its parameter bound, is true where the column holds one of
the values, at every length. -/
theorem truth_allow_choose (hp : ∀ v ∈ (choose next values).2, next.value? i.params = some v) :
    truth i column .allow (choose next values).1 = .yes ↔
      Value.Held values (i.column column) := by
  rw [truth_eq_truthBy]
  exact truthBy_allow_choose hp

/-- A deny list that keeps nulls is true where the column holds none of the values. -/
theorem truth_deny_choose_or_null (hv : ∀ v ∈ values, v.isIntegerLike = true)
    (hp : ∀ v ∈ (choose next values).2, next.value? i.params = some v) :
    truth i column .deny (choose next values).1 = .yes ∨ i.column column = none ↔
      ¬ Value.Held values (i.column column) := by
  rw [truth_eq_truthBy]
  exact truthBy_deny_choose_or_null (fun v hmem => Value.isSome_integer? (hv v hmem)) hp

end Membership.Test

namespace Draft

/-- The value bound for a test stays behind its placeholder when more are bound. -/
lemma value?_next_of_bound {d : Draft} {values params : List Value}
    (h : d.params ++ (Membership.Test.choose d.next values).2 <+: params) :
    ∀ v ∈ (Membership.Test.choose d.next values).2, d.next.value? params = some v := by
  intro v hv
  obtain ⟨more, rfl⟩ := h
  rw [Membership.Test.eq_of_mem_bound hv, List.append_assoc]
  simp [next, Placeholder.value?]

/-- An allow list and a deny list that keeps nulls add one condition each, at every length. Where
the values of the draft are bound, the first is true exactly of a column that holds one of the
integers, and the second exactly of a column that is null or holds none of them. -/
theorem membership_truth_eq_yes (d : Draft) (column : String) (values : List Value)
    (hv : ∀ v ∈ values, v.isIntegerLike = true) :
    (∃ e c, d.addMember? column (.list values) = .ok e ∧ e.conditions = d.conditions ++ [c] ∧
      ∀ i : Interpretation, e.params <+: i.params →
        (c.truth i = .yes ↔ i.column column ≠ none ∧
          ∃ v ∈ values, v.asInt?.map Int64.toInt = i.column column)) ∧
    ∃ e c, d.addNonMember? column (.list values) true = .ok e ∧
      e.conditions = d.conditions ++ [c] ∧
      ∀ i : Interpretation, e.params <+: i.params →
        (c.truth i = .yes ↔ i.column column = none ∨
          ¬ ∃ v ∈ values, v.asInt?.map Int64.toInt = i.column column) := by
  have held_iff (held : Option Int) : Value.Held values held ↔
      held ≠ none ∧ ∃ v ∈ values, v.asInt?.map Int64.toInt = held := by
    constructor
    · rintro ⟨x, rfl, v, hmem, hx⟩
      exact ⟨nofun, v, hmem, hx⟩
    · rintro ⟨known, v, hmem, hx⟩
      obtain ⟨x, rfl⟩ := Option.ne_none_iff_exists'.mp known
      exact ⟨x, rfl, v, hmem, hx⟩
  constructor
  · refine ⟨_, .membership column .allow (Membership.Test.choose d.next values).1, rfl, rfl, ?_⟩
    intro i hparams
    rw [← held_iff]
    exact Membership.Test.truth_allow_choose (value?_next_of_bound hparams)
  · refine ⟨_, (Condition.membership column .deny
      (Membership.Test.choose d.next values).1).orNull column, rfl, rfl, ?_⟩
    intro i hparams
    rw [Condition.truth_orNull_eq_yes]
    refine (Membership.Test.truth_deny_choose_or_null hv (value?_next_of_bound hparams)).trans ?_
    rw [held_iff, not_and_or, not_not]

/-- Of eleven values none is in a null column, and the fourth is in a column that holds a three. -/
theorem membership_truth_eleven :
    (∀ v ∈ below 11, v.isIntegerLike = true) ∧
    (∃ e c, (ofBase "SELECT").addMember? "asset.template_id" (.list (below 11)) = .ok e ∧
      e.conditions = [c] ∧ c.truth (nullRow e.params) ≠ .yes ∧
      c.truth { nullRow e.params with column := fun _ => some 3 } = .yes) ∧
    ∃ e c, (ofBase "SELECT").addNonMember? "asset.template_id" (.list (below 11)) true = .ok e ∧
      e.conditions = [c] ∧ c.truth (nullRow e.params) = .yes ∧
      c.truth { nullRow e.params with column := fun _ => some 3 } ≠ .yes := by
  have integers : ∀ v ∈ below 11, v.isIntegerLike = true := by decide +kernel
  have three : ∃ v ∈ below 11, v.asInt?.map Int64.toInt = some 3 := by decide +kernel
  obtain ⟨⟨e, c, he, hc, allowed⟩, f, c', hf, hc', denied⟩ :=
    membership_truth_eq_yes (ofBase "SELECT") "asset.template_id" (below 11) integers
  refine ⟨integers, ⟨e, c, he, hc, ?_, ?_⟩, f, c', hf, hc', ?_, ?_⟩
  · intro holds
    exact ((allowed (nullRow e.params) (List.prefix_refl _)).mp holds).1 rfl
  · exact (allowed _ (List.prefix_refl _)).mpr ⟨nofun, three⟩
  · exact (denied (nullRow f.params) (List.prefix_refl _)).mpr (.inl rfl)
  · intro holds
    rcases (denied _ (List.prefix_refl _)).mp holds with null | unheld
    · cases null
    · exact unheld three

end Draft

end BoundQuery
