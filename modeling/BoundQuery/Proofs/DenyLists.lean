import BoundQuery.Draft
import BoundQuery.Proofs.TestForms

/-!
# Deny lists and null columns

A deny list of integers is true of a column that holds an integer exactly when it differs from
all of them, whatever the form of the test. The forms part at null: a comparison with a null is
unknown, but no unnested element equals a null, so a list long enough to be unnested is true of
it. Main statement: `Draft.addNonMember_truth_eq_yes`.
-/
namespace BoundQuery

/-- The integer that a value stands for, without a bound on its size. -/
def Value.integer? (v : Value) : Option Int := v.asInt?.map Int64.toInt

/-- A column holds an integer, and none of the values stands for the same one. -/
def Value.Avoided (values : List Value) (held : Option Int) : Prop :=
  ∃ x, held = some x ∧ ∀ v ∈ values, v.integer? ≠ some x

lemma Value.isSome_integer? {v : Value} (h : v.isIntegerLike = true) : v.integer?.isSome = true :=
  Option.isSome_map.trans h

namespace Membership.Test

variable {i : Interpretation} {column : String} {values : List Value}

/-- Conditions on integers are tests with the values behind the placeholders read as integers. -/
theorem truth_eq_truthBy (i : Interpretation) (column : String) (sense : Sense) (test : Test) :
    truth i column sense test =
      truthBy Value.integer? i.params (i.column column) sense test := by
  have scalar (p : Placeholder) : i.integer p = readAt Value.integer? i.params p := by
    rw [Interpretation.integer, readAt]
    cases p.value? i.params <;> rfl
  cases test with
  | scalar p => cases sense <;> rw [truth, truthBy, scalar p] <;> rfl
  | _ => cases sense <;> rfl

/-- The test chosen for a deny list, its parameter bound, is true where the column avoids the
list, and at a null column where the list is unnested. -/
theorem truth_deny_choose {next : Placeholder} (hne : values ≠ [])
    (hv : ∀ v ∈ values, v.isIntegerLike = true)
    (hp : ∀ v ∈ (choose next values).2, next.value? i.params = some v) :
    truth i column .deny (choose next values).1 = .yes ↔
      Value.Avoided values (i.column column) ∨
        i.column column = none ∧ unnestThreshold < values.length := by
  have hread : ∀ v ∈ values, v.integer?.isSome = true := fun v hmem =>
    Value.isSome_integer? (hv v hmem)
  rw [truth_eq_truthBy]
  exact truthBy_deny_choose hne hread hp

end Membership.Test

namespace Draft

/-- A deny list adds one condition. Where the values of the draft are bound, it is true exactly of
a column that holds an integer the list avoids, and also of a null when the list has more than
ten values. -/
theorem addNonMember_truth_eq_yes (d : Draft) (column : String) (values : List Value)
    (hne : values ≠ []) (hv : ∀ v ∈ values, v.isIntegerLike = true) :
    ∃ c, (d.addNonMember column values false).conditions = d.conditions ++ [c] ∧
      ∀ i : Interpretation, (d.addNonMember column values false).params <+: i.params →
        (c.truth i = .yes ↔
          (∃ x, i.column column = some x ∧ ∀ v ∈ values, v.asInt?.map Int64.toInt ≠ some x) ∨
            i.column column = none ∧ 10 < values.length) := by
  refine ⟨.membership column .deny (Membership.Test.choose d.next values).1, rfl, ?_⟩
  rintro i ⟨more, hparams⟩
  have params_eq : i.params =
      d.params ++ (Membership.Test.choose d.next values).2 ++ more := hparams.symm
  apply Membership.Test.truth_deny_choose hne hv
  intro v hv
  have single : (Membership.Test.choose d.next values).2 = [v] := by
    rcases values with _ | ⟨w, _ | ⟨u, rest⟩⟩
    · exact absurd rfl hne
    · exact congrArg (fun x => [x]) (List.mem_singleton.mp hv).symm
    · exact congrArg (fun x => [x]) (List.mem_singleton.mp hv).symm
  rw [params_eq, single, List.append_assoc]
  simp [next, Placeholder.value?]

/-- The integers below a bound as a deny list. -/
def below (bound : Nat) : List Value := (List.range bound).map fun n => .int (Int64.ofNat n)

/-- A row whose every column is null. -/
def nullRow (params : List Value) : Interpretation where
  column _ := none
  params := params
  related _ _ _ := .unknown
  contained _ _ := .unknown
  hasRow _ := false
  verbatim _ := .unknown

/-- A deny list of eleven values is true of a null column, and one of ten is not. -/
theorem addNonMember_truth_null_eleven :
    (∃ c, ((ofBase "SELECT").addNonMember "asset.template_id" (below 11) false).conditions = [c] ∧
      c.truth (nullRow [.list (below 11)]) = .yes) ∧
    ∃ c, ((ofBase "SELECT").addNonMember "asset.template_id" (below 10) false).conditions = [c] ∧
      c.truth (nullRow [.list (below 10)]) ≠ .yes := by
  have nonempty (n : Nat) : below (n + 1) ≠ [] := by simp [below]
  constructor
  · obtain ⟨c, hc, htruth⟩ := addNonMember_truth_eq_yes (ofBase "SELECT") "asset.template_id"
      (below 11) (nonempty 10) (by decide +kernel)
    refine ⟨c, hc, (htruth (nullRow [.list (below 11)]) (List.prefix_refl _)).mpr ?_⟩
    exact .inr ⟨rfl, by simp [below]⟩
  · obtain ⟨c, hc, htruth⟩ := addNonMember_truth_eq_yes (ofBase "SELECT") "asset.template_id"
      (below 10) (nonempty 9) (by decide +kernel)
    refine ⟨c, hc, ?_⟩
    intro holds
    rcases (htruth (nullRow [.list (below 10)]) (List.prefix_refl _)).mp holds with hx | hx
    · obtain ⟨x, hx, -⟩ := hx
      cases hx
    · simp [below] at hx

end Draft

end BoundQuery
