import BoundQuery.Condition.Meaning
import Mathlib.Tactic

/-!
# Forms of a membership test

What a test says of a column depends on the values behind its placeholder, on what they are read as
and on what the column holds. An allow list is true of a column that holds one of the values, in
every form. The forms of a deny list part at a null: a comparison with a null is unknown, but no
unnested element equals a null. Main statements: `Membership.Test.truthBy_allow_choose` and
`Membership.Test.truthBy_deny_choose_or_null`.
-/
namespace BoundQuery

namespace Truth

variable {α : Type} [DecidableEq α] {a b : Option α}

theorem lift_beq_eq_yes : lift (fun x y => x == y) a b = .yes ↔ ∃ x, a = some x ∧ b = some x := by
  rw [lift_eq_yes]
  constructor
  · rintro ⟨x, y, rfl, rfl, same⟩
    exact ⟨x, rfl, by rw [eq_of_beq same]⟩
  · rintro ⟨x, rfl, rfl⟩
    exact ⟨x, x, rfl, rfl, beq_self_eq_true x⟩

/-- What is known differs from what it is not. -/
theorem lift_bne_eq_yes (known : b.isSome = true) :
    lift (fun x y => x != y) a b = .yes ↔ ∃ x, a = some x ∧ b ≠ some x := by
  obtain ⟨n, rfl⟩ := Option.isSome_iff_exists.mp known
  rw [lift_eq_yes]
  constructor
  · rintro ⟨x, y, rfl, hy, differs⟩
    obtain rfl := Option.some_injective _ hy
    refine ⟨x, rfl, ?_⟩
    intro same
    exact bne_iff_ne.mp differs (Option.some_injective _ same).symm
  · rintro ⟨x, rfl, differs⟩
    refine ⟨x, n, rfl, rfl, bne_iff_ne.mpr ?_⟩
    rintro rfl
    exact differs rfl

end Truth

variable {α : Type} {reading : Value → Option α} {params values : List Value} {held : Option α}

namespace Value

/-- What is held is what one of the values is read as. -/
def HeldBy (reading : Value → Option α) (values : List Value) (held : Option α) : Prop :=
  ∃ x, held = some x ∧ ∃ v ∈ values, reading v = some x

/-- Something is held, and none of the values is read as it. -/
def AvoidedBy (reading : Value → Option α) (values : List Value) (held : Option α) : Prop :=
  ∃ x, held = some x ∧ ∀ v ∈ values, reading v ≠ some x

/-- Not to avoid some values is to hold nothing or one of them. -/
lemma avoidedBy_iff :
    AvoidedBy reading values held ↔ held ≠ none ∧ ¬ HeldBy reading values held := by
  constructor
  · rintro ⟨x, rfl, avoids⟩
    refine ⟨nofun, ?_⟩
    rintro ⟨y, hy, v, hmem, hv⟩
    obtain rfl := Option.some_injective _ hy
    exact avoids v hmem hv
  · rintro ⟨known, unheld⟩
    obtain ⟨x, rfl⟩ := Option.ne_none_iff_exists'.mp known
    exact ⟨x, rfl, fun v hmem hv => unheld ⟨x, rfl, v, hmem, hv⟩⟩

lemma HeldBy.ne_none (h : HeldBy reading values held) : held ≠ none := by
  obtain ⟨x, rfl, -⟩ := h
  exact nofun

end Value

namespace Membership.Test

/-- What the value behind a placeholder is read as. -/
def readAt (reading : Value → Option α) (params : List Value) (p : Placeholder) : Option α :=
  (p.value? params).bind reading

/-- What the elements of the list behind a placeholder are read as. -/
def eachAt (reading : Value → Option α) (params : List Value) (p : Placeholder) :
    List (Option α) :=
  (((p.value? params).bind Value.asList?).getD []).map reading

lemma readAt_of_bound {p : Placeholder} {v : Value} (hp : p.value? params = some v) :
    readAt reading params p = reading v := by
  rw [readAt, hp]
  rfl

lemma eachAt_of_bound {p : Placeholder} (hp : p.value? params = some (.list values)) :
    eachAt reading params p = values.map reading := by
  rw [eachAt, hp]
  rfl

/-- A test binds at most one value. -/
lemma eq_of_mem_bound {next : Placeholder} {v : Value} (hv : v ∈ (choose next values).2) :
    (choose next values).2 = [v] := by
  rcases values with _ | ⟨w, _ | ⟨u, rest⟩⟩
  · cases hv
  · exact congrArg (fun x => [x]) (List.mem_singleton.mp hv).symm
  · exact congrArg (fun x => [x]) (List.mem_singleton.mp hv).symm

/-- Several values are bound as one list, and compared or unnested by their number. -/
lemma choose_several (next : Placeholder) (v w : Value) (rest : List Value) :
    (choose next (v :: w :: rest)).1 =
      if (v :: w :: rest).length ≤ unnestThreshold then .any next (v :: w :: rest).length
      else .unnest next (v :: w :: rest).length (ArrayType.infer (v :: w :: rest)) := rfl

variable [DecidableEq α]

/-- One of the elements of an unnested list equals what is held. -/
def equalsOne (reading : Value → Option α) (params : List Value) (held : Option α)
    (p : Placeholder) : Bool :=
  (eachAt reading params p).any fun element =>
    decide (Truth.lift (fun x y => x == y) element held = .yes)

/-- The truth of a test of what is held, with the values behind its placeholder read in some way. -/
def truthBy (reading : Value → Option α) (params : List Value) (held : Option α) :
    Sense → Test → Truth
  | .allow, .empty => .no
  | .deny, .empty => .yes
  | .allow, .scalar p => .lift (fun x y => x == y) held (readAt reading params p)
  | .deny, .scalar p => .lift (fun x y => x != y) held (readAt reading params p)
  | .allow, .any p _ => .any ((eachAt reading params p).map (Truth.lift (fun x y => x == y) held))
  | .deny, .any p _ => .all ((eachAt reading params p).map (Truth.lift (fun x y => x != y) held))
  | .allow, .unnest p _ _ => .ofBool (equalsOne reading params held p)
  | .deny, .unnest p _ _ => (Truth.ofBool (equalsOne reading params held p)).not

variable {p next : Placeholder}

lemma equalsOne_iff (hp : p.value? params = some (.list values)) :
    equalsOne reading params held p = true ↔ Value.HeldBy reading values held := by
  rw [equalsOne, eachAt_of_bound hp, List.any_map, List.any_eq_true]
  simp only [Function.comp_apply, decide_eq_true_eq, Truth.lift_beq_eq_yes]
  constructor
  · rintro ⟨v, hmem, x, hv, hx⟩
    exact ⟨x, hx, v, hmem, hv⟩
  · rintro ⟨x, hx, v, hmem, hv⟩
    exact ⟨v, hmem, x, hv, hx⟩

/-- The test chosen for an allow list, its parameter bound, is true where one of the values is held,
at every length. -/
theorem truthBy_allow_choose (hp : ∀ v ∈ (choose next values).2, next.value? params = some v) :
    truthBy reading params held .allow (choose next values).1 = .yes ↔
      Value.HeldBy reading values held := by
  rcases values with _ | ⟨v, _ | ⟨w, rest⟩⟩
  · simp [choose, truthBy, Value.HeldBy]
  · have bound : next.value? params = some v := hp v (by simp [choose])
    rw [choose, truthBy, readAt_of_bound bound, Truth.lift_beq_eq_yes, Value.HeldBy]
    simp only [List.mem_singleton, exists_eq_left]
  · have bound : next.value? params = some (.list (v :: w :: rest)) := hp _ (by simp [choose])
    rw [choose_several]
    split
    next few =>
      rw [truthBy, eachAt_of_bound bound, Truth.any_eq_yes, List.map_map, List.mem_map]
      constructor
      · rintro ⟨u, hmem, equal⟩
        obtain ⟨x, hx, hu⟩ := Truth.lift_beq_eq_yes.mp equal
        exact ⟨x, hx, u, hmem, hu⟩
      · rintro ⟨x, hx, u, hmem, hu⟩
        exact ⟨u, hmem, Truth.lift_beq_eq_yes.mpr ⟨x, hx, hu⟩⟩
    next many => rw [truthBy, Truth.ofBool_eq_yes, equalsOne_iff bound]

/-- A few values are all compared with what is held, which is known where one comparison is. -/
lemma truthBy_deny_any {count : Nat} (hne : values ≠ [])
    (hread : ∀ v ∈ values, (reading v).isSome = true)
    (hp : p.value? params = some (.list values)) :
    truthBy reading params held .deny (.any p count) = .yes ↔
      Value.AvoidedBy reading values held := by
  rw [truthBy, eachAt_of_bound hp, Truth.all_eq_yes]
  simp only [List.forall_mem_map]
  constructor
  · intro differs
    obtain ⟨v, hmem⟩ := List.exists_mem_of_ne_nil values hne
    obtain ⟨x, hx, -⟩ := (Truth.lift_bne_eq_yes (hread v hmem)).mp (differs v hmem)
    refine ⟨x, hx, ?_⟩
    intro w hw
    obtain ⟨y, hy, hne⟩ := (Truth.lift_bne_eq_yes (hread w hw)).mp (differs w hw)
    obtain rfl := Option.some_injective _ (hx.symm.trans hy)
    exact hne
  · rintro ⟨x, hx, avoids⟩ v hmem
    exact (Truth.lift_bne_eq_yes (hread v hmem)).mpr ⟨x, hx, avoids v hmem⟩

/-- Of many values none may equal what is held, and none equals a null. -/
lemma truthBy_deny_unnest {count : Nat} {type : ArrayType}
    (hp : p.value? params = some (.list values)) :
    truthBy reading params held .deny (.unnest p count type) = .yes ↔
      ¬ Value.HeldBy reading values held := by
  have negated (b : Bool) : (Truth.ofBool b).not = .yes ↔ b = false := by
    cases b <;> simp [Truth.ofBool, Truth.not]
  rw [truthBy, negated, ← equalsOne_iff hp, Bool.not_eq_true]

/-- The test chosen for a deny list, its parameter bound, is true where something else is held, and
at a null where the list is unnested. -/
theorem truthBy_deny_choose (hne : values ≠ [])
    (hread : ∀ v ∈ values, (reading v).isSome = true)
    (hp : ∀ v ∈ (choose next values).2, next.value? params = some v) :
    truthBy reading params held .deny (choose next values).1 = .yes ↔
      Value.AvoidedBy reading values held ∨ held = none ∧ unnestThreshold < values.length := by
  rcases values with _ | ⟨v, _ | ⟨w, rest⟩⟩
  · exact absurd rfl hne
  · have bound : next.value? params = some v := hp v (by simp [choose])
    have short : ¬ unnestThreshold < [v].length := by
      rw [List.length_singleton]
      decide
    rw [choose, truthBy, readAt_of_bound bound, Truth.lift_bne_eq_yes (hread v (by simp)),
      or_iff_left fun h => short h.2, Value.AvoidedBy]
    simp only [List.mem_singleton, forall_eq]
  · have bound : next.value? params = some (.list (v :: w :: rest)) := hp _ (by simp [choose])
    rw [choose_several]
    split
    next few => rw [truthBy_deny_any hne hread bound, or_iff_left fun h => absurd h.2 (by omega)]
    next many =>
      have long : unnestThreshold < (v :: w :: rest).length := by omega
      rw [truthBy_deny_unnest bound, Value.avoidedBy_iff, and_iff_left long]
      have null (h : held = none) : ¬ Value.HeldBy reading (v :: w :: rest) held :=
        fun hh => hh.ne_none h
      tauto

/-- A deny list that keeps nulls is true where none of the values is held: the null check makes up
for the one place where the forms of the test differ. -/
theorem truthBy_deny_choose_or_null (hread : ∀ v ∈ values, (reading v).isSome = true)
    (hp : ∀ v ∈ (choose next values).2, next.value? params = some v) :
    truthBy reading params held .deny (choose next values).1 = .yes ∨ held = none ↔
      ¬ Value.HeldBy reading values held := by
  have null (h : held = none) : ¬ Value.HeldBy reading values held := fun hh => hh.ne_none h
  by_cases hne : values = []
  · have unheld : ¬ Value.HeldBy reading values held := by
      rintro ⟨x, -, v, hmem, -⟩
      rw [hne] at hmem
      cases hmem
    rw [hne] at unheld ⊢
    exact iff_of_true (.inl rfl) unheld
  · rw [truthBy_deny_choose hne hread hp, Value.avoidedBy_iff]
    tauto

end Membership.Test

end BoundQuery
