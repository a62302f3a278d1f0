/-!
# Three-valued truth

A comparison with a null is neither true nor false. A conjunction is as true as its
least true part and a disjunction as its most true part; a row is kept only where a
condition is true. Main statements: `Truth.all_eq_yes` and `Truth.any_eq_yes`.
-/
namespace BoundQuery

/-- The truth of a condition on a row. -/
inductive Truth where
  | yes
  | no
  | unknown
  deriving DecidableEq

namespace Truth

/-- The truth of a test on values that are there. -/
def ofBool : Bool → Truth
  | true => .yes
  | false => .no

/-- The truth of a test on a value that may be missing. -/
def ofOption : Option Bool → Truth
  | some b => ofBool b
  | none => .unknown

/-- A test of two values is unknown where one of them is missing. -/
def lift {α : Type} (holds : α → α → Bool) (a b : Option α) : Truth :=
  .ofOption (a.bind fun x => b.map fun y => holds x y)

/-- A negation is unknown where what it negates is. -/
def not : Truth → Truth
  | .yes => .no
  | .no => .yes
  | .unknown => .unknown

/-- A conjunction is false where one part is, whatever the other, and true where both are. -/
def and : Truth → Truth → Truth
  | .no, _ => .no
  | _, .no => .no
  | .yes, .yes => .yes
  | _, _ => .unknown

/-- A disjunction is true where one part is, whatever the other, and false where both are. -/
def or : Truth → Truth → Truth
  | .yes, _ => .yes
  | _, .yes => .yes
  | .no, .no => .no
  | _, _ => .unknown

/-- The conjunction of some parts; of no parts, it is true. -/
def all (parts : List Truth) : Truth := parts.foldr and .yes

/-- The disjunction of some parts; of no parts, it is false. -/
def any (parts : List Truth) : Truth := parts.foldr or .no

@[simp] theorem ofBool_eq_yes {b : Bool} : ofBool b = .yes ↔ b = true := by
  cases b <;> simp [ofBool]

@[simp] theorem ofOption_eq_yes {o : Option Bool} : ofOption o = .yes ↔ o = some true := by
  rcases o with _ | b
  · simp [ofOption]
  · simp [ofOption]

/-- A test is true where both values are there and it holds of them. -/
theorem lift_eq_yes {α : Type} {holds : α → α → Bool} {a b : Option α} :
    lift holds a b = .yes ↔ ∃ x y, a = some x ∧ b = some y ∧ holds x y = true := by
  rcases a with _ | x
  · simp [lift]
  · rcases b with _ | y
    · simp [lift]
    · simp [lift]

@[simp] theorem not_eq_yes {t : Truth} : t.not = .yes ↔ t = .no := by
  cases t <;> simp [not]

@[simp] theorem and_eq_yes {s t : Truth} : s.and t = .yes ↔ s = .yes ∧ t = .yes := by
  cases s <;> cases t <;> simp [and]

@[simp] theorem or_eq_yes {s t : Truth} : s.or t = .yes ↔ s = .yes ∨ t = .yes := by
  cases s <;> cases t <;> simp [or]

/-- A conjunction is true where every part is. -/
@[simp] theorem all_eq_yes {parts : List Truth} :
    all parts = .yes ↔ ∀ part ∈ parts, part = .yes := by
  induction parts with
  | nil => simp [all]
  | cons part parts ih =>
    rw [all] at ih ⊢
    simp [ih]

/-- A disjunction is true where one of its parts is. -/
@[simp] theorem any_eq_yes {parts : List Truth} : any parts = .yes ↔ .yes ∈ parts := by
  induction parts with
  | nil => simp [any]
  | cons part parts ih =>
    rw [any] at ih ⊢
    rw [List.foldr_cons, or_eq_yes, ih, List.mem_cons, eq_comm]

end Truth

end BoundQuery
