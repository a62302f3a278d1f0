import BoundQuery.Failure
import Mathlib.Tactic

/-!
# Outcomes of composed computations

A computation that may fail succeeds exactly when each of its steps does, and fails
with the failure of the first step that does not succeed. The statements below take a
composed outcome apart into the outcomes of its steps.
-/
namespace BoundQuery.Outcome

variable {ε α β : Type}

/-- Both steps succeed, one after the other. -/
@[simp] theorem bind_eq_ok {x : Except ε α} {f : α → Except ε β} {b : β} :
    x >>= f = .ok b ↔ ∃ a, x = .ok a ∧ f a = .ok b := by
  cases x with
  | error e => simp [bind, Except.bind]
  | ok a => simp [bind, Except.bind]

/-- The first step fails, or it succeeds and the second fails. -/
@[simp] theorem bind_eq_error {x : Except ε α} {f : α → Except ε β} {e : ε} :
    x >>= f = .error e ↔ x = .error e ∨ ∃ a, x = .ok a ∧ f a = .error e := by
  cases x with
  | error e' => simp [bind, Except.bind]
  | ok a => simp [bind, Except.bind]

@[simp] theorem andThen_eq_ok {x : Except ε α} {f : α → Except ε β} {b : β} :
    x.bind f = .ok b ↔ ∃ a, x = .ok a ∧ f a = .ok b := bind_eq_ok

@[simp] theorem andThen_eq_error {x : Except ε α} {f : α → Except ε β} {e : ε} :
    x.bind f = .error e ↔ x = .error e ∨ ∃ a, x = .ok a ∧ f a = .error e := bind_eq_error

@[simp] theorem map_eq_ok {x : Except ε α} {f : α → β} {b : β} :
    x.map f = .ok b ↔ ∃ a, x = .ok a ∧ f a = b := by
  cases x with
  | error e => simp [Except.map]
  | ok a => simp [Except.map]

@[simp] theorem map_eq_error {x : Except ε α} {f : α → β} {e : ε} :
    x.map f = .error e ↔ x = .error e := by
  cases x with
  | error e' => simp [Except.map]
  | ok a => simp [Except.map]

theorem exists_of_isOk {x : Except ε α} (h : x.isOk = true) : ∃ a, x = .ok a := by
  cases x with
  | error e => cases h
  | ok a => exact ⟨a, rfl⟩

/-- A list is computed item by item. -/
theorem mapM_eq_ok {f : α → Except ε β} {xs : List α} {ys : List β} :
    xs.mapM f = .ok ys ↔ List.Forall₂ (fun x y => f x = .ok y) xs ys := by
  induction xs generalizing ys with
  | nil => cases ys <;> simp [pure, Except.pure]
  | cons x xs ih =>
    rw [List.mapM_cons, bind_eq_ok]
    constructor
    · rintro ⟨y, hy, rest⟩
      obtain ⟨ys', hys, hpure⟩ := bind_eq_ok.mp rest
      cases hpure
      exact .cons hy (ih.mp hys)
    · rintro (_ | ⟨hy, hys⟩)
      exact ⟨_, hy, bind_eq_ok.mpr ⟨_, ih.mpr hys, rfl⟩⟩

/-- Each item of a computed list is computed. -/
theorem exists_of_mapM_eq_ok {f : α → Except ε β} {xs : List α} {ys : List β} {x : α}
    (h : xs.mapM f = .ok ys) (hm : x ∈ xs) : ∃ y, f x = .ok y := by
  have each := mapM_eq_ok.mp h
  clear h
  induction each with
  | nil => cases hm
  | cons hy _ ih =>
    rcases List.mem_cons.mp hm with rfl | hm
    · exact ⟨_, hy⟩
    · exact ih hm

/-- Each member of a computed list is computed from an item. -/
theorem exists_item_of_mapM_eq_ok {f : α → Except ε β} {xs : List α} {ys : List β} {y : β}
    (h : xs.mapM f = .ok ys) (hm : y ∈ ys) : ∃ x ∈ xs, f x = .ok y := by
  have each := mapM_eq_ok.mp h
  clear h
  induction each with
  | nil => cases hm
  | cons hy _ ih =>
    rcases List.mem_cons.mp hm with rfl | hm
    · exact ⟨_, List.mem_cons_self, hy⟩
    · obtain ⟨x, hx, hfx⟩ := ih hm
      exact ⟨x, List.mem_cons_of_mem _ hx, hfx⟩

/-- A list errs with what one of its items errs with. -/
theorem exists_of_mapM_eq_error {f : α → Except ε β} {xs : List α} {e : ε}
    (h : xs.mapM f = .error e) : ∃ x ∈ xs, f x = .error e := by
  induction xs with
  | nil => cases h
  | cons x xs ih =>
    rw [List.mapM_cons, bind_eq_error] at h
    rcases h with h | ⟨y, -, h⟩
    · exact ⟨x, List.mem_cons_self, h⟩
    · rcases bind_eq_error.mp h with h | ⟨ys, -, h⟩
      · obtain ⟨x', hm, hx⟩ := ih h
        exact ⟨x', List.mem_cons_of_mem _ hm, hx⟩
      · cases h

/-- A list is computed where each of its items is. -/
theorem mapM_succeeds_iff {f : α → Except ε β} {xs : List α} :
    (∃ ys, xs.mapM f = .ok ys) ↔ ∀ x ∈ xs, ∃ y, f x = .ok y := by
  constructor
  · rintro ⟨ys, h⟩ x hm
    exact exists_of_mapM_eq_ok h hm
  · intro each
    cases hr : xs.mapM f with
    | ok ys => exact ⟨ys, rfl⟩
    | error e =>
      obtain ⟨x, hm, hx⟩ := exists_of_mapM_eq_error hr
      obtain ⟨y, hy⟩ := each x hm
      rw [hx] at hy
      cases hy

theorem errs_iff {x : Except ε α} : (∃ e, x = .error e) ↔ ¬ ∃ a, x = .ok a := by
  cases x with
  | error e => simp
  | ok a => simp

/-- A list errs where one of its items does. -/
theorem mapM_errs_iff {f : α → Except ε β} {xs : List α} :
    (∃ e, xs.mapM f = .error e) ↔ ∃ x ∈ xs, ∃ e, f x = .error e := by
  simp only [errs_iff, mapM_succeeds_iff, not_forall, exists_prop]

@[simp] theorem pure_eq_ok {a b : α} : (pure a : Except ε α) = .ok b ↔ a = b := by
  simp [pure, Except.pure]

@[simp] theorem pure_ne_error {a : α} {e : ε} : (pure a : Except ε α) ≠ .error e := by
  simp [pure, Except.pure]

@[simp] theorem orError_eq_ok {x : Except Error α} {a : α} : orError x = .ok a ↔ x = .ok a := by
  cases x with
  | error e => simp [orError, Except.mapError]
  | ok a' => simp [orError, Except.mapError]

@[simp] theorem orFault_eq_ok {x : Except Fault α} {a : α} : orFault x = .ok a ↔ x = .ok a := by
  cases x with
  | error f => simp [orFault, Except.mapError]
  | ok a' => simp [orFault, Except.mapError]

/-- An error is not a fault. -/
@[simp] theorem orError_ne_fault {x : Except Error α} {f : Fault} :
    orError x ≠ .error (.fault f) := by
  cases x with
  | error e => simp [orError, Except.mapError]
  | ok a => simp [orError, Except.mapError]

@[simp] theorem orError_eq_error {x : Except Error α} {e : Error} :
    orError x = .error (.error e) ↔ x = .error e := by
  cases x with
  | error e' => simp [orError, Except.mapError]
  | ok a => simp [orError, Except.mapError]

@[simp] theorem orFault_ne_error {x : Except Fault α} {e : Error} :
    orFault x ≠ .error (.error e) := by
  cases x with
  | error f => simp [orFault, Except.mapError]
  | ok a => simp [orFault, Except.mapError]

@[simp] theorem orFault_eq_fault {x : Except Fault α} {f : Fault} :
    orFault x = .error (.fault f) ↔ x = .error f := by
  cases x with
  | error f' => simp [orFault, Except.mapError]
  | ok a => simp [orFault, Except.mapError]

/-- Two steps that can only break a rule of use, one after the other. -/
theorem orFault_bind (x : Except Fault α) (next : α → Except Fault β) :
    (orFault x >>= fun a => orFault (next a)) = orFault (x.bind next) := by
  cases x <;> rfl

end BoundQuery.Outcome
