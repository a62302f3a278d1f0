import BoundQuery.Workbench
import BoundQuery.Proofs.Programs

/-!
# Programs on the workbench

The workbench takes the operations of a program one step after the other. What the program makes of
a draft is what its steps leave on a bench with the draft on top: a refused test leaves the bench as
it was and the bench goes on, a broken rule of use ends it, and a nested program is taken on a draft
of its own that is folded back. Main statements: `Program.leaves_steps_iff` and
`Program.describe_steps`.
-/
namespace BoundQuery

namespace Workbench

/-- The bench that an account of steps leaves, or the rule of use that the last of them broke. -/
def left (w : Workbench) : List Entry → Except Fault Workbench
  | [] => .ok w
  | .done effect :: account => left effect.bench account
  | .refused _ bench :: account => left bench account
  | .broken f :: _ => .error f

/-- The bench that some steps leave. -/
def leaves (w : Workbench) (steps : List Step) : Except Fault Workbench := w.left (w.run steps)

/-- The bench with another draft on top. -/
def withTop (w : Workbench) (d : Draft) : Workbench := { w with top := d }

variable {w : Workbench} {step : Step} {steps : List Step}

/-- A step that is done goes on with the bench after it, one that is refused with the bench as it
was, and one that breaks a rule of use ends the steps. -/
theorem leaves_cons (w : Workbench) (step : Step) (steps : List Step) :
    w.leaves (step :: steps) = match w.perform step with
      | .ok effect => effect.bench.leaves steps
      | .error (.error _) => w.leaves steps
      | .error (.fault f) => .error f := by
  rw [leaves, run]
  cases w.perform step with
  | ok effect => rfl
  | error failure => cases failure <;> rfl

theorem leaves_append (w : Workbench) (steps more : List Step) :
    w.leaves (steps ++ more) = (w.leaves steps).bind fun w' => w'.leaves more := by
  induction steps generalizing w with
  | nil => rfl
  | cons step steps ih =>
    rw [List.cons_append, leaves_cons, leaves_cons]
    cases w.perform step with
    | ok effect => exact ih effect.bench
    | error failure =>
      cases failure with
      | error e => exact ih w
      | fault f => rfl

/-- The account of steps that leave a bench is followed by that of the steps taken on it. -/
theorem run_append {w' : Workbench} (h : w.leaves steps = .ok w') (more : List Step) :
    w.run (steps ++ more) = w.run steps ++ w'.run more := by
  induction steps generalizing w with
  | nil =>
    cases h
    rfl
  | cons step steps ih =>
    rw [leaves_cons] at h
    rw [List.cons_append, run, run]
    cases performed : w.perform step with
    | ok effect =>
      rw [performed] at h
      simp only [ih h, List.cons_append]
    | error failure =>
      rw [performed] at h
      cases failure with
      | error e => simp only [ih h, List.cons_append]
      | fault f => cases h

end Workbench

open Workbench

namespace Operation

/-- An operation as a step of the workbench. -/
def toStep : Operation → Workbench.Step
  | .compare column comparison v => .compare column comparison v
  | .member column values => .member column values
  | .nonMember column values orNull => .nonMember column values orNull
  | .nullCheck column expected => .nullCheck column expected
  | .join left right columns => .join left right columns
  | .groups columns => .groups columns
  | .paginate page limit => .paginate page limit
  | .raw sql => .raw sql
  | .close sql => .close sql
  | .extendBase sql => .extendBase sql

/-- The workbench performs an operation on its first draft. -/
theorem perform_toStep (w : Workbench) (op : Operation) :
    w.perform op.toStep = (op.perform w.top).map w.revise := by
  cases op with
  | member column values =>
    rw [toStep, Workbench.perform, perform]
    cases w.top.addMember? column values <;> rfl
  | nonMember column values orNull =>
    rw [toStep, Workbench.perform, perform]
    cases w.top.addNonMember? column values orNull <;> rfl
  | paginate page limit =>
    rw [toStep, Workbench.perform, perform]
    cases w.top.paginate page limit <;> rfl
  | _ => rfl

/-- An operation, and then more steps: refused or not, they go on with the draft that the operation
comes to. -/
lemma leaves_toStep (w : Workbench) (op : Operation) (steps : List Workbench.Step) :
    w.leaves (op.toStep :: steps) =
      (op.apply w.top).bind fun d => (w.withTop d).leaves steps := by
  rw [leaves_cons, perform_toStep, apply_eq]
  cases op.perform w.top with
  | ok d => rfl
  | error failure => cases failure <;> rfl

end Operation

namespace Program

open Draft

/-- The steps of a program. The nested draft is opened after what is done in the meantime, which
binds nothing and so leaves the numbering as it was. -/
def steps : Program → List Workbench.Step
  | .done => []
  | .step op rest => op.toStep :: rest.steps
  | .nested base inner meanwhile rest =>
    meanwhile.steps ++ .nest base :: (inner.steps ++ .fold :: rest.steps)

lemma leaves_nest (w : Workbench) (base : String) (steps : List Workbench.Step) :
    w.leaves (.nest base :: steps) =
      (Workbench.mk (w.top.nested base) (w.top :: w.below)).leaves steps := leaves_cons w _ steps

lemma leaves_fold (parent sub : Draft) (below : List Draft) (steps : List Workbench.Step) :
    (Workbench.mk sub (parent :: below)).leaves (.fold :: steps) =
      (parent.fold sub).bind fun d => (Workbench.mk d below).leaves steps := by
  have folded : (Workbench.mk sub (parent :: below)).perform .fold =
      orFault ((parent.fold sub).map fun d => (Workbench.mk d below).reply .nothing) := by
    simp only [Workbench.perform, pop]
    cases parent.fold sub <;> rfl
  rw [leaves_cons, folded]
  cases parent.fold sub <;> rfl

/-- The steps of a program leave the bench with the draft that the program makes of the first
one. -/
theorem leaves_steps_iff {p : Program} (hp : p.WellFormed) {w w' : Workbench} :
    w.leaves p.steps = .ok w' ↔ ∃ d, p.run w.top = .ok d ∧ w' = w.withTop d := by
  induction p generalizing w w' with
  | done =>
    constructor
    · intro h
      cases h
      exact ⟨w.top, rfl, rfl⟩
    · rintro ⟨d, hd, rfl⟩
      cases hd
      rfl
  | step op rest ih =>
    simp only [steps, run, Operation.leaves_toStep, Outcome.andThen_eq_ok, ih hp.2]
    constructor
    · rintro ⟨d, hd, e, he, rfl⟩
      exact ⟨e, ⟨d, hd, he⟩, rfl⟩
    · rintro ⟨e, ⟨d, hd, he⟩, rfl⟩
      exact ⟨d, hd, e, he, rfl⟩
  | nested base inner meanwhile rest inner_ih meanwhile_ih rest_ih =>
    obtain ⟨-, hinner, hmeanwhile, hnone, hrest⟩ := hp
    have seed {d' : Draft} (hd' : meanwhile.run w.top = .ok d') :
        d'.nested base = w.top.nested base := (gains_run hmeanwhile hd').nested_eq hnone base
    have folds (d' sub : Draft) := leaves_fold d' sub w.below rest.steps
    simp only [steps, leaves_append, leaves_nest, Outcome.andThen_eq_ok, meanwhile_ih hmeanwhile,
      inner_ih hinner, run_nested_eq_ok]
    constructor
    · rintro ⟨_, ⟨d', hd', rfl⟩, _, ⟨sub, hsub, rfl⟩, hfold⟩
      obtain ⟨e', he', hleft⟩ := Outcome.andThen_eq_ok.mp ((folds d' sub).symm.trans hfold)
      obtain ⟨e, he, rfl⟩ := (rest_ih hrest).mp hleft
      have opened : inner.run (w.top.nested base) = .ok sub := by
        rw [← seed hd']
        exact hsub
      exact ⟨e, ⟨sub, d', e', opened, hd', he', he⟩, rfl⟩
    · rintro ⟨e, ⟨sub, d', e', hsub, hd', he', he⟩, rfl⟩
      have opened : inner.run (d'.nested base) = .ok sub := by
        rw [seed hd']
        exact hsub
      refine ⟨_, ⟨d', hd', rfl⟩, _, ⟨sub, opened, rfl⟩, (folds d' sub).trans ?_⟩
      exact Outcome.andThen_eq_ok.mpr ⟨e', he', (rest_ih hrest).mpr ⟨e, he, rfl⟩⟩

/-- What the workbench answers about a program that it went through: the text and the values of a
statement whose placeholders are numbered from one to the number of its values, and in which each
operation of the program has written the values that it was given. -/
theorem describe_steps {p : Program} {base : String} {w : Workbench} (hbase : Plain base)
    (hp : p.WellFormed) (h : (Workbench.mk (.ofBase base) []).leaves p.steps = .ok w) :
    ((Workbench.mk (.ofBase base) []).run (p.steps ++ [.describe false])).getLast? =
        some (.done (w.reply (.described w.top.statement.sql w.top.params))) ∧
      (∀ n, n ∈ w.top.statement.references ↔ 1 ≤ n ∧ n ≤ w.top.params.length) ∧
      w.top.params = p.contribution.values ∧
      w.top.statement.filled = p.contribution.text base := by
  obtain ⟨d, hd, rfl⟩ := (leaves_steps_iff hp).mp h
  refine ⟨?_, aligned_of_gains hbase (gains_run hp hd) (continues_run hp hd)⟩
  rw [Workbench.run_append h, List.getLast?_append]
  rfl

end Program

end BoundQuery
