import BoundQuery.Proofs.FilterPlans

/-!
# Editing a draft in place

An edit changes a draft in place: what it did before it fails stays done, so nothing but the order
of its steps keeps a failed edit from leaving a trace. A plan is carried out in place one step after
the other, every step that may refuse its values allowed to fail, and a nested statement is a draft
of its own. Each plan comes to the same in place as its run; the filters, which read their arguments
before they change anything, leave the draft as it was where they err. Main statements:
`Plan.agrees_edit` and `Composer.performs_edit`.
-/
namespace BoundQuery

/-- A computation on a draft. Where it fails, the draft stays as the computation left it. -/
def Edit (α : Type) : Type := Draft → Except Failure α × Draft

namespace Edit

variable {α β : Type}

/-- Goes on with an outcome. -/
def after (next : α → Edit β) : Except Failure α × Draft → Except Failure β × Draft
  | (.ok a, d) => next a d
  | (.error failure, d) => (.error failure, d)

instance : Monad Edit where
  pure a := fun d => (.ok a, d)
  bind m next := fun d => after next (m d)

/-! ### Steps -/

def change (f : Draft → Draft) : Edit Unit := fun d => (.ok (), f d)

/-- An outcome that does not depend on the draft. -/
def lift (outcome : Except Failure α) : Edit α := fun d => (outcome, d)

def bindValue (v : Value) : Edit Placeholder := fun d => (.ok (d.bind v).1, (d.bind v).2)

def add (condition : Condition) : Edit Unit := change fun d => d.add condition

/-- Binds a value and compares a column with it. -/
def comparison (column : String) (comparison : Comparison) (v : Value) : Edit Unit := do
  let p ← bindValue v
  add (.compareTo column comparison p)

/-- A membership test, refused for anything but a list. -/
def test (column : String) (v : Value) (sense : Sense) : Edit Condition := do
  let items ← lift (orError (Draft.listFor column v))
  fun d => (.ok (d.test column items sense).1, (d.test column items sense).2)

def member (column : String) (v : Value) : Edit Unit := do
  let condition ← test column v .allow
  add condition

def nonMember (column : String) (v : Value) (orNull : Bool) : Edit Unit := do
  let condition ← test column v .deny
  add (if orNull then condition.orNull column else condition)

/-- A membership test for each of some columns, none of them added. -/
def tests (values : Value) : List String → Edit (List Condition)
  | [] => pure []
  | column :: columns => do
    let condition ← test column values .allow
    let conditions ← tests values columns
    pure (condition :: conditions)

def anyMember (columns : List String) (values : Value) : Edit Unit := do
  match ← tests values columns with
  | [] => pure ()
  | first :: rest => add (.group (.anyOf first rest))

/-- The limit is bound before the rows before the page are counted. -/
def paginate (page limit : Int64) : Edit Unit := do
  let limitParam ← bindValue (.int limit)
  let rows ← lift (orFault (Draft.offset page limit))
  let offsetParam ← bindValue (.int rows)
  change fun d => d.close [.verbatim "LIMIT ", .placeholder limitParam, .verbatim " OFFSET ",
    .placeholder offsetParam]

/-- Adopts the values of a nested draft. -/
def absorb (sub : Draft) : Edit Condition := fun d =>
  match d.absorb sub with
  | .ok (condition, e) => (.ok condition, e)
  | .error fault => (.error (.fault fault), d)

/-- Absorbs a nested draft, started from the draft as it is, and adds a condition made of its having
a row. -/
def foldAs (wrap : Condition → Condition) (nested : Draft → Draft) : Edit Unit := fun d =>
  (do let condition ← absorb (nested d); add (wrap condition)) d

/-- Adds that a nested draft has a row. -/
def fold (sub : Draft) : Edit Unit := foldAs .group fun _ => sub

/-- Edits another draft and goes on with what it has become; what fails there leaves this one as it
was. -/
def aside (other : Draft) (m : Edit Unit) (next : Draft → Edit Unit) : Edit Unit := fun d =>
  match m other with
  | (.ok (), sub) => next sub d
  | (.error failure, _) => (.error failure, d)

open BoundQuery.Filter in
/-- Asks for a term, bound once, in any of the sources. -/
def anywhere (c : AssetColumns) (t : Attributes.Term) : Edit Unit := do
  let p ← bindValue (Attributes.objectOf [t])
  foldAs (fun hasRow => .group (.or
      (.or (.contains (c.asset ++ ".mutable_data") p) (.contains (c.asset ++ ".immutable_data") p))
      hasRow))
    (Attributes.anywhereDraft c p)

/-! ### Edits that follow a computation -/

/-- What an edit comes to is what a computation of the next draft comes to. -/
inductive Agrees : Except Failure Unit × Draft → Except Failure Draft → Prop
  | ok (e : Draft) : Agrees (.ok (), e) (.ok e)
  | failed (failure : Failure) (d : Draft) : Agrees (.error failure, d) (.error failure)

section Agrees

variable {d : Draft} {m n : Edit Unit} {r : Except Failure Unit × Draft} {x : Except Failure Draft}
  {g : Draft → Except Failure Draft}

lemma Agrees.andThen (h : Agrees r x) (hn : ∀ e, Agrees (n e) (g e)) :
    Agrees (after (fun _ => n) r) (x >>= g) := by
  cases h with
  | ok e => exact hn e
  | failed failure d => exact .failed failure d

lemma Agrees.aside {other : Draft} {next : Draft → Edit Unit} (h : Agrees (m other) x)
    (hn : ∀ sub, Agrees (next sub d) (g sub)) : Agrees (Edit.aside other m next d) (x >>= g) := by
  unfold Edit.aside
  generalize m other = r at h
  cases h with
  | ok sub => exact hn sub
  | failed failure left => exact .failed failure d

lemma agrees_foldAs (wrap : Condition → Condition) (nested : Draft → Draft) (d : Draft) :
    Agrees (foldAs wrap nested d) (orFault ((d.absorb (nested d)).map fun (condition, d) =>
      d.add (wrap condition))) := by
  have outcome : foldAs wrap nested d =
      after (fun condition => add (wrap condition)) (absorb (nested d) d) := rfl
  rw [outcome, absorb]
  cases d.absorb (nested d) with
  | ok absorbed => exact .ok _
  | error fault => exact .failed _ d

lemma agrees_fold (sub d : Draft) : Agrees (fold sub d) (orFault (d.fold sub)) :=
  agrees_foldAs .group (fun _ => sub) d

/-- An edit that agrees with a computation that does not fail is a change. -/
lemma eq_change {f : Draft → Draft} (h : ∀ d, Agrees (m d) (.ok (f d))) : m = change f := by
  funext d
  have agrees := h d
  generalize m d = r at agrees
  cases agrees
  rfl

end Agrees

/-- An edit comes to the same as a computation that makes one draft from another; it breaks the same
rule of use, and where it errs the draft is as it was before. -/
structure Performs (m : Edit α) (f : Draft → Except Failure (α × Draft)) : Prop where
  ok : ∀ {d a e}, f d = .ok (a, e) → m d = (.ok a, e)
  error : ∀ {d e}, f d = .error (.error e) → m d = (.error (.error e), d)
  fault : ∀ {d x}, f d = .error (.fault x) → (m d).1 = .error (.fault x)

/-- A computation that answers nothing but the draft. -/
def alone (f : Draft → Except Failure Draft) (d : Draft) : Except Failure (Unit × Draft) :=
  (f d).map fun e => ((), e)

section Performs

variable {m : Edit Unit} {f : Draft → Except Failure Draft}

lemma Performs.agrees (h : Performs m (alone f)) (d : Draft) : Agrees (m d) (f d) := by
  cases hf : f d with
  | ok e =>
    rw [h.ok (congrArg (Except.map fun e => ((), e)) hf)]
    exact .ok e
  | error failure =>
    have failed : alone f d = .error failure := congrArg (Except.map fun e => ((), e)) hf
    have stopped : (m d).1 = .error failure := by
      cases failure with
      | error e => rw [h.error failed]
      | fault x => exact h.fault failed
    generalize m d = r at stopped
    obtain ⟨outcome, left⟩ := r
    cases stopped
    exact .failed failure left

/-- An edit that agrees with a computation that does not err performs it. -/
lemma performs_of_agrees (h : ∀ d, Agrees (m d) (f d)) (hf : ∀ d e, f d ≠ .error (.error e)) :
    Performs m (alone f) where
  ok {d a e} hok := by
    obtain ⟨e', he', hpair⟩ := Outcome.map_eq_ok.mp hok
    cases hpair
    have agrees := h d
    rw [he'] at agrees
    generalize m d = r at agrees
    cases agrees
    rfl
  error {d e} herror := absurd (Outcome.map_eq_error.mp herror) (hf d e)
  fault {d x} hfault := by
    have agrees := h d
    rw [Outcome.map_eq_error.mp hfault] at agrees
    generalize m d = r at agrees
    cases agrees
    rfl

lemma performs_change (f : Draft → Draft) : Performs (change f) (alone fun d => .ok (f d)) :=
  performs_of_agrees (fun d => .ok (f d)) nofun

end Performs

/-! ### Tests of membership -/

section Tests

variable {column : String} {v : Value}

lemma performs_test (sense : Sense) :
    Performs (test column v sense) fun d => orError (d.test? column v sense) := by
  cases v with
  | list items => exact ⟨by rintro d a e ⟨⟩; rfl, nofun, nofun⟩
  | _ => exact ⟨nofun, by rintro d e ⟨⟩; rfl, nofun⟩

lemma performs_member :
    Performs (member column v) (alone fun d => orError (d.addMember? column v)) := by
  cases v with
  | list items => exact performs_change _
  | _ => exact ⟨nofun, by rintro d e ⟨⟩; rfl, nofun⟩

lemma performs_nonMember (orNull : Bool) :
    Performs (nonMember column v orNull)
      (alone fun d => orError (d.addNonMember? column v orNull)) := by
  cases v with
  | list items => exact performs_change _
  | _ => exact ⟨nofun, by rintro d e ⟨⟩; rfl, nofun⟩

lemma tests_eq (values : List Value) (columns : List String) (d : Draft) :
    tests (.list values) columns d =
      (.ok (Filter.Lists.tests values columns d).1, (Filter.Lists.tests values columns d).2) := by
  induction columns generalizing d with
  | nil => rfl
  | cons column columns ih =>
    have tested : tests (.list values) (column :: columns) d =
        after (fun conditions => pure ((d.test column values .allow).1 :: conditions))
          (tests (.list values) columns (d.test column values .allow).2) := rfl
    rw [tested, ih]
    rfl

lemma anyMember_eq (columns : List String) (values : List Value) :
    anyMember columns (.list values) = change (Filter.Lists.allowAny values columns) := by
  funext d
  have tested : anyMember columns (.list values) d = after (fun
      | [] => pure ()
      | first :: rest => add (.group (.anyOf first rest)))
      (tests (.list values) columns d) := rfl
  rw [tested, tests_eq, change, Filter.Lists.allowAny]
  generalize Filter.Lists.tests values columns d = tested
  obtain ⟨_ | ⟨first, rest⟩, e⟩ := tested <;> rfl

end Tests

end Edit

/-! ### Plans in place -/

open Edit

namespace Operation

/-- An operation in place. -/
def edit : Operation → Edit Unit
  | .compare column comparison v => Edit.comparison column comparison v
  | .member column values => Edit.member column values
  | .nonMember column values orNull => Edit.nonMember column values orNull
  | .nullCheck column expected => add (.isNull column expected)
  | .join left right columns => change fun d => d.addJoin left right columns
  | .groups columns => change fun d => d.addGroups columns
  | .paginate page limit => Edit.paginate page limit
  | .raw sql => add (.raw (.ofString sql))
  | .close sql => change fun d => d.close (.ofString sql)
  | .extendBase sql => change fun d => d.extendBase sql

theorem agrees_edit (op : Operation) (d : Draft) : Agrees (op.edit d) (op.perform d) := by
  cases op with
  | member column values => exact performs_member.agrees d
  | nonMember column values orNull => exact (performs_nonMember orNull).agrees d
  | paginate page limit =>
    rw [edit, perform, Edit.paginate, Draft.paginate]
    cases Draft.offset page limit with
    | error fault => exact .failed _ _
    | ok rows => exact .ok _
  | _ => exact .ok _

end Operation

namespace Plan

def Step.edit : Step → Edit Unit
  | .op operation => operation.edit
  | .about v ask => do
    let p ← bindValue v
    add (ask.condition p)
  | .anyMember values columns => Edit.anyMember columns (.list values)
  | .anywhere c t => Edit.anywhere c t
  | .order keys =>
    change fun d => d.close (Draft.clause "ORDER BY " ", " (keys.map Filter.OrderKey.text))

/-- A plan in place. Nested statements are edited aside, each started from the draft as it is. -/
def edit : Plan → Edit Unit
  | .skip => pure ()
  | .stop e => lift (.error (.error e))
  | .step s => s.edit
  | .seq first rest => do
    first.edit
    rest.edit
  | .hasRow base nested => fun d => aside (d.nested base) nested.edit fold d
  | .rowIfAsked base start nested => fun d =>
    aside (d.nested base) start.edit (fun started =>
      aside started nested.edit fun sub =>
        if started.conditions.length < sub.conditions.length then fold sub else pure ()) d

theorem Step.agrees_edit (s : Step) (d : Draft) : Agrees (s.edit d) (s.perform d) := by
  cases s with
  | op operation => exact operation.agrees_edit d
  | about v ask => exact .ok _
  | anyMember values columns =>
    rw [edit, anyMember_eq]
    exact .ok _
  | anywhere c t => exact agrees_foldAs _ _ (d.bind (Filter.Attributes.objectOf [t])).2
  | order keys => exact .ok _

/-- A plan comes to the same in place as it does where it makes one draft from another. -/
theorem agrees_edit (p : Plan) (d : Draft) : Agrees (p.edit d) (p.run d) := by
  induction p generalizing d with
  | skip => exact .ok d
  | stop e => exact .failed _ d
  | step s => exact s.agrees_edit d
  | seq first rest ihf ihr => exact (ihf d).andThen ihr
  | hasRow base nested ih => exact (ih (d.nested base)).aside fun sub => agrees_fold sub d
  | rowIfAsked base start nested ihs ihn =>
    refine (ihs (d.nested base)).aside fun started => (ihn started).aside fun sub => ?_
    split
    · exact agrees_fold sub d
    · exact .ok d

variable {α : Type} {p : Plan}

/-- A plan that makes a draft of every draft is a change in place. -/
lemma edit_eq_change {f : Draft → Draft} (h : ∀ d, p.run d = .ok (f d)) : p.edit = change f :=
  eq_change fun d => h d ▸ p.agrees_edit d

/-- A plan that never errs is performed in place. -/
lemma performs_edit (h : ∀ d e, p.run d ≠ .error (.error e)) : Performs p.edit (alone p.run) :=
  performs_of_agrees p.agrees_edit h

/-- A plan that errs only while it reads is performed in place: nothing was changed before. -/
lemma performs_edit_forRead {plan : α → Plan} (read : Except Error α)
    (h : ∀ a d e, (plan a).run d ≠ .error (.error e)) :
    Performs (forRead plan read).edit (alone (forRead plan read).run) := by
  cases read with
  | error e => exact { ok := nofun, error := by rintro d e' ⟨⟩; rfl, fault := nofun }
  | ok a => exact performs_edit (h a)

end Plan

/-! ### Filters in place -/

namespace Criterion

/-- A criterion required in place. -/
def edit (column : String) (criterion : Criterion) : Edit Unit := (criterion.plan column).edit

/-- A criterion excluded in place. -/
def editExclude (column : String) (orNull : Bool) (criterion : Criterion) : Edit Unit :=
  (criterion.exclusion column orNull).edit

/-- Requiring a criterion never fails. -/
theorem edit_eq (column : String) (criterion : Criterion) :
    criterion.edit column = change fun d => criterion.apply d column :=
  Plan.edit_eq_change (criterion.run_plan column)

/-- Excluding a criterion never fails. -/
theorem editExclude_eq (column : String) (orNull : Bool) (criterion : Criterion) :
    criterion.editExclude column orNull = change fun d => criterion.exclude d column orNull :=
  Plan.edit_eq_change (criterion.run_exclusion column orNull)

end Criterion

namespace Composer

open BoundQuery.Filter

/-- A composer that edits the draft in place. -/
def edit (args : Arguments) (composer : Composer) : Edit Unit := (composer.plan args).edit

theorem performs_edit (args : Arguments) (composer : Composer) :
    Performs (composer.edit args) (alone fun d => composer.apply args d) := by
  rw [← funext (composer.run_plan args)]
  cases composer with
  | attributes c =>
    refine Plan.performs_edit_forRead _ fun t d e => ?_
    rw [Attributes.run_requirement]
    exact Outcome.orFault_ne_error
  | drop c now =>
    refine Plan.performs_edit_forRead _ fun states d e => ?_
    rw [DropState.run_inAny]
    exact nofun
  | sort listing => exact Plan.performs_edit_forRead _ fun _ _ _ => nofun
  | asset c =>
    refine Plan.performs_edit fun d e => ?_
    rw [run_plan]
    exact Outcome.orFault_ne_error
  | page listing => exact Plan.performs_edit fun d e => Outcome.orFault_ne_error
  | _ =>
    refine Plan.performs_edit fun d e => ?_
    rw [run_plan]
    exact nofun

end Composer

end BoundQuery
