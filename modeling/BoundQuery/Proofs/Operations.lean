import BoundQuery.Proofs.Contribution
import BoundQuery.Proofs.Growth

/-!
# Operations on drafts

The operations of a draft as data, with the texts and values that each is given, the draft it makes,
and what it adds with its values in place. A membership test is refused for a value that is no list,
and paging breaks a rule of use where no machine integer counts the rows before the page. Main
statement: `Operation.gains_perform`.
-/
namespace BoundQuery

open FilledText (ofString)
open Draft

/-- An operation on a draft, with the texts and values it is given. -/
inductive Operation where
  | compare (column : String) (comparison : Comparison) (v : Value)
  | member (column : String) (values : Value)
  | nonMember (column : String) (values : Value) (orNull : Bool)
  | nullCheck (column : String) (expected : Bool)
  | join (left right : String) (columns : List String)
  | groups (columns : List String)
  | paginate (page limit : Int64)
  | raw (sql : String)
  | close (sql : String)
  | extendBase (sql : String)

/-- Where a text of a plan stands: as a name in a condition, in the condition that asks for states
of drops, as a condition in parentheses, as the base of a nested statement, at the end of the base,
among the groups, or in a closing clause. -/
inductive Place where
  | name
  | state
  | enclosed
  | table
  | base
  | group
  | closing
  deriving DecidableEq

namespace Operation

/-- The draft after a test, or as it was where the test is refused. -/
def orKeep (d : Draft) : Except Error Draft → Draft
  | .ok e => e
  | .error _ => d

def apply (d : Draft) : Operation → Except Fault Draft
  | .compare column comparison v => .ok (d.addComparison column comparison v)
  | .member column values => .ok (orKeep d (d.addMember? column values))
  | .nonMember column values orNull => .ok (orKeep d (d.addNonMember? column values orNull))
  | .nullCheck column expected => .ok (d.addNullCheck column expected)
  | .join left right columns => .ok (d.addJoin left right columns)
  | .groups columns => .ok (d.addGroups columns)
  | .paginate page limit => d.paginate page limit
  | .raw sql => .ok (d.addRaw (.ofString sql))
  | .close sql => .ok (d.close (.ofString sql))
  | .extendBase sql => .ok (d.extendBase sql)

/-- What an operation adds; a membership test of a value that is no list adds nothing. -/
def contribution : Operation → Contribution
  | .compare column comparison v => .comparison column comparison v
  | .member column values =>
    match values.asList? with
    | some items => .membership column items .allow
    | none => {}
  | .nonMember column values orNull =>
    match values.asList? with
    | some items => if orNull then .orNull column items else .membership column items .deny
    | none => {}
  | .nullCheck column expected => .nullCheck column expected
  | .join left right columns => .agreement left right columns
  | .groups columns => { groups := columns }
  | .paginate page limit =>
    match Draft.offset page limit with
    | .ok rows => .page limit rows
    | .error _ => {}
  | .raw sql => .condition ("(" ++ sql ++ ")")
  | .close sql => { closing := [ofString sql] }
  | .extendBase sql => { base := sql }

/-- The texts that an operation is given, each with its place. -/
def texts : Operation → List (Place × String)
  | .compare column comparison _ => [(.name, column), (.name, comparison.symbol)]
  | .member column _ => [(.name, column)]
  | .nonMember column _ _ => [(.name, column)]
  | .nullCheck column _ => [(.name, column)]
  | .join left right columns => (.name, left) :: (.name, right) :: columns.map (.name, ·)
  | .groups columns => columns.map (.group, ·)
  | .paginate _ _ => [(.closing, "LIMIT "), (.closing, " OFFSET ")]
  | .raw sql => [(.enclosed, sql)]
  | .close sql => [(.closing, sql)]
  | .extendBase sql => [(.base, sql)]

/-- The columns and the texts of an operation hold no dollar sign. -/
def Plain : Operation → Prop
  | .compare column comparison _ => BoundQuery.Plain column ∧ BoundQuery.Plain comparison.symbol
  | .member column _ => BoundQuery.Plain column
  | .nonMember column _ _ => BoundQuery.Plain column
  | .nullCheck column _ => BoundQuery.Plain column
  | .join left right columns =>
    BoundQuery.Plain left ∧ BoundQuery.Plain right ∧ ∀ column ∈ columns, BoundQuery.Plain column
  | .groups columns => ∀ column ∈ columns, BoundQuery.Plain column
  | .paginate _ _ => True
  | .raw sql => BoundQuery.Plain sql
  | .close sql => BoundQuery.Plain sql
  | .extendBase sql => BoundQuery.Plain sql

/-- The draft that an operation makes, where it is neither refused nor breaks a rule of use. -/
def perform (d : Draft) : Operation → Except Failure Draft
  | .compare column comparison v => .ok (d.addComparison column comparison v)
  | .member column values => orError (d.addMember? column values)
  | .nonMember column values orNull => orError (d.addNonMember? column values orNull)
  | .nullCheck column expected => .ok (d.addNullCheck column expected)
  | .join left right columns => .ok (d.addJoin left right columns)
  | .groups columns => .ok (d.addGroups columns)
  | .paginate page limit => orFault (d.paginate page limit)
  | .raw sql => .ok (d.addRaw (.ofString sql))
  | .close sql => .ok (d.close (.ofString sql))
  | .extendBase sql => .ok (d.extendBase sql)

variable {op : Operation} {d e : Draft}

/-- An operation that is refused leaves the draft as it was. -/
theorem apply_eq (op : Operation) (d : Draft) :
    op.apply d = match op.perform d with
      | .ok e => .ok e
      | .error (.error _) => .ok d
      | .error (.fault f) => .error f := by
  cases op with
  | member column values =>
    simp only [apply, perform]
    cases d.addMember? column values <;> rfl
  | nonMember column values orNull =>
    simp only [apply, perform]
    cases d.addNonMember? column values orNull <;> rfl
  | paginate page limit =>
    simp only [apply, perform]
    cases d.paginate page limit <;> rfl
  | _ => rfl

/-- What an operation adds does not depend on the draft it is performed on. -/
theorem gains_perform (h : op.perform d = .ok e) : Gains op.contribution d e := by
  cases op with
  | compare column comparison v =>
    cases h
    exact gains_addComparison d column comparison v
  | member column values =>
    obtain ⟨items, hitems, rfl⟩ := Outcome.map_eq_ok.mp (Outcome.orError_eq_ok.mp h)
    rw [contribution, listFor_eq_ok.mp hitems]
    exact gains_addMember d column items
  | nonMember column values orNull =>
    obtain ⟨items, hitems, rfl⟩ := Outcome.map_eq_ok.mp (Outcome.orError_eq_ok.mp h)
    rw [contribution, listFor_eq_ok.mp hitems]
    exact gains_addNonMember d column items orNull
  | nullCheck column expected =>
    cases h
    exact gains_addNullCheck d column expected
  | join left right columns =>
    cases h
    exact gains_addJoin d left right columns
  | groups columns =>
    cases h
    exact gains_addGroups d columns
  | paginate page limit =>
    obtain ⟨rows, hrows, rfl⟩ := paginate_eq_ok.mp (Outcome.orFault_eq_ok.mp h)
    rw [contribution, hrows]
    exact gains_cut d limit rows
  | raw sql =>
    cases h
    exact gains_addRaw d sql
  | close sql =>
    cases h
    exact gains_close d (SqlText.shows_ofString sql)
  | extendBase sql =>
    cases h
    exact gains_extendBase d sql

/-- An operation whose texts hold no dollar sign is plain. -/
lemma plain_of_texts (h : ∀ t ∈ op.texts, BoundQuery.Plain t.2) : op.Plain := by
  cases op with
  | compare column comparison v =>
    exact ⟨h (.name, column) (by simp [texts]), h (.name, comparison.symbol) (by simp [texts])⟩
  | member column values => exact h (.name, column) (by simp [texts])
  | nonMember column values orNull => exact h (.name, column) (by simp [texts])
  | nullCheck column expected => exact h (.name, column) (by simp [texts])
  | join left right columns =>
    exact ⟨h (.name, left) (by simp [texts]), h (.name, right) (by simp [texts]),
      fun column hm => h (.name, column) (by simp [texts, hm])⟩
  | groups columns => exact fun column hm => h (.group, column) (by simp [texts, hm])
  | paginate page limit => trivial
  | raw sql => exact h (.enclosed, sql) (by simp [texts])
  | close sql => exact h (.closing, sql) (by simp [texts])
  | extendBase sql => exact h (.base, sql) (by simp [texts])

/-- A plain operation that writes no closing clause lets a draft grow. -/
theorem grows_perform (hop : op.Plain) (hopen : ∀ t ∈ op.texts, t.1 ≠ .closing)
    (h : op.perform d = .ok e) : d.Grows e := by
  cases op with
  | compare column comparison v =>
    cases h
    exact grows_addComparison d v hop.1 hop.2
  | member column values =>
    obtain ⟨items, -, rfl⟩ := Outcome.map_eq_ok.mp (Outcome.orError_eq_ok.mp h)
    exact grows_addMember d items hop
  | nonMember column values orNull =>
    obtain ⟨items, -, rfl⟩ := Outcome.map_eq_ok.mp (Outcome.orError_eq_ok.mp h)
    exact grows_addNonMember d items orNull hop
  | nullCheck column expected =>
    cases h
    exact grows_addNullCheck d expected hop
  | join left right columns =>
    cases h
    exact grows_addJoin d hop.1 hop.2.1 hop.2.2
  | groups columns =>
    cases h
    exact grows_addGroups d hop
  | paginate page limit => exact absurd rfl (hopen (.closing, "LIMIT ") (by simp [texts]))
  | raw sql =>
    cases h
    exact grows_addRaw d hop
  | close sql => exact absurd rfl (hopen (.closing, sql) (by simp [texts]))
  | extendBase sql =>
    cases h
    exact grows_extendBase d hop

/-- A test that is refused adds nothing. -/
lemma contribution_of_refused {x : Error} (h : op.perform d = .error (.error x)) :
    op.contribution = {} := by
  cases op with
  | member column values =>
    have refused := Outcome.map_eq_error.mp (Outcome.orError_eq_error.mp h)
    rw [contribution, asList?_eq_none_of_listFor refused]
  | nonMember column values orNull =>
    have refused := Outcome.map_eq_error.mp (Outcome.orError_eq_error.mp h)
    rw [contribution, asList?_eq_none_of_listFor refused]
  | paginate page limit => exact absurd h Outcome.orFault_ne_error
  | _ => cases h

theorem gains_apply (h : op.apply d = .ok e) : Gains op.contribution d e := by
  rw [apply_eq] at h
  cases performed : op.perform d with
  | ok e' =>
    rw [performed] at h
    cases h
    exact gains_perform performed
  | error failure =>
    rw [performed] at h
    cases failure with
    | error x =>
      cases h
      rw [contribution_of_refused performed]
      exact Gains.refl d
    | fault f => cases h

end Operation

end BoundQuery
