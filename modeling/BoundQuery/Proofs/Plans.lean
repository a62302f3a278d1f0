import BoundQuery.Proofs.FilterConditions
import BoundQuery.Proofs.Operations

/-!
# Plans

A plan is what a filter does to a draft, as data: steps one after the other, nested statements of
which a row is asked for, and the error of an argument that is not read. The run of a plan makes one
draft from another. What the run adds and which texts it writes are read off the plan, so that a
property of drafts is shown for each kind of step and follows for every filter. Main statement:
`Plan.gains_run`.
-/
namespace BoundQuery

open BoundQuery.Draft BoundQuery.Filter
open FilledText (ofString)

/-! ### Steps -/

/-- What is asked of a value that is bound for it. -/
inductive Ask where
  | contains (column : String)
  | authorizes
  | scaled (c : PriceColumns) (comparison : Comparison)
  | inStates (c : DropColumns) (first : DropState) (rest : List DropState)

namespace Ask

def condition (p : Placeholder) : Ask → Condition
  | .contains column => .group (.contains column p)
  | .authorizes =>
    .raw [.placeholder p, .verbatim " = ANY(auth_collection.authorized_accounts)"]
  | .scaled c comparison =>
    .raw [.verbatim (c.price ++ " " ++ comparison.symbol ++ " "), .placeholder p,
      .verbatim (" * POWER(10, " ++ c.precision ++ ")")]
  | .inStates c first rest => DropState.anyOf c p first rest

/-- The condition with the value in place. -/
def shown (v : Value) : Ask → FilledText
  | .contains column => (FilledText.contains column v).group
  | .authorizes =>
    FilledText.group ([.value v] ++ ofString " = ANY(auth_collection.authorized_accounts)")
  | .scaled c comparison =>
    FilledText.group (.comparison c.price comparison v
      ++ ofString (" * POWER(10, " ++ c.precision ++ ")"))
  | .inStates c first rest => DropState.anyShown c v first rest

lemma shows_condition {m : Nat} {params : List Value} {p : Placeholder} {v : Value}
    (hp : p.value? params = some v) (hm : m < p.ordinal) (ask : Ask) :
    (ask.condition p).text.Shows m params (ask.shown v) := by
  cases ask with
  | contains column => exact (Condition.shows_contains column hp hm).group
  | authorizes => exact ((SqlText.shows_ofString _).placeholder hp hm).group
  | scaled c comparison =>
    have power := ((SqlText.shows_ofString (" * POWER(10, " ++ c.precision ++ ")")).placeholder
      hp hm).verbatim (c.price ++ " " ++ comparison.symbol ++ " ")
    exact power.group.congr (by simp [shown, FilledText.comparison])
  | inStates c first rest => exact DropState.shows_anyOf hp hm first rest

end Ask

/-- A step of a plan. An operation is performed; a value is bound and something asked of it; any of
some columns is asked to be in a list; a term is asked for in any of the sources; the rows are
ordered. -/
inductive Plan.Step where
  | op (operation : Operation)
  | about (v : Value) (ask : Ask)
  | anyMember (values : List Value) (columns : List String)
  | anywhere (c : AssetColumns) (t : Attributes.Term)
  | order (keys : List OrderKey)

namespace Plan.Step

def perform (d : Draft) : Step → Except Failure Draft
  | .op operation => operation.perform d
  | .about v ask => .ok ((d.bind v).2.add (ask.condition d.next))
  | .anyMember values columns => .ok (Lists.allowAny values columns d)
  | .anywhere c t => orFault (Attributes.requireAnywhere c d t)
  | .order keys => .ok (d.close (clause "ORDER BY " ", " (keys.map OrderKey.text)))

/-- What a step adds. -/
def contribution : Step → Contribution
  | .op operation => operation.contribution
  | .about v ask => { conditions := [ask.shown v], values := [v] }
  | .anyMember values columns => Lists.anyOf values columns
  | .anywhere c t => Demand.asked c [⟨.any, [t]⟩]
  | .order keys =>
    { closing := [FilledText.clause "ORDER BY " ", " (keys.map fun key => key.text.filled [])] }

lemma gains_anywhere {c : AssetColumns} {t : Attributes.Term} {d e : Draft}
    (h : Attributes.requireAnywhere c d t = .ok e) : Gains (Demand.asked c [⟨.any, [t]⟩]) d e := by
  obtain ⟨-, rfl⟩ := Attributes.requireAnywhere_eq_ok.mp h
  have bound := d.value?_next (Attributes.objectOf [t])
  have tested (column : String) := Condition.shows_contains column bound d.length_lt_next
  have either := Condition.shows_or (tested (c.asset ++ ".mutable_data"))
    (tested (c.asset ++ ".immutable_data"))
  have row := Attributes.shows_anywhereDraft (c := c) (Attributes.objectOf [t]) d
  exact gains_bind_add d (Attributes.objectOf [t]) (Condition.shows_or either row).group

lemma gains_order (d : Draft) (keys : List OrderKey) :
    Gains (order keys).contribution d
      (d.close (clause "ORDER BY " ", " (keys.map OrderKey.text))) := by
  have shown : List.Forall₂ (fun t shown => SqlText.Shows t d.params.length d.params shown)
      (keys.map OrderKey.text) (keys.map fun key => key.text.filled []) :=
    forall₂_map_map _ fun key => (SqlText.shows_ofString _).congr (List.append_nil _).symm
  exact gains_close d (SqlText.Shows.clause "ORDER BY " ", " shown)

theorem gains_perform {s : Step} {d e : Draft} (h : s.perform d = .ok e) :
    Gains s.contribution d e := by
  cases s with
  | op operation => exact Operation.gains_perform h
  | about v ask =>
    cases h
    exact gains_bind_add d v (ask.shows_condition (d.value?_next v) d.length_lt_next)
  | anyMember values columns =>
    cases h
    exact Lists.gains_allowAny values columns d
  | anywhere c t => exact gains_anywhere (Outcome.orFault_eq_ok.mp h)
  | order keys =>
    cases h
    exact gains_order d keys

end Plan.Step

/-! ### Plans -/

/-- A plan: nothing, an error, a step, one plan after another, that the nested statement that a plan
makes of a base has a row, or the same only where a second plan adds a condition to the first. -/
inductive Plan where
  | skip
  | stop (e : Error)
  | step (s : Plan.Step)
  | seq (first rest : Plan)
  | hasRow (base : String) (nested : Plan)
  | rowIfAsked (base : String) (start nested : Plan)

namespace Plan

/-- One plan after another. -/
instance : Append Plan := ⟨.seq⟩

def op (operation : Operation) : Plan := .step (.op operation)

section

variable {α : Type}

/-- A plan for a value that may be missing. -/
def forSome (plan : α → Plan) : Option α → Plan
  | none => skip
  | some a => plan a

/-- A plan for what is read, or the error where it is not. -/
def forRead (plan : α → Plan) : Except Error α → Plan
  | .ok a => plan a
  | .error e => stop e

/-- A plan for each of some items. -/
def forEach (plan : α → Plan) : List α → Plan
  | [] => skip
  | a :: items => plan a ++ forEach plan items

/-- A plan for a list, if it has any items. -/
def unlessEmpty (plan : List α → Plan) (items : List α) : Plan :=
  if items.isEmpty then skip else plan items

end

def run : Plan → Draft → Except Failure Draft
  | .skip, d => .ok d
  | .stop e, _ => .error (.error e)
  | .step s, d => s.perform d
  | .seq first rest, d => first.run d >>= rest.run
  | .hasRow base nested, d => nested.run (d.nested base) >>= fun sub => orFault (d.fold sub)
  | .rowIfAsked base start nested, d => do
    let started ← start.run (d.nested base)
    let sub ← nested.run started
    if started.conditions.length < sub.conditions.length then orFault (d.fold sub) else .ok d

/-- What a plan adds, one step after the other. -/
def contribution : Plan → Contribution
  | .skip => {}
  | .stop _ => {}
  | .step s => s.contribution
  | .seq first rest => first.contribution ++ rest.contribution
  | .hasRow base nested => nested.contribution.hasRow base
  | .rowIfAsked base start nested =>
    if nested.contribution.conditions.isEmpty then {}
    else (start.contribution ++ nested.contribution).hasRow base

@[simp] theorem contribution_skip : skip.contribution = {} := rfl

@[simp] theorem contribution_append (p q : Plan) :
    (p ++ q).contribution = p.contribution ++ q.contribution := rfl

@[simp] theorem contribution_op (operation : Operation) :
    (op operation).contribution = operation.contribution := rfl

/-- A condition is added where one is gained. -/
lemma isEmpty_conditions_iff {k : Contribution} {d e : Draft} (h : Gains k d e) :
    k.conditions.isEmpty = true ↔ ¬ d.conditions.length < e.conditions.length := by
  obtain ⟨more, hmore, hshown⟩ := h.conditions
  rw [List.isEmpty_iff_length_eq_zero, hmore, List.length_append, hshown.length_eq]
  omega

/-- A plan adds the same to every draft. -/
theorem gains_run {p : Plan} {d e : Draft} (h : p.run d = .ok e) : Gains p.contribution d e := by
  induction p generalizing d e with
  | skip =>
    cases h
    exact Gains.refl d
  | stop _ => cases h
  | step s => exact Step.gains_perform h
  | seq first rest ihf ihr =>
    obtain ⟨d', hd', he⟩ := Outcome.bind_eq_ok.mp h
    exact (ihf hd').trans (ihr he)
  | hasRow base nested ih =>
    obtain ⟨sub, hsub, he⟩ := Outcome.bind_eq_ok.mp h
    exact (ih hsub).fold (Outcome.orFault_eq_ok.mp he)
  | rowIfAsked base start nested ihs ihn =>
    obtain ⟨started, hstarted, h⟩ := Outcome.bind_eq_ok.mp h
    obtain ⟨sub, hsub, he⟩ := Outcome.bind_eq_ok.mp h
    have asked := isEmpty_conditions_iff (ihn hsub)
    rw [contribution]
    split at he
    next longer =>
      rw [if_neg (mt asked.mp (not_not_intro longer))]
      exact ((ihs hstarted).trans (ihn hsub)).fold (Outcome.orFault_eq_ok.mp he)
    next same =>
      cases he
      rw [if_pos (asked.mpr same)]
      exact Gains.refl d

/-! ### Runs of composed plans -/

section Runs

variable {p q : Plan} {d e : Draft}

lemma run_op (operation : Operation) (d : Draft) : (op operation).run d = operation.perform d := rfl

lemma run_append (p q : Plan) (d : Draft) : (p ++ q).run d = p.run d >>= q.run := rfl

/-- What comes after a plan that succeeds goes on from where it ended. -/
lemma run_append_of_ok (h : p.run d = .ok e) : (p ++ q).run d = q.run e := by
  rw [run_append, h]
  rfl

/-- Two plans, one after the other. -/
lemma run_append_eq {x : Except Failure Draft} {f : Draft → Except Failure Draft}
    (hp : p.run d = x) (hq : ∀ e, q.run e = f e) : (p ++ q).run d = x >>= f := by
  rw [run_append, hp, funext hq]

/-- Two plans that succeed, one after the other. -/
lemma run_append_eq_ok {f g : Draft → Draft} (hp : ∀ d, p.run d = .ok (f d))
    (hq : ∀ d, q.run d = .ok (g d)) (d : Draft) : (p ++ q).run d = .ok (g (f d)) := by
  rw [run_append_of_ok (hp d), hq]

/-- A plan for a list is left out where the list is empty. -/
lemma run_unlessEmpty {α : Type} {plan : List α → Plan} {f : List α → Draft → Draft}
    (h : ∀ items d, (plan items).run d = .ok (f items d)) (items : List α) (d : Draft) :
    (unlessEmpty plan items).run d = .ok (if items.isEmpty then d else f items d) := by
  unfold unlessEmpty
  cases items.isEmpty with
  | true => rfl
  | false => exact h items d

end Runs

end Plan

/-! ### Texts -/

def Ask.texts : Ask → List (Place × String)
  | .contains column => [(.name, column)]
  | .authorizes => []
  | .scaled c comparison => [(.name, c.price), (.name, c.precision), (.name, comparison.symbol)]
  | .inStates c _ _ =>
    [(.state, c.startTime), (.state, c.endTime), (.state, c.maxClaimable),
      (.state, c.currentClaimed)]

/-- The texts that ask for a row of a table of templates. -/
def Filter.AssetColumns.rowTexts (c : AssetColumns) (table : String) : List (Place × String) :=
  [(.table, "SELECT FROM " ++ templatesTable ++ " " ++ table), (.name, table), (.name, c.asset),
    (.name, "contract"), (.name, "template_id"), (.name, table ++ ".immutable_data")]

/-- The texts that a step is given; the words that every such step is written with are not among
them. -/
def Plan.Step.texts : Plan.Step → List (Place × String)
  | .op operation => operation.texts
  | .about _ ask => ask.texts
  | .anyMember _ columns => columns.map (.name, ·)
  | .anywhere c _ =>
    [(.name, c.asset ++ ".mutable_data"), (.name, c.asset ++ ".immutable_data")]
      ++ c.rowTexts "any_template"
  | .order keys => (.closing, "ORDER BY ") :: keys.map fun key => (.closing, key.column)

/-- The texts of a plan, each with its place. -/
def Plan.texts : Plan → List (Place × String)
  | .skip => []
  | .stop _ => []
  | .step s => s.texts
  | .seq first rest => first.texts ++ rest.texts
  | .hasRow base nested => (.table, base) :: nested.texts
  | .rowIfAsked base start nested => (.table, base) :: (start.texts ++ nested.texts)

@[simp] theorem Plan.texts_append (p q : Plan) : (p ++ q).texts = p.texts ++ q.texts := rfl

@[simp] theorem Plan.texts_op (operation : Operation) :
    (op operation).texts = operation.texts := rfl

/-! ### Parts that are left alone -/

namespace Contribution

/-- A part of the statement that nothing is added to; the conditions are no such part. -/
def Lacks (k : Contribution) : Place → Prop
  | .base => k.base = ""
  | .group => k.groups = []
  | .closing => k.closing = []
  | _ => True

variable {k k' : Contribution} {place : Place}

/-- Conditions and the values they refer to are all that is added. -/
lemma lacks_of (conditions : List FilledText) (values : List Value) (place : Place) :
    Lacks { conditions := conditions, values := values } place := by
  cases place <;> first | rfl | trivial

lemma Lacks.append (h : k.Lacks place) (h' : k'.Lacks place) : (k ++ k').Lacks place := by
  cases place with
  | base => exact (congrArg₂ (· ++ ·) h h' : k.base ++ k'.base = "" ++ "")
  | group => exact List.append_eq_nil_iff.mpr ⟨h, h'⟩
  | closing => exact List.append_eq_nil_iff.mpr ⟨h, h'⟩
  | _ => trivial

/-- A clause or a column is added only to its own part. -/
lemma lacks_closing (clauses : List FilledText) (values : List Value) (h : place ≠ .closing) :
    Lacks { closing := clauses, values := values } place := by
  cases place with
  | closing => exact absurd rfl h
  | _ => first | rfl | trivial

end Contribution

open Contribution

section Lacks

variable {place : Place}

lemma Operation.lacks {op : Operation} (h : ∀ t ∈ op.texts, t.1 ≠ place) :
    op.contribution.Lacks place := by
  cases op with
  | compare column comparison v => exact lacks_of _ _ place
  | member column values =>
    rw [contribution]
    cases values.asList? <;> exact lacks_of _ _ place
  | nonMember column values orNull =>
    rw [contribution]
    rcases values.asList? with _ | _ <;> cases orNull <;> exact lacks_of _ _ place
  | nullCheck column expected => exact lacks_of _ _ place
  | join left right columns => exact lacks_of _ _ place
  | groups columns =>
    cases columns with
    | nil => exact lacks_of [] [] place
    | cons column columns =>
      cases place with
      | group => exact absurd rfl (h (.group, column) (.head _))
      | _ => first | rfl | trivial
  | paginate page limit =>
    rw [contribution]
    cases offset page limit with
    | error _ => exact lacks_of [] [] place
    | ok rows => exact lacks_closing _ _ (h (.closing, "LIMIT ") (.head _)).symm
  | raw sql => exact lacks_of _ _ place
  | close sql => exact lacks_closing _ _ (h (.closing, sql) (.head _)).symm
  | extendBase sql =>
    cases place with
    | base => exact absurd rfl (h (.base, sql) (.head _))
    | _ => first | rfl | trivial

lemma Plan.Step.lacks {s : Plan.Step} (h : ∀ t ∈ s.texts, t.1 ≠ place) :
    s.contribution.Lacks place := by
  cases s with
  | op operation => exact operation.lacks h
  | about v ask => exact lacks_of _ _ place
  | anyMember values columns => cases columns <;> exact lacks_of _ _ place
  | anywhere c t => exact lacks_of _ _ place
  | order keys => exact lacks_closing _ _ (h (.closing, "ORDER BY ") (.head _)).symm

/-- A plan with no text for a part of the statement adds nothing to it. -/
theorem Plan.lacks {p : Plan} (h : ∀ t ∈ p.texts, t.1 ≠ place) : p.contribution.Lacks place := by
  induction p with
  | skip => exact lacks_of [] [] place
  | stop _ => exact lacks_of [] [] place
  | step s => exact s.lacks h
  | seq first rest ihf ihr =>
    obtain ⟨hf, hr⟩ := List.forall_mem_append.mp h
    exact (ihf hf).append (ihr hr)
  | hasRow base nested _ => exact lacks_of _ _ place
  | rowIfAsked base start nested _ _ =>
    rw [contribution]
    split <;> exact lacks_of _ _ place

end Lacks

end BoundQuery
