import BoundQuery.Proofs.Contribution

/-!
# Conditions of filters

The conditions of filters that are more than a comparison or a test of one column, with their values
in place: that the data of an asset or of its template contains an object, that one of several
columns is in a list, and that a drop is in one of some states. Each shows the condition that its
filter adds.
-/
namespace BoundQuery

open FilledText (ofString)
open Draft

/-- That a column contains a value. -/
def Contribution.contains (column : String) (v : Value) : Contribution where
  conditions := [(FilledText.contains column v).group]
  values := [v]

namespace Filter

/-- A source, and the members of the object that its data has to contain. -/
structure Demand where
  source : AttributeSource
  members : List (String × Json)

namespace Demand

/-- The value bound for a demand. -/
def object (demand : Demand) : Value := .json (.object demand.members)

/-- That the template of the asset contains a value. -/
def rowInTemplate (c : AssetColumns) (table : String) (v : Value) : FilledText :=
  ofString "EXISTS("
    ++ (Contribution.agreement table c.asset ["contract", "template_id"]
      ++ Contribution.contains (table ++ ".immutable_data") v).text
        ("SELECT FROM " ++ templatesTable ++ " " ++ table)
    ++ ofString ")"

/-- The condition of a demand, with its object in place. -/
def shown (c : AssetColumns) (demand : Demand) : FilledText :=
  let inMutable := FilledText.contains (c.asset ++ ".mutable_data") demand.object
  let inImmutable := FilledText.contains (c.asset ++ ".immutable_data") demand.object
  FilledText.group <|
    match demand.source with
    | .immutableData => inImmutable
    | .mutableData => inMutable
    | .templateData => rowInTemplate c "data_template" demand.object
    | .any =>
      inMutable ++ ofString " OR " ++ inImmutable ++ ofString " OR "
        ++ rowInTemplate c "any_template" demand.object

/-- One condition and one value for each demand. -/
def asked (c : AssetColumns) (demands : List Demand) : Contribution where
  conditions := demands.map (shown c)
  values := demands.map object

end Demand

namespace Attributes

variable {c : AssetColumns}

/-- The nested statement refers to the value bound before it. -/
lemma shows_anywhereDraft (v : Value) (d : Draft) :
    (Condition.anyRow (anywhereDraft c d.next (d.bind v).2).text).text.Shows d.params.length
      (d.params ++ [v]) (Demand.rowInTemplate c "any_template" v) := by
  have tested : (Condition.group (.contains "any_template.immutable_data" d.next)).text.Shows
      d.params.length (d.params ++ [v])
      (FilledText.contains "any_template.immutable_data" v).group :=
    (Condition.shows_contains _ (d.value?_next v) d.length_lt_next).group
  have gained := gains_of_bound
    (d.nested ("SELECT FROM " ++ templatesTable ++ " " ++ "any_template")) [v]
    (List.rel_append (shows_agreement "any_template" c.asset ["contract", "template_id"])
      (.cons tested .nil))
  exact Condition.shows_anyRow gained.shows_text

end Attributes

/-! ### Several columns -/

namespace Lists

/-- That any of some columns is among the values. -/
def anyOf (values : List Value) : List String → Contribution
  | [] => {}
  | columns =>
    { conditions := [FilledText.group
        (.joinWith " OR " (columns.map fun column => Membership.filled column .allow values))]
      values := columns.flatMap fun _ => Membership.bound values }

/-- Each column is tested against values of its own. -/
lemma shows_tests (values : List Value) (columns : List String) (d : Draft) :
    (tests values columns d).2 =
        { d with params := d.params ++ columns.flatMap fun _ => Membership.bound values } ∧
      List.Forall₂ (fun (c : Condition) shown => c.text.Shows d.params.length
          (tests values columns d).2.params shown)
        (tests values columns d).1
        (columns.map fun column => Membership.filled column .allow values) := by
  induction columns generalizing d with
  | nil => exact ⟨by simp [tests], .nil⟩
  | cons column columns ih =>
    obtain ⟨hparams, hrest⟩ := ih (d.test column values .allow).2
    have both : tests values (column :: columns) d =
        ((d.test column values .allow).1 ::
          (tests values columns (d.test column values .allow).2).1,
          (tests values columns (d.test column values .allow).2).2) := rfl
    have bound := d.test_snd column values .allow
    rw [both, hparams, bound]
    refine ⟨by simp, .cons ?_ ?_⟩
    · exact (d.shows_test column values .allow).extend _
    · rw [hparams, bound] at hrest
      apply hrest.imp
      intro condition shown h
      apply h.weaken
      simp

/-- The columns are asked for together, in one condition. -/
lemma gains_allowAny (values : List Value) (columns : List String) (d : Draft) :
    Gains (anyOf values columns) d (allowAny values columns d) := by
  cases columns with
  | nil => exact Gains.refl d
  | cons column columns =>
    obtain ⟨hbound, hshown⟩ := shows_tests values (column :: columns) d
    unfold allowAny
    cases hr : tests values (column :: columns) d with
    | mk conditions e =>
      rw [hr] at hbound hshown
      cases conditions with
      | nil => exact absurd hshown.length_eq (by simp)
      | cons first rest =>
        have he : e = { d with params := d.params ++
            (column :: columns).flatMap fun _ => Membership.bound values } := hbound
        rw [he] at hshown ⊢
        exact gains_of_bound d _ (.cons (Condition.shows_anyOf hshown).group .nil)

end Lists

/-! ### Drop states -/

namespace DropState

variable (c : DropColumns) (now : Value)

def remainingShown : FilledText :=
  FilledText.group (.compared c.maxClaimable .eq "0" ++ ofString " OR "
    ++ .compared c.currentClaimed .lt c.maxClaimable)

/-- The condition of a state with the instant in place. -/
def shown : DropState → FilledText
  | .created => .comparison c.startTime .gt now ++ ofString " AND " ++ remainingShown c
  | .active =>
    .comparison c.startTime .le now ++ ofString " AND "
      ++ FilledText.group (.compared c.endTime .eq "0" ++ ofString " OR "
        ++ .comparison c.endTime .gt now) ++ ofString " AND " ++ remainingShown c
  | .soldOut =>
    .compared c.maxClaimable .gt "0" ++ ofString " AND "
      ++ .compared c.currentClaimed .ge c.maxClaimable
  | .ended =>
    .comparison c.startTime .le now ++ ofString " AND " ++ .compared c.endTime .gt "0"
      ++ ofString " AND " ++ .comparison c.endTime .le now ++ ofString " AND " ++ remainingShown c

/-- One of some states, in parentheses each where there are several. -/
def anyShown (first : DropState) : List DropState → FilledText
  | [] => (first.shown c now).group
  | rest =>
    FilledText.group (.joinWith " OR " ((first :: rest).map fun state => (state.shown c now).group))

variable {c now} {m : Nat} {params : List Value} {p : Placeholder}

lemma shows_condition (hp : p.value? params = some now) (hm : m < p.ordinal) (state : DropState) :
    (state.condition c p).text.Shows m params (state.shown c now) := by
  have instant (column : String) (comparison : Comparison) :=
    Condition.shows_compareTo column comparison hp hm
  have zero : (Operand.number 0).text = .ofString "0" := rfl
  have remaining : (remaining c).text.Shows m params (remainingShown c) :=
    (Condition.shows_or (Condition.shows_compare _ .eq zero)
      (Condition.shows_compare _ .lt rfl)).group
  cases state with
  | created => exact Condition.shows_and (instant c.startTime .gt) remaining
  | active =>
    have running := (Condition.shows_or (Condition.shows_compare c.endTime .eq zero)
      (instant c.endTime .gt)).group
    exact Condition.shows_and (Condition.shows_and (instant c.startTime .le) running) remaining
  | soldOut =>
    exact Condition.shows_and (Condition.shows_compare _ .gt zero)
      (Condition.shows_compare _ .ge rfl)
  | ended =>
    have timed := Condition.shows_and (instant c.startTime .le)
      (Condition.shows_compare c.endTime .gt zero)
    exact Condition.shows_and (Condition.shows_and timed (instant c.endTime .le)) remaining

lemma shows_anyOf (hp : p.value? params = some now) (hm : m < p.ordinal) (first : DropState)
    (rest : List DropState) :
    (anyOf c p first rest).text.Shows m params (anyShown c now first rest) := by
  have each (state : DropState) : (Condition.group (state.condition c p)).text.Shows m params
      (state.shown c now).group := (shows_condition hp hm state).group
  cases rest with
  | nil => exact each first
  | cons second rest =>
    have listed : List.Forall₂ (fun (c : Condition) shown => c.text.Shows m params shown)
        ((first :: second :: rest).map fun state => .group (state.condition c p))
        ((first :: second :: rest).map fun state => (state.shown c now).group) :=
      forall₂_map_map _ each
    exact (Condition.shows_anyOf listed).group

end DropState

end Filter

end BoundQuery
