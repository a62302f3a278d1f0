import BoundQuery.Proofs.AttributeArguments
import BoundQuery.Proofs.FilterFolding
import BoundQuery.Proofs.FilterPlans

/-!
# Demands of the attribute filter

The attribute filter adds one condition for each of its demands: that the data of a source contains
an object. There is one demand at most for the immutable data, for the mutable data and for the
data of the template, and its object has the members that prevail among the arguments of the
source. Each argument for any of the sources has a demand of its own. An argument that does not
prevail is not demanded. Main statement: `Filter.attributes_demands`.
-/
namespace BoundQuery

open Draft
open Plan (forEach unlessEmpty)

namespace Filter

namespace Demand

lemma asked_append (c : AssetColumns) (demands more : List Demand) :
    asked c (demands ++ more) = asked c demands ++ asked c more := by
  rw [asked, List.map_append, List.map_append]
  rfl

end Demand

namespace Attributes

/-! ### The demands that are added -/

variable {c : AssetColumns}

/-- The demand for the terms of a source, if there are any. -/
def collected (source : AttributeSource) (found : List Term) : List Demand :=
  if found.isEmpty then [] else [⟨source, membersOf found⟩]

/-- A demand for each term that may be found anywhere. -/
def single (found : List Term) : List Demand := found.map fun t => ⟨.any, [t]⟩

def demandsOf (t : Terms) : List Demand :=
  collected .immutableData t.immutableData ++ (collected .mutableData t.mutableData ++
    (collected .templateData t.templateData ++ single t.any))

lemma contribution_inColumn (source : AttributeSource) {column : String} (found : List Term)
    (h : Demand.shown c ⟨source, membersOf found⟩ =
      (FilledText.contains column (objectOf found)).group) :
    (inColumn column found).contribution = Demand.asked c (collected source found) := by
  unfold inColumn collected unlessEmpty
  cases found.isEmpty with
  | true => rfl
  | false =>
    have asked : Demand.asked c [⟨source, membersOf found⟩] =
        { conditions := [(FilledText.contains column (objectOf found)).group]
          values := [objectOf found] } := by
      rw [Demand.asked, List.map_singleton, h, List.map_singleton, Demand.object, ← objectOf_eq]
    exact asked.symm

lemma contribution_inTemplate (found : List Term) :
    (inTemplate c found).contribution = Demand.asked c (collected .templateData found) := by
  unfold inTemplate collected unlessEmpty
  cases found.isEmpty <;> rfl

lemma contribution_forEach_anywhere (found : List Term) :
    (forEach (fun term => .step (.anywhere c term)) found).contribution =
      Demand.asked c (single found) := by
  induction found with
  | nil => rfl
  | cons term found ih =>
    have both : single (term :: found) = [⟨.any, [term]⟩] ++ single found := rfl
    rw [forEach, Plan.contribution_append, ih, both, Demand.asked_append]
    rfl

/-- The terms that are found are demanded. -/
theorem contribution_requirement (t : Terms) :
    (requirement c t).contribution = Demand.asked c (demandsOf t) := by
  rw [requirement, Plan.contribution_append, Plan.contribution_append, Plan.contribution_append,
    contribution_inColumn .immutableData _ rfl,
    contribution_inColumn .mutableData _ rfl, contribution_inTemplate,
    contribution_forEach_anywhere, demandsOf, Demand.asked_append, Demand.asked_append,
    Demand.asked_append]

theorem gains_require {t : Terms} {d e : Draft} (h : require c t d = .ok e) :
    Gains (Demand.asked c (demandsOf t)) d e := by
  rw [← contribution_requirement]
  exact Plan.gains_run ((run_requirement t d).trans (Outcome.orFault_eq_ok.mpr h))

/-- Terms are asked for without a fault where no NaN is bound before. -/
lemma exists_require (c : AssetColumns) {d : Draft} (h : ¬ d.HasNaN) (t : Terms) :
    ∃ e, require c t d = .ok e := by
  obtain ⟨e, he⟩ := ((runs_requirement c t).outcome d).ok_iff.mpr ⟨trivial, fun nan => h nan.2⟩
  exact ⟨e, Outcome.orFault_eq_ok.mp ((run_requirement t d).symm.trans he)⟩

/-! ### The arguments that are answered -/

lemma filter_collected (source asked : AttributeSource) (found : List Term) :
    (collected asked found).filter (·.source = source) =
      if asked = source then collected source found else [] := by
  unfold collected
  by_cases same : asked = source
  · subst same
    cases found.isEmpty <;> simp
  · cases found.isEmpty <;> simp [same]

lemma filter_single (source : AttributeSource) (found : List Term) :
    (single found).filter (·.source = source) = if source = .any then single found else [] := by
  cases source <;> simp [single, List.filter_map, Function.comp_def]

/-- The demands on one source. -/
lemma filter_demandsOf (t : Terms) (source : AttributeSource) :
    (demandsOf t).filter (·.source = source) =
      if source = .any then single t.any else collected source (t.of source) := by
  simp only [demandsOf, List.filter_append, filter_collected, filter_single]
  cases source <;> simp [Terms.of]

lemma mem_collected {source : AttributeSource} {found : List Term} {demand : Demand} :
    demand ∈ collected source found ↔ found ≠ [] ∧ demand = ⟨source, membersOf found⟩ := by
  cases found with
  | nil => simp [collected]
  | cons t found => simp [collected]

lemma mem_demandsOf {t : Terms} {demand : Demand} : demand ∈ demandsOf t ↔
    if demand.source = .any then demand ∈ single t.any
    else demand ∈ collected demand.source (t.of demand.source) := by
  have kept : demand ∈ demandsOf t ↔
      demand ∈ (demandsOf t).filter (·.source = demand.source) := by simp
  rw [kept, filter_demandsOf]
  split <;> rfl

lemma membersOf_ne_nil {found : List Term} (h : found ≠ []) : membersOf found ≠ [] := by
  obtain ⟨before, t, rfl⟩ := (List.eq_nil_or_concat found).resolve_left h
  have stored (members : List (String × Json)) : Entries.insert t.1 t.2 members ≠ [] := by
    fun_cases Entries.insert t.1 t.2 members <;> simp
  rw [membersOf, List.concat_eq_append, List.foldl_append]
  exact stored _

/-- How demands answer the arguments for attributes: all are read; the members asked of one source
together are those that prevail; what may be found anywhere is asked for one by one. -/
structure Answers (args : Arguments) (demands : List Demand) : Prop where
  read : ∀ key v, key.Proper → args.get? key.name = some v → ∃ document, Asks args key document
  once : ∀ source, source ≠ .any → (demands.filter (·.source = source)).length ≤ 1
  filled : ∀ demand ∈ demands, demand.members ≠ []
  sorted : ∀ demand ∈ demands, Entries.Sorted demand.members
  members : ∀ source, source ≠ .any → ∀ member document,
    (∃ demand ∈ demands, demand.source = source ∧ (member, document) ∈ demand.members) ↔
      ∃ key, key.source = source ∧ key.member = member ∧ Prevails args key document
  each : ∃ keys : List AttributeKey,
    (keys.Pairwise fun key other => key.name < other.name) ∧
    (∀ key, key ∈ keys ↔ key.source = .any ∧ ∃ document, Asks args key document) ∧
    List.Forall₂ (fun key demand => ∃ document, Asks args key document ∧
      demand.members = [(key.member, document)]) keys (demands.filter (·.source = .any))

variable {args : Arguments} {t : Terms}

/-- Where all terms are found, every argument for an attribute asks for a document. -/
lemma exists_asks (h : allTerms args = .ok t) {key : AttributeKey} {v : Value}
    (proper : key.Proper) (hget : args.get? key.name = some v) :
    ∃ document, Asks args key document := by
  have selected : (key.name, key, v) ∈ select args key.source :=
    mem_select.mpr ⟨rfl, proper, rfl, hget⟩
  obtain ⟨_, hterm⟩ := exists_term (terms_of h key.source) _ selected
  obtain ⟨document, hread, -⟩ := term_eq_ok.mp hterm
  exact ⟨document, proper, v, hget, hread⟩

theorem answers_demandsOf (h : allTerms args = .ok t) : Answers args (demandsOf t) where
  read _ _ proper hget := exists_asks h proper hget
  once := by
    intro source hsource
    rw [filter_demandsOf, if_neg hsource, collected]
    split <;> simp
  filled := by
    intro demand hdemand
    have listed := mem_demandsOf.mp hdemand
    split at listed
    next =>
      obtain ⟨term, -, rfl⟩ := List.mem_map.mp listed
      exact List.cons_ne_nil _ _
    next =>
      obtain ⟨some_found, hmembers⟩ := mem_collected.mp listed
      rw [hmembers]
      exact membersOf_ne_nil some_found
  sorted := by
    intro demand hdemand
    have listed := mem_demandsOf.mp hdemand
    split at listed
    next =>
      obtain ⟨term, -, rfl⟩ := List.mem_map.mp listed
      exact List.pairwise_singleton _ _
    next =>
      obtain ⟨-, hmembers⟩ := mem_collected.mp listed
      rw [hmembers]
      exact membersOf_sorted _
  members := by
    intro source hsource member document
    rw [← mem_membersOf (terms_of h source)]
    constructor
    · rintro ⟨demand, hdemand, rfl, hmember⟩
      have listed := mem_demandsOf.mp hdemand
      rw [if_neg hsource] at listed
      obtain ⟨-, hmembers⟩ := mem_collected.mp listed
      rwa [hmembers] at hmember
    · intro hmember
      refine ⟨⟨source, membersOf (t.of source)⟩, mem_demandsOf.mpr ?_, rfl, hmember⟩
      rw [if_neg hsource]
      refine mem_collected.mpr ⟨?_, rfl⟩
      rintro none
      rw [none] at hmember
      exact List.not_mem_nil hmember
  each := by
    refine ⟨keysOf args .any, keysOf_sorted args .any, ?_, ?_⟩
    · intro key
      rw [mem_keysOf]
      constructor
      · rintro ⟨hsource, proper, v, hget⟩
        exact ⟨hsource, exists_asks h proper hget⟩
      · rintro ⟨hsource, document, proper, v, hget, -⟩
        exact ⟨hsource, proper, v, hget⟩
    · rw [filter_demandsOf, if_pos rfl, single, List.forall₂_map_right_iff]
      apply (asks_each (terms_of h .any)).imp
      rintro key term ⟨document, hasks, rfl⟩
      exact ⟨document, hasks, rfl⟩

end Attributes

open Attributes

/-- The filter adds one condition and binds one value for each of its demands, and the demands
answer the arguments: of several that name one member of one source, the one with the last name. -/
theorem attributes_demands {args : Arguments} {c : AssetColumns} {d e : Draft}
    (h : attributes args c d = .ok e) :
    ∃ demands, Gains (Demand.asked c demands) d e ∧ Answers args demands := by
  obtain ⟨t, ht, he⟩ := Outcome.bind_eq_ok.mp h
  have found := Outcome.orError_eq_ok.mp ht
  exact ⟨demandsOf t, gains_require (Outcome.orFault_eq_ok.mp he), answers_demandsOf found⟩

/-- One attribute of the immutable data as it is and as a truth value, one attribute of any source,
and a name that is not read into a key. -/
def retyped : Arguments := .ofList [("immutable_data.rare", .text "true"),
  ("immutable_data:bool.rare", .text "true"), ("data.name", .text "Rock"),
  ("data_version", .text "2")]

theorem attributes_demands_retyped :
    ∃ e, attributes retyped {} (ofBase "SELECT FROM assets asset") = .ok e ∧
      (∃ demands, Gains (Demand.asked {} demands) (ofBase "SELECT FROM assets asset") e ∧
        Answers retyped demands) ∧
      Asks retyped ⟨.immutableData, none, "rare"⟩ (.string "true") ∧
      Asks retyped ⟨.immutableData, some "bool", "rare"⟩ (.bool true) ∧
      e.params = [.json (.object [("rare", .bool true)]),
        .json (.object [("name", .string "Rock")])] := by
  have found : allTerms retyped = .ok ⟨[("name", .string "Rock")],
      [("rare", .string "true"), ("rare", .bool true)], [], []⟩ := rfl
  have sound : ¬ (ofBase "SELECT FROM assets asset").HasNaN := by simp [HasNaN, ofBase, seeded]
  obtain ⟨e, required⟩ := exists_require {} sound ⟨[("name", .string "Rock")],
    [("rare", .string "true"), ("rare", .bool true)], [], []⟩
  have he : attributes retyped {} (ofBase "SELECT FROM assets asset") = .ok e :=
    Outcome.bind_eq_ok.mpr ⟨_, Outcome.orError_eq_ok.mpr found, Outcome.orFault_eq_ok.mpr required⟩
  have as_text : Asks retyped ⟨.immutableData, none, "rare"⟩ (.string "true") :=
    ⟨⟨by decide, by decide⟩, .text "true", rfl, rfl⟩
  have as_bool : Asks retyped ⟨.immutableData, some "bool", "rare"⟩ (.bool true) :=
    ⟨⟨by decide, by decide⟩, .text "true", rfl, rfl⟩
  exact ⟨e, he, attributes_demands he, as_text, as_bool, (gains_require required).params⟩

end Filter

end BoundQuery
