import BoundQuery.Proofs.Lookups

/-!
# Arguments never reach the text of a search

The text of a search depends on its arguments only through the choices that alike arguments
share: which arguments are there, how long the lists are, what the flags say and which order is
asked for. Contracts, instants, list items, bounds, names and values of attributes are bound, so
searches for alike arguments have the same text, whatever else the arguments hold.
Main statement: `Search.sql_eq_of_alike`.
-/
namespace BoundQuery

open BoundQuery.Draft BoundQuery.Filter BoundQuery.Membership

namespace Arguments

/-- The names of arguments whose value is bound as it is. -/
def valueNames : List String :=
  ["authorized_account", "min_template_mint", "max_template_mint", "lower_bound", "upper_bound"]

/-- The names of flags that choose between conditions. -/
def flagNames : List String :=
  ["burned", "is_transferable", "is_burnable", "only_duplicate_templates"]

/-- The sources of data other than any source. -/
def singleSources : List AttributeSource := [.immutableData, .mutableData, .templateData]

/-- Arguments on which filters make the same choices. -/
structure Alike (a b : Arguments) : Prop where
  lists : ∀ name ∈ listNames, Interchangeable (a.list name) (b.list name)
  values : ∀ name ∈ valueNames, (a.get? name).isSome = (b.get? name).isSome
  flags : ∀ name ∈ flagNames, a.flag? name = b.flag? name
  nullTemplate : a.text? "template_id" = some "null" ↔ b.text? "template_id" = some "null"
  instants : ∀ name ∈ ["before", "after"], (a.int? name).isSome = (b.int? name).isSome
  prices : ∀ name ∈ ["min_price", "max_price"], (a.float? name).isSome = (b.float? name).isSome
  symbol : (a.text? "symbol").isSome = (b.text? "symbol").isSome
  sort : a.text? "sort" = b.text? "sort"
  order : a.text? "order" = b.text? "order"
  anyTerms : (Attributes.select a .any).length = (Attributes.select b .any).length
  singleTerms : ∀ source ∈ singleSources,
    (Attributes.select a source).isEmpty = (Attributes.select b source).isEmpty

variable {a b : Arguments}

/-- What alike arguments say of a lookup: everything but the items of a list that have to be the
same. -/
def Covers : Lookup → Prop
  | .list name => name ∈ listNames
  | .items _ => False
  | .value name => name ∈ valueNames
  | .flag name => name ∈ flagNames
  | .choice _ => True
  | .literal name spelling => name = "template_id" ∧ spelling = "null"
  | .instant name => name ∈ ["before", "after"]
  | .number name => name ∈ ["min_price", "max_price"]
  | .text name => name = "symbol"
  | .word name => name ∈ ["sort", "order"]
  | .attributes => True
  | .count _ => True

instance : DecidablePred Covers := fun lookup => by
  cases lookup <;> unfold Covers <;> infer_instance

/-- As many terms are read from a source as arguments name it. -/
lemma length_of_allTerms {args : Arguments} {t : Attributes.Terms}
    (h : Attributes.allTerms args = .ok t) (source : AttributeSource) :
    (t.of source).length = (Attributes.select args source).length :=
  (Outcome.mapM_eq_ok.mp (Attributes.terms_of h source)).length_eq.symm

lemma Alike.terms (ha : a.Alike b) {t u : Attributes.Terms} (ht : Attributes.allTerms a = .ok t)
    (hu : Attributes.allTerms b = .ok u) : t.Alike .loose u := by
  have together {source : AttributeSource} (hs : source ∈ singleSources) :
      Attributes.Together .loose (t.of source) (u.of source) := by
    refine ⟨?_, trivial⟩
    have some_or_none := ha.singleTerms source hs
    rw [Bool.eq_iff_iff, List.isEmpty_iff_length_eq_zero, List.isEmpty_iff_length_eq_zero] at *
    rw [length_of_allTerms ht, length_of_allTerms hu, some_or_none]
  constructor
  · have lengths := ha.anyTerms
    rw [← length_of_allTerms ht .any, ← length_of_allTerms hu .any] at lengths
    exact List.forall₂_iff_get.mpr ⟨lengths, fun _ _ _ => trivial⟩
  · exact together (by decide : AttributeSource.immutableData ∈ singleSources)
  · exact together (by decide : AttributeSource.mutableData ∈ singleSources)
  · exact together (by decide : AttributeSource.templateData ∈ singleSources)

lemma rel_of_isSome {α : Type} {S : α → α → Prop} (hS : ∀ x y, S x y) {x y : Option α}
    (h : x.isSome = y.isSome) : Option.Rel S x y := by
  rcases x with _ | x <;> rcases y with _ | y
  · exact .none
  · cases h
  · cases h
  · exact .some (hS x y)

/-- What is covered is read alike. -/
theorem Alike.lookup (ha : a.Alike b) {lookup : Lookup} (h : Covers lookup) :
    lookup.Alike .loose a b := by
  cases lookup with
  | list name => exact ha.lists name h
  | items name => exact h.elim
  | value name => exact rel_of_isSome (fun _ _ => trivial) (ha.values name h)
  | flag name => exact ha.flags name h
  | choice name => exact trivial
  | literal name spelling =>
    obtain ⟨rfl, rfl⟩ := h
    exact ha.nullTemplate
  | instant name => exact rel_of_isSome (fun _ _ => trivial) (ha.instants name h)
  | number name => exact rel_of_isSome (fun _ _ => trivial) (ha.prices name h)
  | text name =>
    obtain rfl := h
    exact rel_of_isSome (fun _ _ => trivial) ha.symbol
  | word name =>
    rcases List.mem_pair.mp h with rfl | rfl
    · exact ha.sort
    · exact ha.order
  | attributes => exact .of_results id fun t u => ha.terms
  | count name => exact False.elim

end Arguments

namespace Search

variable {a b : Arguments} {kind kind' : Kind}

/-- Alike searches have the same texts, whatever their contracts and instants are. -/
lemma sql_eq_of_lookups (hk : kind.Alike .loose kind')
    (h : ∀ lookup ∈ kind.lookups ++ Listing.lookups, lookup.Alike .loose a b)
    {contract other : String} {s t : Search} (hs : kind.run a contract = .ok s)
    (ht : kind'.run b other = .ok t) : s.items.sql = t.items.sql ∧ s.count.sql = t.count.sql := by
  have bound : Likeness.loose.one (.text contract) (.text other) := trivial
  have alike := (kind.alike_run hk h bound).results hs ht
  exact ⟨congrArg SqlText.render alike.items.text, congrArg SqlText.render alike.count.text⟩

/-- Searches for alike arguments have the same texts, for any contracts and instants. The states
of drops have to be the same, those of sales only interchangeable. -/
theorem sql_eq_of_alike (a b : Arguments) (ha : a.Alike b) (contract other : String)
    (now then' : Int64) :
    (∀ s t, assets a contract = .ok s → assets b other = .ok t →
        s.items.sql = t.items.sql ∧ s.count.sql = t.count.sql) ∧
      (∀ s t, collections a contract = .ok s → collections b other = .ok t →
        s.items.sql = t.items.sql ∧ s.count.sql = t.count.sql) ∧
      (a.list "state" = b.list "state" →
        ∀ s t, drops a contract now = .ok s → drops b other then' = .ok t →
          s.items.sql = t.items.sql ∧ s.count.sql = t.count.sql) ∧
      (Interchangeable (a.list "state") (b.list "state") →
        ∀ s t, sales a contract = .ok s → sales b other = .ok t →
          s.items.sql = t.items.sql ∧ s.count.sql = t.count.sql) := by
  have covered {lookups : List Lookup} (h : ∀ lookup ∈ lookups, Arguments.Covers lookup) :
      ∀ lookup ∈ lookups, lookup.Alike .loose a b := fun lookup hr => ha.lookup (h lookup hr)
  refine ⟨?_, ?_, ?_, ?_⟩
  · intro s t
    exact sql_eq_of_lookups (.same .assets) (covered (by decide))
  · intro s t
    exact sql_eq_of_lookups (.same .collections) (covered (by decide))
  · intro hstate s t
    have states : ∀ lookup ∈ (Kind.drops 0).lookups ++ Listing.lookups,
        Arguments.Covers lookup ∨ lookup = .items "state" := by decide
    refine sql_eq_of_lookups (.drops trivial) fun lookup hr => ?_
    rcases states lookup hr with h | rfl
    · exact ha.lookup h
    · exact hstate
  · intro hstate s t
    have states : ∀ lookup ∈ Kind.sales.lookups ++ Listing.lookups,
        Arguments.Covers lookup ∨ lookup = .list "state" := by decide
    refine sql_eq_of_lookups (.same .sales) fun lookup hr => ?_
    rcases states lookup hr with h | rfl
    · exact ha.lookup h
    · exact hstate

/-- Arguments that try to end the statement. -/
def hostile : Arguments := .ofList
  [
    ("owner", .text "x' OR 1=1 --,$1"), ("seller", .text "'; DROP TABLE listing; --"),
    ("min_price", .text "2.5"), ("data.name') --", .text "'::jsonb")
  ]

/-- Arguments as a page would send them. -/
def harmless : Arguments := .ofList
  [
    ("owner", .list [.text "alice", .text "bob"]), ("seller", .text "carol"),
    ("min_price", .int 3), ("data:number.level", .int 7)
  ]

lemma hostile_alike : hostile.Alike harmless where
  lists := by decide +kernel
  values := by decide +kernel
  flags := by decide +kernel
  nullTemplate := by decide +kernel
  instants := by decide +kernel
  prices := by decide +kernel
  symbol := by decide +kernel
  sort := by decide +kernel
  order := by decide +kernel
  anyTerms := by decide +kernel
  singleTerms := by decide +kernel

/-- Two searches succeed and have the same texts. -/
def SameText (x y : Except Failure Search) : Prop :=
  ∃ s t, x = .ok s ∧ y = .ok t ∧ s.items.sql = t.items.sql ∧ s.count.sql = t.count.sql

theorem sql_hostile_eq_harmless :
    SameText (assets hostile "o'x") (assets harmless "c") ∧
      SameText (collections hostile "o'x") (collections harmless "c") ∧
      SameText (drops hostile "o'x" 5) (drops harmless "c" 7) ∧
      SameText (sales hostile "o'x") (sales harmless "c") := by
  have same := sql_eq_of_alike hostile harmless hostile_alike "o'x" "c" 5 7
  refine ⟨?_, ?_, ?_, ?_⟩
  · obtain ⟨s, hs⟩ := Outcome.exists_of_isOk (x := assets hostile "o'x") (by decide +kernel)
    obtain ⟨t, ht⟩ := Outcome.exists_of_isOk (x := assets harmless "c") (by decide +kernel)
    exact ⟨s, t, hs, ht, same.1 s t hs ht⟩
  · obtain ⟨s, hs⟩ := Outcome.exists_of_isOk (x := collections hostile "o'x") (by decide +kernel)
    obtain ⟨t, ht⟩ := Outcome.exists_of_isOk (x := collections harmless "c") (by decide +kernel)
    exact ⟨s, t, hs, ht, same.2.1 s t hs ht⟩
  · obtain ⟨s, hs⟩ := Outcome.exists_of_isOk (x := drops hostile "o'x" 5) (by decide +kernel)
    obtain ⟨t, ht⟩ := Outcome.exists_of_isOk (x := drops harmless "c" 7) (by decide +kernel)
    exact ⟨s, t, hs, ht, same.2.2.1 rfl s t hs ht⟩
  · obtain ⟨s, hs⟩ := Outcome.exists_of_isOk (x := sales hostile "o'x") (by decide +kernel)
    obtain ⟨t, ht⟩ := Outcome.exists_of_isOk (x := sales harmless "c") (by decide +kernel)
    exact ⟨s, t, hs, ht, same.2.2.2 (by decide +kernel) s t hs ht⟩

end Search

end BoundQuery
