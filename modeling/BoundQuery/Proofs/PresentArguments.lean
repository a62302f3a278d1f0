import BoundQuery.Proofs.Lookups

/-!
# What searches read

A search reads its arguments by their names and takes a value only if it is present. Arguments that
agree on the names it reads have the same outcome, so a null, an empty text and no argument at all
are one thing to a search, and an argument it does not read is nothing to it. Main statement:
`Search.Kind.run_reads_present`.
-/
namespace BoundQuery

open BoundQuery.Draft BoundQuery.Filter

/-! ### Names -/

namespace Filter

/-- The names that the asset filter reads. -/
def assetNames : List String :=
  [
    "owner", "template_id", "schema_name", "collection_name", "burned", "template_blacklist",
    "template_whitelist", "min_template_mint", "max_template_mint", "is_transferable",
    "is_burnable", "only_duplicate_templates", "authorized_account"
  ]

/-- The names of allow and deny lists of collections and accounts. -/
def greyNames : List String :=
  ["collection_blacklist", "collection_whitelist", "account_blacklist", "account_whitelist"]

/-- The names of numbers, bounds and times. -/
def windowNames : List String := ["ids", "lower_bound", "upper_bound", "before", "after"]

def priceNames : List String := ["symbol", "min_price", "max_price"]

/-- The names that every listing reads to be ordered and cut. -/
def listingNames : List String := ["sort", "order", "page", "limit"]

end Filter

namespace Search

/-- The names of the arguments that a search for drops reads. -/
def dropNames : List String :=
  [
    "collection_name", "hidden", "state", "collection_blacklist", "collection_whitelist",
    "account_blacklist", "account_whitelist", "ids", "lower_bound", "upper_bound", "before",
    "after", "sort", "order", "page", "limit"
  ]

namespace Kind

/-- The fixed names that a search reads. -/
def names : Kind → List String
  | .assets => assetNames ++ greyNames ++ windowNames ++ listingNames
  | .collections => assetNames ++ greyNames ++ listingNames
  | .drops _ => dropNames
  | .sales =>
    ["state", "seller", "buyer"] ++ priceNames ++ assetNames ++ greyNames ++ windowNames
      ++ listingNames

/-- Whether a search reads attributes too. -/
def describes : Kind → Bool
  | .assets => true
  | .collections => false
  | .drops _ => false
  | .sales => true

/-- The names a search reads: the fixed ones, and those of attributes, which are a known source,
perhaps a colon and a type without points, a point and a member that is not empty. -/
def Reads (kind : Kind) (name : String) : Prop :=
  name ∈ kind.names ∨ kind.describes = true ∧ ∃ key : AttributeKey, key.Proper ∧ name = key.name

/-- A search reads the names of its lookups. -/
lemma reads_of_mem {kind : Kind} {lookup : Lookup}
    (hr : lookup ∈ kind.lookups ++ Listing.lookups) {name : String} (hn : lookup.Reads name) :
    kind.Reads name := by
  have named : ∀ lookup ∈ kind.lookups ++ Listing.lookups,
      ∀ fixed ∈ lookup.name?, fixed ∈ kind.names := by
    cases kind with
    | drops now =>
      have drops : ∀ lookup ∈ (Kind.drops 0).lookups ++ Listing.lookups,
          ∀ fixed ∈ lookup.name?, fixed ∈ dropNames := by decide
      exact drops
    | assets | collections | sales => decide
  have described : ∀ lookup ∈ kind.lookups ++ Listing.lookups,
      lookup.name? = none → kind.describes = true := by
    cases kind with
    | drops now =>
      have drops : ∀ lookup ∈ (Kind.drops 0).lookups ++ Listing.lookups,
          lookup.name? ≠ none := by decide
      exact fun lookup hr none => absurd none (drops lookup hr)
    | assets | collections | sales => decide
  rcases Lookup.name?_of_reads hn with hname | ⟨hname, dotted⟩
  · exact .inl (named lookup hr name hname)
  · obtain ⟨key, hkey⟩ := Option.isSome_iff_exists.mp dotted
    obtain ⟨rfl, proper⟩ := AttributeKey.ofName?_eq_some.mp hkey
    exact .inr ⟨described lookup hr hname, key, proper, rfl⟩

theorem run_congr_of_reads {kind : Kind} {a b : Arguments}
    (h : ∀ name, kind.Reads name → a.get? name = b.get? name) (contract : String) :
    kind.run a contract = kind.run b contract :=
  run_congr (fun _ hr => Lookup.alike_of_get? fun name hn => h name (reads_of_mem hr hn)) contract

/-- A name that is neither fixed nor of an attribute is read by no search. -/
lemma not_reads {name : String} (fixed : name ∉ dropNames ++ Kind.sales.names)
    (plain : AttributeKey.ofName? name = none) (kind : Kind) : ¬ kind.Reads name := by
  rintro (hn | ⟨-, key, proper, rfl⟩)
  · apply fixed
    cases kind with
    | drops now => exact List.mem_append_left _ hn
    | assets | collections | sales => simp_all [names]
  · rw [AttributeKey.ofName?_eq_some.mpr ⟨rfl, proper⟩] at plain
    cases plain

/-- A search depends on the present values of the names it reads and on nothing else. So an
argument that is missing may as well be null or an empty text, and an argument of a name that is
not read, such as one that only starts like the name of an attribute, neither changes a statement
nor fails. -/
theorem run_reads_present (kind : Kind) (contract : String) :
    (∀ a b : Arguments, (∀ name, kind.Reads name → a.get? name = b.get? name) →
        kind.run a contract = kind.run b contract) ∧
      (∀ (args : Arguments) (name : String), args.values.lookup? name = none →
        kind.run (args.insert name .null) contract = kind.run args contract ∧
          kind.run (args.insert name (.text "")) contract = kind.run args contract) ∧
      (∀ (args : Arguments) (name : String) (v : Value), ¬ kind.Reads name →
        kind.run (args.insert name v) contract = kind.run args contract) ∧
      ¬ kind.Reads "data_version" ∧ ¬ kind.Reads "database.x" := by
  refine ⟨fun a b h => run_congr_of_reads h contract, ?_, ?_, ?_, ?_⟩
  · intro args name missing
    have vacant {v : Value} (hv : Arguments.present? v = none) :
        kind.run (args.insert name v) contract = kind.run args contract := by
      apply run_congr_of_reads
      intro asked _
      rw [Arguments.get?_insert, hv]
      split
      next same => rw [same, Arguments.get?, missing, Option.bind_none]
      next => rfl
    exact ⟨vacant rfl, vacant rfl⟩
  · intro args name v unread
    apply run_congr_of_reads
    intro asked hasked
    rw [Arguments.get?_insert, if_neg]
    rintro rfl
    exact unread hasked
  · exact not_reads (by decide) (by decide +kernel) kind
  · exact not_reads (by decide) (by decide +kernel) kind

/-- An owner without a name, no name of an attribute, and an argument that nothing reads. -/
def blank : Arguments :=
  ((Arguments.empty.insert "owner" (.text "")).insert "data.name" .null).insert "database.x"
    (.int 5)

/-- Sales are searched for as without arguments, also where a missing state is null. -/
theorem run_reads_present_blank :
    ((∀ name, Kind.sales.Reads name → blank.get? name = Arguments.empty.get? name) ∧
        blank.values.lookup? "state" = none ∧ ¬ Kind.sales.Reads "database.x") ∧
      Kind.sales.run blank "atomicmarket" = Kind.sales.run .empty "atomicmarket" ∧
      Kind.sales.run (blank.insert "state" .null) "atomicmarket" =
        Kind.sales.run blank "atomicmarket" ∧
      Kind.sales.run (blank.insert "database.x" (.text "'")) "atomicmarket" =
        Kind.sales.run blank "atomicmarket" := by
  obtain ⟨agree, vacant, unread, -, silent⟩ := run_reads_present .sales "atomicmarket"
  have same : ∀ name, Kind.sales.Reads name → blank.get? name = Arguments.empty.get? name := by
    intro name hname
    have other : name ≠ "database.x" := fun h => silent (h ▸ hname)
    simp only [blank, Arguments.get?_insert, if_neg other]
    split
    · rfl
    split
    · rfl
    · rfl
  have missing : blank.values.lookup? "state" = none := by decide +kernel
  exact ⟨⟨same, missing, silent⟩, agree _ _ same, (vacant blank "state" missing).1,
    unread blank "database.x" (.text "'") silent⟩

end Kind

end Search

end BoundQuery
