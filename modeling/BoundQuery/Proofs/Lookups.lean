import BoundQuery.Proofs.AlikePlans
import BoundQuery.Proofs.AttributeArguments
import BoundQuery.Proofs.SearchPlans

/-!
# Lookups

What filters and searches read from their arguments. Each lookup takes what it needs: the items of a
list, a value that is bound, a flag that chooses between conditions. Arguments from which the same
lookups are alike make alike plans, so searches on them have the same texts, fail alike or are
equal, according to the likeness. Main statement: `Search.Kind.alike_run`.
-/
namespace BoundQuery

open BoundQuery.Draft BoundQuery.Filter
open Plan (op)

namespace Arguments

/-- The names of arguments that are read as lists of values, the state of a sale apart. -/
def listNames : List String :=
  [
    "owner", "template_id", "schema_name", "collection_name",
    "template_whitelist", "template_blacklist",
    "collection_whitelist", "collection_blacklist",
    "account_whitelist", "account_blacklist",
    "ids", "seller", "buyer"
  ]

end Arguments

/-- What is read from arguments: the items of a list, to be tested or to be the same; a value to be
bound; a flag, to choose by or to be bound; whether a text is a certain word; an instant, a number
or a text to be bound; a word to choose by; the attributes; the number of a page. -/
inductive Lookup where
  | list (name : String)
  | items (name : String)
  | value (name : String)
  | flag (name : String)
  | choice (name : String)
  | literal (name spelling : String)
  | instant (name : String)
  | number (name : String)
  | text (name : String)
  | word (name : String)
  | attributes
  | count (name : String)
  deriving DecidableEq

/-- Terms that are bound together, in place of others or of none. -/
def Filter.Attributes.Together (L : Likeness) (found others : List Term) : Prop :=
  found.isEmpty = others.isEmpty ∧ L.one (objectOf found) (objectOf others)

/-- Terms that lead to the same conditions: one for each from any source, and one for all from each
of the others. -/
structure Filter.Attributes.Terms.Alike (L : Likeness) (t u : Terms) : Prop where
  any : List.Forall₂ (fun term other => L.one (objectOf [term]) (objectOf [other])) t.any u.any
  immutableData : Together L t.immutableData u.immutableData
  mutableData : Together L t.mutableData u.mutableData
  templateData : Together L t.templateData u.templateData

lemma Filter.Attributes.Terms.Alike.refl {L : Likeness} (t : Terms) : t.Alike L t :=
  ⟨List.forall₂_same.mpr fun _ _ => L.one_refl _, ⟨rfl, L.one_refl _⟩, ⟨rfl, L.one_refl _⟩,
    ⟨rfl, L.one_refl _⟩⟩

namespace Lookup

/-- The name that is read, if it is one. -/
def name? : Lookup → Option String
  | .list name | .items name | .value name | .flag name | .choice name | .literal name _
  | .instant name | .number name | .text name | .word name | .count name => some name
  | .attributes => none

/-- A lookup is of one name, or of all names of attributes. -/
def Reads (lookup : Lookup) (name : String) : Prop :=
  match lookup.name? with
  | some fixed => name = fixed
  | none => (AttributeKey.ofName? name).isSome = true

lemma name?_of_reads {lookup : Lookup} {name : String} (h : lookup.Reads name) :
    lookup.name? = some name ∨
      lookup.name? = none ∧ (AttributeKey.ofName? name).isSome = true := by
  unfold Reads at h
  cases hname : lookup.name? with
  | none =>
    rw [hname] at h
    exact .inr ⟨rfl, h⟩
  | some fixed =>
    rw [hname] at h
    exact .inl (congrArg some h.symm)

/-- What is read from two sets of arguments is alike. -/
def Alike (L : Likeness) (a b : Arguments) : Lookup → Prop
  | .list name => L.many (a.list name) (b.list name)
  | .items name => a.list name = b.list name
  | .value name => Option.Rel L.one (a.get? name) (b.get? name)
  | .flag name => a.flag? name = b.flag? name
  | .choice name => L.one (.bool ((a.flag? name).getD false)) (.bool ((b.flag? name).getD false))
  | .literal name spelling => a.text? name = some spelling ↔ b.text? name = some spelling
  | .instant name => Option.Rel (fun m n => L.one (.int m) (.int n)) (a.int? name) (b.int? name)
  | .number name =>
    Option.Rel (fun x y => L.one (.float x) (.float y)) (a.float? name) (b.float? name)
  | .text name => Option.Rel (fun s t => L.one (.text s) (.text t)) (a.text? name) (b.text? name)
  | .word name => a.text? name = b.text? name
  | .attributes =>
    L.Outcomes (Attributes.Terms.Alike L) (Attributes.allTerms a) (Attributes.allTerms b)
  | .count name => L.strict → a.int? name = b.int? name

end Lookup

/-- Where names increase, entries are known by their members. -/
theorem Entries.Sorted.ext {α : Type} {entries others : List (String × α)} (h : Sorted entries)
    (h' : Sorted others) (hm : ∀ e, e ∈ entries ↔ e ∈ others) : entries = others := by
  have nodup {entries : List (String × α)} (h : Sorted entries) : entries.Nodup := by
    apply h.imp
    rintro e _ hlt rfl
    exact String.lt_irrefl _ hlt
  apply ((List.perm_ext_iff_of_nodup (nodup h) (nodup h')).mpr hm).eq_of_pairwise ?_ h h'
  intro e f _ _ hef hfe
  exact absurd (String.lt_trans hef hfe) (String.lt_irrefl _)

/-- Arguments that agree on all names of attributes ask for the same of every source. -/
theorem Filter.Attributes.select_congr {a b : Arguments}
    (h : ∀ name, (AttributeKey.ofName? name).isSome → a.get? name = b.get? name)
    (source : AttributeSource) : select a source = select b source := by
  apply (select_sorted a source).ext (select_sorted b source)
  rintro ⟨name, key, v⟩
  rw [mem_select, mem_select]
  apply and_congr_right
  rintro -
  apply and_congr_right
  intro proper
  apply and_congr_right
  rintro rfl
  rw [h key.name (by rw [AttributeKey.ofName?_eq_some.mpr ⟨rfl, proper⟩]; rfl)]

lemma Filter.Attributes.allTerms_congr {a b : Arguments}
    (h : ∀ name, (AttributeKey.ofName? name).isSome → a.get? name = b.get? name) :
    allTerms a = allTerms b := by
  simp only [allTerms, terms, select_congr h]

variable {L : Likeness} {a b : Arguments}

lemma Likeness.rel_of_eq {α : Type} {S : α → α → Prop} (hS : ∀ x, S x x) {x y : Option α}
    (h : x = y) : Option.Rel S x y := by
  subst h
  cases x with
  | none => exact .none
  | some x => exact .some (hS x)

/-- A lookup sees nothing but the present values of the names it reads. -/
theorem Lookup.alike_of_get? {lookup : Lookup}
    (h : ∀ name, lookup.Reads name → a.get? name = b.get? name) : lookup.Alike L a b := by
  cases lookup with
  | attributes =>
    rw [Alike, Attributes.allTerms_congr h]
    exact .refl Attributes.Terms.Alike.refl _
  | list name =>
    rw [Alike, Arguments.list, Arguments.list, h name rfl]
    exact L.many_refl _
  | items name => rw [Alike, Arguments.list, Arguments.list, h name rfl]
  | value name => exact Likeness.rel_of_eq L.one_refl (h name rfl)
  | flag name => rw [Alike, Arguments.flag?, Arguments.flag?, h name rfl]
  | choice name =>
    rw [Alike, Arguments.flag?, Arguments.flag?, h name rfl]
    exact L.one_refl _
  | literal name spelling => rw [Alike, Arguments.text?, Arguments.text?, h name rfl]
  | instant name =>
    rw [Alike, Arguments.int?, Arguments.int?, h name rfl]
    exact Likeness.rel_of_eq (fun n => L.one_refl (.int n)) rfl
  | number name =>
    rw [Alike, Arguments.float?, Arguments.float?, h name rfl]
    exact Likeness.rel_of_eq (fun x => L.one_refl (.float x)) rfl
  | text name =>
    rw [Alike, Arguments.text?, Arguments.text?, h name rfl]
    exact Likeness.rel_of_eq (fun s => L.one_refl (.text s)) rfl
  | word name => rw [Alike, Arguments.text?, Arguments.text?, h name rfl]
  | count name =>
    intro _
    rw [Arguments.int?, Arguments.int?, h name rfl]

/-! ### Criteria -/

namespace Criterion

lemma alike_ofList (column : String) {vs ws : List Value} (h : L.many vs ws) :
    ((ofList vs).plan column).Alike L ((ofList ws).plan column) := by
  have hlength := (L.interchangeable h).length_eq
  have bound := L.bound h
  rcases vs with _ | ⟨v, _ | ⟨v', rest⟩⟩ <;> rcases ws with _ | ⟨w, _ | ⟨w', rest'⟩⟩
  case nil.nil => exact .skip
  case cons.nil.cons.nil =>
    cases bound with
    | cons hv => exact .compare column .eq hv
  case cons.cons.cons.cons => exact .member column h
  all_goals simp at hlength

lemma alike_bound (column : String) (comparison : Comparison) {v w : Option Value}
    (h : Option.Rel L.one v w) :
    (boundPlan column comparison v).Alike L (boundPlan column comparison w) :=
  Plan.Alike.forSome (fun _ _ hv => .compare column comparison hv) h

lemma alike_range (column : String) {lower upper : String}
    (hl : Option.Rel L.one (a.get? lower) (b.get? lower))
    (hu : Option.Rel L.one (a.get? upper) (b.get? upper)) :
    ((a.range lower upper).plan column).Alike L ((b.range lower upper).plan column) := by
  have low := alike_bound column .ge hl
  have high := alike_bound column .le hu
  unfold Arguments.range
  generalize a.get? lower = v at hl low
  generalize b.get? lower = w at hl low
  generalize a.get? upper = v' at hu high
  generalize b.get? upper = w' at hu high
  cases hl with
  | none =>
    cases hu with
    | none => exact .skip
    | some => exact low.append high
  | some => exact low.append high

end Criterion

/-! ### Filters -/

namespace Filter

namespace Asset

variable {c : AssetColumns}

/-- What the asset filter reads. -/
def lookups : List Lookup :=
  [
    .list "owner", .literal "template_id" "null", .list "template_id", .list "schema_name",
    .list "collection_name", .flag "burned", .list "template_blacklist",
    .list "template_whitelist", .value "min_template_mint", .value "max_template_mint",
    .flag "is_transferable", .flag "is_burnable", .flag "only_duplicate_templates",
    .value "authorized_account"
  ]

variable (h : ∀ lookup ∈ lookups, lookup.Alike L a b)
include h

lemma alike_named {name : String} (hn : .list name ∈ lookups) :
    (named a c name).Alike L (named b c name) := Criterion.alike_ofList _ (h _ hn)

lemma alike_template : (template a c).Alike L (template b c) := by
  have word : a.text? "template_id" = some "null" ↔ b.text? "template_id" = some "null" :=
    h (.literal "template_id" "null") (by decide)
  unfold template
  by_cases null : a.text? "template_id" = some "null"
  · rw [if_pos null, if_pos (word.mp null)]
    exact .nullCheck _ true
  · rw [if_neg null, if_neg (mt word.mpr null)]
    exact alike_named h (by decide)

lemma alike_templateLists : (templateLists a c).Alike L (templateLists b c) := by
  have deny : L.many _ _ := h (.list "template_blacklist") (by decide)
  have allow : L.many _ _ := h (.list "template_whitelist") (by decide)
  exact .append (.unlessEmpty (L.isEmpty_eq deny) (.nonMember _ deny true))
    (.unlessEmpty (L.isEmpty_eq allow) (.member _ allow))

lemma alike_templateFlags : (templateFlags a c).Alike L (templateFlags b c) := by
  have transferable : a.flag? "is_transferable" = b.flag? "is_transferable" :=
    h (.flag "is_transferable") (by decide)
  have burnable : a.flag? "is_burnable" = b.flag? "is_burnable" :=
    h (.flag "is_burnable") (by decide)
  have asked (column : String) (set : Option Bool) :
      (flag c column set).Alike L (flag c column set) := .forSome_same (fun _ => .raw _) set
  unfold templateFlags joined
  rw [transferable, burnable]
  apply Plan.Alike.append
  · split
    · exact .extendBase _
    · exact .skip
  · exact (asked "transferable" _).append (asked "burnable" _)

lemma alike_columns : (columns a c).Alike L (columns b c) := by
  have flag : a.flag? "burned" = b.flag? "burned" := h (.flag "burned") (by decide)
  have burned : (burned a c).Alike L (burned b c) := by
    unfold burned
    rw [flag]
    exact .forSome_same (fun _ => .nullCheck _ _) _
  have mints : (mints a c).Alike L (mints b c) := Criterion.alike_range _
    (h (.value "min_template_mint") (by decide)) (h (.value "max_template_mint") (by decide))
  exact .append (alike_named h (by decide)) <| .append (alike_template h) <|
    .append (alike_named h (by decide)) <| .append (alike_named h (by decide)) <|
    .append burned <| .append (alike_templateLists h) mints

lemma alike_duplicates : (duplicates a c).Alike L (duplicates b c) := by
  have asked : a.flag? "only_duplicate_templates" = b.flag? "only_duplicate_templates" :=
    h (.flag "only_duplicate_templates") (by decide)
  unfold duplicates
  rw [asked]
  split
  · exact .append (.nullCheck _ false) (.hasRow _ (.append (.join _ _ _) (.raw _)))
  · exact .skip

lemma alike_authorized : (authorized a c).Alike L (authorized b c) :=
  .forSome (fun _ _ account => .hasRow _ (.append (.join _ _ _) (.about .authorizes account)))
    (h (.value "authorized_account") (by decide))

theorem alike_plan : (plan a c).Alike L (plan b c) :=
  .append (.append (alike_columns h) (alike_templateFlags h))
    (.append (alike_duplicates h) (alike_authorized h))

end Asset

namespace Attributes

variable {c : AssetColumns} {t u : Terms}

lemma alike_inColumn (column : String) {found others : List Term} (h : Together L found others) :
    (inColumn column found).Alike L (inColumn column others) :=
  .unlessEmpty h.1 (.about (.contains column) h.2)

lemma alike_requirement (h : t.Alike L u) : (requirement c t).Alike L (requirement c u) := by
  have template : (inTemplate c t.templateData).Alike L (inTemplate c u.templateData) :=
    .unlessEmpty h.templateData.1 <|
      .hasRow _ (.append (.join _ _ _) (.about (.contains _) h.templateData.2))
  exact .append (alike_inColumn _ h.immutableData) <| .append (alike_inColumn _ h.mutableData) <|
    .append template (.forEach (fun _ _ ht => .anywhere c ht) h.any)

theorem alike_plan (h : Lookup.attributes.Alike L a b) : (plan c a).Alike L (plan c b) :=
  .forRead (fun _ _ ht => alike_requirement ht) h

end Attributes

namespace Lists

/-- What the list filter reads. -/
def lookups : List Lookup :=
  [
    .list "collection_blacklist", .list "collection_whitelist", .list "account_blacklist",
    .list "account_whitelist"
  ]

variable (h : ∀ lookup ∈ lookups, lookup.Alike L a b)
include h

lemma alike_onCollection (column : String) :
    (onCollection a column).Alike L (onCollection b column) := by
  have deny : L.many _ _ := h (.list "collection_blacklist") (by decide)
  have allow : L.many _ _ := h (.list "collection_whitelist") (by decide)
  exact .append (.unlessEmpty (L.isEmpty_eq deny) (.nonMember _ deny false))
    (.unlessEmpty (L.isEmpty_eq allow) (.member _ allow))

lemma alike_onAccounts (columns : List String) :
    (onAccounts a columns).Alike L (onAccounts b columns) := by
  have deny : L.many _ _ := h (.list "account_blacklist") (by decide)
  have allow : L.many _ _ := h (.list "account_whitelist") (by decide)
  have each := Plan.Alike.forEach_same (fun column => .nonMember column deny true) columns
  exact .append (.unlessEmpty (L.isEmpty_eq deny) each)
    (.unlessEmpty (L.isEmpty_eq allow) (.anyMember columns allow))

theorem alike_plan (c : ListColumns) : (plan a c).Alike L (plan b c) :=
  .append (.forSome_same (alike_onCollection h) c.collection) (alike_onAccounts h c.accounts)

end Lists

namespace Window

/-- What the window filter reads. -/
def lookups : List Lookup :=
  [.list "ids", .value "lower_bound", .value "upper_bound", .instant "before", .instant "after"]

variable (h : ∀ lookup ∈ lookups, lookup.Alike L a b)
include h

lemma alike_onTime (column : String) : (onTime a column).Alike L (onTime b column) := by
  have bound {name : String} (hn : .instant name ∈ lookups) (comparison : Comparison) :
      (Criterion.boundPlan column comparison ((a.int? name).map .int)).Alike L
        (Criterion.boundPlan column comparison ((b.int? name).map .int)) := by
    apply Criterion.alike_bound
    have instant : Option.Rel (fun m n => L.one (.int m) (.int n)) (a.int? name) (b.int? name) :=
      h (.instant name) hn
    generalize a.int? name = m at instant
    generalize b.int? name = n at instant
    cases instant with
    | none => exact .none
    | some hmn => exact .some hmn
  exact (bound (by decide) .lt).append (bound (by decide) .gt)

theorem alike_plan (c : WindowColumns) : (plan a c).Alike L (plan b c) := by
  have bound {name : String} (hn : .value name ∈ lookups) (comparison : Comparison) :
      (Criterion.boundPlan c.primary comparison (a.get? name)).Alike L
        (Criterion.boundPlan c.primary comparison (b.get? name)) :=
    Criterion.alike_bound _ comparison (h (.value name) hn)
  exact .append (Criterion.alike_ofList _ (h (.list "ids") (by decide))) <|
    .append (bound (by decide) .ge) <| .append (bound (by decide) .lt) <|
    .forSome_same (alike_onTime h) c.date

end Window

namespace Price

/-- What the price filter reads. -/
def lookups : List Lookup := [.text "symbol", .number "min_price", .number "max_price"]

variable (h : ∀ lookup ∈ lookups, lookup.Alike L a b)
include h

theorem alike_plan (c : PriceColumns) : (plan a c).Alike L (plan b c) := by
  have bound {name : String} (hn : .number name ∈ lookups) (comparison : Comparison) :
      (boundPlan c comparison (a.float? name)).Alike L (boundPlan c comparison (b.float? name)) :=
    .forSome (fun _ _ hx => .about (.scaled c comparison) hx) (h (.number name) hn)
  exact .append (.forSome (fun _ _ hs => .compare c.symbol .eq hs) (h (.text "symbol") (by decide)))
    (.append (bound (by decide) .ge) (bound (by decide) .le))

end Price

namespace DropState

variable {c : DropColumns}

/-- The states of drops are written into the text, so they have to be the same. -/
theorem alike_plan (h : a.list "state" = b.list "state") {now then' : Int64}
    (hn : L.one (.int now) (.int then')) : (plan a c now).Alike L (plan b c then') := by
  have states : requested a = requested b := by rw [requested, requested, h]
  have asked (states : List DropState) : (inAny c now states).Alike L (inAny c then' states) := by
    cases states with
    | nil => exact .skip
    | cons first rest => exact .about _ hn
  unfold plan
  rw [states]
  exact .forRead_same asked _

end DropState

namespace Listing

/-- What an order and a page read. -/
def lookups : List Lookup := [.word "sort", .word "order", .count "page", .count "limit"]

variable (h : ∀ lookup ∈ lookups, lookup.Alike L a b)
include h

lemma alike_plan (listing : Listing) : (plan a listing).Alike L (plan b listing) := by
  have sort : a.text? "sort" = b.text? "sort" := h (.word "sort") (by decide)
  have order : a.text? "order" = b.text? "order" := h (.word "order") (by decide)
  have same : listing.requested a = listing.requested b := by
    rw [requested, requested, sort, order]
  unfold plan
  rw [same]
  exact .forRead_same (fun _ => .order _) _

lemma alike_pagePlan (listing : Listing) : (pagePlan a listing).Alike L (pagePlan b listing) := by
  apply Plan.Alike.paginate
  intro strict
  have page : a.int? "page" = b.int? "page" := h (.count "page") (by decide) strict
  have limit : a.int? "limit" = b.int? "limit" := h (.count "limit") (by decide) strict
  rw [page, limit]
  exact ⟨rfl, rfl⟩

end Listing

end Filter

/-! ### Searches -/

/-- The same text and tag, and values that are alike one by one. -/
structure Statement.Alike (L : Likeness) (s t : Statement) : Prop where
  text : s.text = t.text
  values : List.Forall₂ L.one s.params t.params
  tag : s.tag = t.tag

theorem Statement.Alike.eq {s t : Statement} (h : s.Alike .equal t) : s = t := by
  obtain ⟨_, values, _⟩ := s
  obtain ⟨_, others, _⟩ := t
  have same : values = others := List.forall₂_eq_eq_eq ▸ h.values
  rw [Statement.mk.injEq]
  exact ⟨h.text, same, h.tag⟩

theorem Draft.Alike.eq {d e : Draft} (h : d.Alike .equal e) : d = e := by
  obtain ⟨_, _, _, _, values⟩ := d
  obtain ⟨_, _, _, _, others⟩ := e
  have same : values = others := List.forall₂_eq_eq_eq ▸ h.values
  rw [Draft.mk.injEq]
  exact ⟨h.base, h.conditions, h.groups, h.closing, same⟩

lemma Draft.Alike.statement {d e : Draft} (h : d.Alike L e) : d.statement.Alike L e.statement :=
  ⟨h.text, h.values, rfl⟩

namespace Search

/-- A page and a count that are alike. -/
structure Alike (L : Likeness) (s t : Search) : Prop where
  items : s.items.Alike L t.items
  count : s.count.Alike L t.count

theorem Alike.eq {s t : Search} (h : s.Alike .equal t) : s = t := by
  obtain ⟨_, _⟩ := s
  obtain ⟨_, _⟩ := t
  rw [Search.mk.injEq]
  exact ⟨h.items.eq, h.count.eq⟩

namespace Kind

/-- The same search; drops may be searched for at instants that stand for each other. -/
inductive Alike (L : Likeness) : Kind → Kind → Prop
  | same (kind : Kind) : Alike L kind kind
  | drops {now then' : Int64} (h : L.one (.int now) (.int then')) :
    Alike L (.drops now) (.drops then')

/-- What a search reads before its order and its page. -/
def lookups : Kind → List Lookup
  | .assets => Asset.lookups ++ (.attributes :: (Lists.lookups ++ Window.lookups))
  | .collections => Asset.lookups ++ Lists.lookups
  | .drops _ =>
    .list "collection_name" :: .choice "hidden" :: .items "state" ::
      (Lists.lookups ++ Window.lookups)
  | .sales =>
    .list "state" :: .list "seller" :: .list "buyer" :: (Price.lookups ++ (Asset.lookups ++
      (.attributes :: (Lists.lookups ++ Window.lookups))))

end Kind

end Search

/-- Everything that is read by some search. -/
def Lookup.all : List Lookup :=
  Search.Kind.sales.lookups ++ ((Search.Kind.drops 0).lookups ++ Listing.lookups)

namespace Search

lemma Kind.mem_all_lookups {kind : Kind} {lookup : Lookup}
    (h : lookup ∈ kind.lookups ++ Listing.lookups) : lookup ∈ Lookup.all := by
  have assets : ∀ lookup ∈ Kind.assets.lookups, lookup ∈ Lookup.all := by decide
  have collections : ∀ lookup ∈ Kind.collections.lookups, lookup ∈ Lookup.all := by decide
  rcases List.mem_append.mp h with h | h
  · cases kind with
    | assets => exact assets lookup h
    | collections => exact collections lookup h
    | drops now => exact List.mem_append_right _ (List.mem_append_left _ h)
    | sales => exact List.mem_append_left _ h
  · exact List.mem_append_right _ (List.mem_append_right _ h)

lemma alike_described (ha : ∀ lookup ∈ Asset.lookups, lookup.Alike L a b)
    (hd : Lookup.attributes.Alike L a b) : (described a).Alike L (described b) :=
  (Asset.alike_plan ha).append (Attributes.alike_plan hd)

lemma alike_listed (hl : ∀ lookup ∈ Lists.lookups, lookup.Alike L a b)
    (hw : ∀ lookup ∈ Window.lookups, lookup.Alike L a b) (c : ListColumns) (w : WindowColumns) :
    (Lists.plan a c ++ Window.plan a w).Alike L (Lists.plan b c ++ Window.plan b w) :=
  (Lists.alike_plan hl c).append (Window.alike_plan hw w)

variable {contract other : String}

lemma alike_dropPlan (h : ∀ lookup ∈ (Kind.drops 0).lookups, lookup.Alike L a b)
    (hc : L.one (.text contract) (.text other)) {now then' : Int64}
    (hn : L.one (.int now) (.int then')) :
    ((Kind.drops now).plan a contract).Alike L ((Kind.drops then').plan b other) := by
  simp only [Kind.lookups, List.forall_mem_cons, List.forall_mem_append] at h
  obtain ⟨collection, hidden, state, lists, window⟩ := h
  have head : (dropHead a contract).Alike L (dropHead b other) :=
    .append (.compare _ _ hc) (.append (Criterion.alike_ofList _ collection) (.compare _ _ hidden))
  exact head.append ((DropState.alike_plan state hn).append (alike_listed lists window _ _))

lemma alike_salePlan (h : ∀ lookup ∈ Kind.sales.lookups, lookup.Alike L a b)
    (hc : L.one (.text contract) (.text other)) :
    (Kind.sales.plan a contract).Alike L (Kind.sales.plan b other) := by
  simp only [Kind.lookups, List.forall_mem_cons, List.forall_mem_append] at h
  obtain ⟨state, seller, buyer, price, asset, attributes, lists, window⟩ := h
  have head : (saleHead a contract).Alike L (saleHead b other) :=
    .append (.compare _ _ hc) <| .append (Criterion.alike_ofList _ state) <|
      .append (Criterion.alike_ofList _ seller) <|
      .append (Criterion.alike_ofList _ buyer) (Price.alike_plan price {})
  have offer : (offered a).Alike L (offered b) :=
    .rowIfAsked _ (.append (.join _ _ _) (.raw _)) (alike_described asset attributes)
  exact head.append (offer.append (alike_listed lists window _ _))

theorem Kind.alike_plan {kind kind' : Kind} (hk : kind.Alike L kind')
    (h : ∀ lookup ∈ kind.lookups, lookup.Alike L a b)
    (hc : L.one (.text contract) (.text other)) :
    (kind.plan a contract).Alike L (kind'.plan b other) := by
  cases hk with
  | drops hn => exact alike_dropPlan h hc hn
  | same kind =>
    cases kind with
    | assets =>
      simp only [lookups, List.forall_mem_cons, List.forall_mem_append] at h
      obtain ⟨asset, attributes, lists, window⟩ := h
      exact .append (.compare _ _ hc) <| .append (Asset.alike_plan asset) <|
        .append (Attributes.alike_plan attributes) (alike_listed lists window _ _)
    | collections =>
      simp only [lookups, List.forall_mem_append] at h
      obtain ⟨asset, lists⟩ := h
      exact .append (.compare _ _ hc) <| .append (Asset.alike_plan asset) <|
        .append (Lists.alike_plan lists _) (.groups _)
    | drops now => exact alike_dropPlan h hc (L.one_refl _)
    | sales => exact alike_salePlan h hc

/-! ### Outcomes -/

/-- Alike drafts are finished alike. -/
lemma alike_finish (h : ∀ lookup ∈ Listing.lookups, lookup.Alike L a b) {d e : Draft}
    (hd : d.Alike L e) (listing : Listing) :
    L.Outcomes (Search.Alike L) (finish a listing d) (finish b listing e) := by
  have finished := (Listing.alike_plan h listing).append (Listing.alike_pagePlan h listing)
  have counted : d.statement.toCount.Alike L e.statement.toCount := by
    refine ⟨?_, hd.values, rfl⟩
    rw [Statement.toCount, Statement.toCount, Draft.statement, Draft.statement, hd.text]
  rw [finish_eq, finish_eq]
  exact (finished hd).bind fun _ _ _ _ paged => .ok ⟨paged.statement, counted⟩

theorem Kind.alike_draft {kind kind' : Kind} (hk : kind.Alike L kind')
    (h : ∀ lookup ∈ kind.lookups, lookup.Alike L a b)
    (hc : L.one (.text contract) (.text other)) :
    L.Outcomes (Draft.Alike L) (kind.draft a contract) (kind'.draft b other) := by
  have base : kind.base = kind'.base := by cases hk <;> rfl
  have drafts := kind.alike_plan hk h hc (Alike.refl (ofBase kind.base))
  rwa [run_plan, base, run_plan] at drafts

/-- Searches on arguments that are read alike have alike outcomes. -/
theorem Kind.alike_run {kind kind' : Kind} (hk : kind.Alike L kind')
    (h : ∀ lookup ∈ kind.lookups ++ Listing.lookups, lookup.Alike L a b)
    (hc : L.one (.text contract) (.text other)) :
    L.Outcomes (Search.Alike L) (kind.run a contract) (kind'.run b other) := by
  obtain ⟨read, finished⟩ := List.forall_mem_append.mp h
  have listing : kind.listing = kind'.listing := by cases hk <;> rfl
  rw [run_eq, run_eq, ← listing]
  exact (kind.alike_draft hk read hc).bind fun _ _ _ _ hd => alike_finish finished hd kind.listing

/-- Drafts of searches on arguments from which the same is read are equal. -/
theorem Kind.draft_congr {kind : Kind} (h : ∀ lookup ∈ kind.lookups, lookup.Alike .equal a b)
    (contract : String) : kind.draft a contract = kind.draft b contract :=
  ((alike_draft (.same kind) h rfl).imp fun _ _ h => h.eq).eq trivial

/-- Searches on arguments from which the same is read are equal. -/
theorem Kind.run_congr {kind : Kind}
    (h : ∀ lookup ∈ kind.lookups ++ Listing.lookups, lookup.Alike .equal a b)
    (contract : String) : kind.run a contract = kind.run b contract :=
  ((alike_run (.same kind) h rfl).imp fun _ _ h => h.eq).eq trivial

end Search

end BoundQuery
