import BoundQuery.Proofs.Conjuncts
import BoundQuery.Proofs.Demands
import BoundQuery.Proofs.Mentions
import BoundQuery.Proofs.Paging
import Mathlib.Data.List.Sort

/-!
# Narrowing a search

One more argument adds conditions and takes none away. Every part of a search reads one argument
and adds nothing without it, or puts the parts of two together; only the attributes asked of one
source share a condition, and only the visibility of drops is asked for in any case. The conditions
are read off the statement, each with the values in the place of its placeholders. Main statement:
`Search.Kind.run_narrowed`.
-/
namespace BoundQuery

open BoundQuery.Draft BoundQuery.Filter

/-- Entries with increasing names that are all among others stand there in the same order. -/
theorem Entries.Sorted.sublist {α : Type} {entries others : List (String × α)}
    (h : Sorted entries) (h' : Sorted others) (hm : entries ⊆ others) :
    entries.Sublist others := by
  have antisymm : Std.Antisymm fun e f : String × α => e.1 < f.1 :=
    ⟨fun _ _ hef hfe => absurd (String.lt_trans hef hfe) (String.lt_irrefl _)⟩
  have nodup : entries.Nodup := by
    apply h.imp
    rintro e _ hlt rfl
    exact String.lt_irrefl _ hlt
  exact List.sublist_of_subperm_of_pairwise (List.subperm_of_subset nodup hm) h h'

/-- Where some inputs stand among others, what is computed from them stands among what is computed
from the others. -/
theorem Outcome.sublist_of_mapM {ε α β : Type} {f : α → Except ε β} {xs xs' : List α}
    {ys ys' : List β} (h : xs.Sublist xs') (hy : xs.mapM f = .ok ys) (hy' : xs'.mapM f = .ok ys') :
    ys.Sublist ys' := by
  rw [mapM_eq_ok] at hy hy'
  induction h generalizing ys ys' with
  | slnil =>
    cases hy
    exact List.nil_sublist _
  | cons _ _ ih =>
    obtain _ | ⟨-, rest'⟩ := hy'
    exact (ih hy rest').cons _
  | cons_cons _ _ ih =>
    obtain _ | ⟨first, rest⟩ := hy
    obtain _ | ⟨first', rest'⟩ := hy'
    rw [Except.ok.inj (first.symm.trans first')]
    exact (ih rest rest').cons_cons _

/-- Whatever is present in some arguments is present in the others, with the same value. -/
def Arguments.Extends (a b : Arguments) : Prop :=
  ∀ name v, a.get? name = some v → b.get? name = some v

theorem Arguments.extends_insert {args : Arguments} {name : String} (v : Value)
    (absent : args.get? name = none) : args.Extends (args.insert name v) := by
  intro other w present
  have apart : other ≠ name := by
    rintro rfl
    rw [absent] at present
    cases present
  rw [get?_insert, if_neg apart, present]

namespace Arguments.Extends

variable {a b : Arguments} (ext : a.Extends b)
include ext

/-- An argument is absent, or it is read alike. -/
lemma get?_eq (name : String) : a.get? name = none ∨ b.get? name = a.get? name := by
  cases present : a.get? name with
  | none => exact .inl rfl
  | some v => exact .inr (ext name v present)

lemma list_eq (name : String) : a.list name = [] ∨ b.list name = a.list name := by
  rcases ext.get?_eq name with absent | same
  · exact .inl (by rw [list, absent])
  · exact .inr (by rw [list, list, same])

lemma flag?_eq (name : String) : a.flag? name = none ∨ b.flag? name = a.flag? name := by
  rcases ext.get?_eq name with absent | same
  · exact .inl (by rw [flag?, absent]; rfl)
  · exact .inr (by rw [flag?, flag?, same])

lemma int?_eq (name : String) : a.int? name = none ∨ b.int? name = a.int? name := by
  rcases ext.get?_eq name with absent | same
  · exact .inl (by rw [int?, absent]; rfl)
  · exact .inr (by rw [int?, int?, same])

end Arguments.Extends

/-! ### Plans -/

namespace Plan

/-- The conditions that one plan adds are among those of the other, in their order. -/
def Within (p q : Plan) : Prop := p.contribution.conditions.Sublist q.contribution.conditions

variable {p p' q q' : Plan}

theorem Within.refl (p : Plan) : p.Within p := List.Sublist.refl _

theorem Within.of_eq (h : q = p) : p.Within q := h ▸ refl p

/-- A plan that adds no condition is within all others. -/
theorem Within.of_silent (h : p.contribution.conditions = []) (q : Plan) : p.Within q := by
  rw [Within, h]
  exact List.nil_sublist _

theorem Within.append (h : p.Within q) (h' : p'.Within q') : (p ++ p').Within (q ++ q') :=
  List.Sublist.append h h'

/-- What a part reads is missing, and the part adds nothing, or it is read alike. -/
theorem within_of_reading {α : Type} {x y unread : α} (h : x = unread ∨ y = x) (part : α → Plan)
    (silent : (part unread).contribution.conditions = []) : (part x).Within (part y) := by
  rcases h with rfl | rfl
  · exact .of_silent silent _
  · exact .refl _

end Plan

open Plan (Within within_of_reading unlessEmpty op)

/-! ### Criteria -/

namespace Criterion

variable {a b : Arguments} (ext : a.Extends b)
include ext

lemma within_criterion (name column : String) :
    ((a.criterion name).plan column).Within ((b.criterion name).plan column) :=
  within_of_reading (ext.list_eq name) (fun values => (ofList values).plan column) rfl

lemma within_bound (name column : String) (comparison : Comparison) :
    (boundPlan column comparison (a.get? name)).Within
      (boundPlan column comparison (b.get? name)) :=
  within_of_reading (ext.get?_eq name) (boundPlan column comparison) rfl

lemma within_instant (name column : String) (comparison : Comparison) :
    (boundPlan column comparison ((a.int? name).map .int)).Within
      (boundPlan column comparison ((b.int? name).map .int)) :=
  within_of_reading (ext.int?_eq name)
    (fun instant => boundPlan column comparison (instant.map .int)) rfl

omit ext in
/-- A range adds one condition for each of its bounds. -/
lemma conditions_range (args : Arguments) (lower upper column : String) :
    ((args.range lower upper).plan column).contribution.conditions =
      (boundPlan column .ge (args.get? lower) ++
        boundPlan column .le (args.get? upper)).contribution.conditions := by
  unfold Arguments.range
  cases args.get? lower with
  | none => cases args.get? upper <;> rfl
  | some v => rfl

lemma within_range (lower upper column : String) :
    ((a.range lower upper).plan column).Within ((b.range lower upper).plan column) := by
  rw [Within, conditions_range, conditions_range]
  exact (within_bound ext lower column .ge).append (within_bound ext upper column .le)

end Criterion

namespace Filter

/-! ### Assets -/

namespace Asset

variable {a b : Arguments} (ext : a.Extends b) (c : AssetColumns)
include ext

lemma within_named (name : String) : (named a c name).Within (named b c name) :=
  Criterion.within_criterion ext name _

lemma within_template : (template a c).Within (template b c) := by
  rcases ext.get?_eq "template_id" with absent | same
  · have unnamed : template a c = named a c "template_id" := by
      rw [template, Arguments.text?, absent]
      exact if_neg (by decide)
    have silent : named a c "template_id" = .skip := by
      rw [named, Arguments.criterion, Arguments.list, absent]
      rfl
    rw [unnamed, silent]
    exact .of_silent rfl _
  · apply Within.of_eq
    rw [template, template, named, named, Arguments.criterion, Arguments.criterion,
      Arguments.list, Arguments.list, Arguments.text?, Arguments.text?, same]

lemma within_burned : (burned a c).Within (burned b c) :=
  within_of_reading (ext.flag?_eq "burned")
    (Plan.forSome fun burned => op (.nullCheck (c.asset ++ ".owner") burned)) rfl

lemma within_templateLists : (templateLists a c).Within (templateLists b c) :=
  (within_of_reading (ext.list_eq "template_blacklist") (unlessEmpty fun deny =>
      op (.nonMember (c.asset ++ ".template_id") (.list deny) true)) rfl).append
    (within_of_reading (ext.list_eq "template_whitelist") (unlessEmpty fun allow =>
      op (.member (c.asset ++ ".template_id") (.list allow))) rfl)

/-- The base may come to join the templates; that is no condition. -/
lemma within_templateFlags : (templateFlags a c).Within (templateFlags b c) := by
  have based : (joined a c).Within (joined b c) := by
    apply Within.of_silent
    unfold joined
    split <;> rfl
  exact based.append
    ((within_of_reading (ext.flag?_eq "is_transferable") (flag c "transferable") rfl).append
      (within_of_reading (ext.flag?_eq "is_burnable") (flag c "burnable") rfl))

lemma within_columns : (columns a c).Within (columns b c) :=
  (within_named ext c "owner").append <|
    (within_template ext c).append <|
    (within_named ext c "schema_name").append <|
    (within_named ext c "collection_name").append <|
    (within_burned ext c).append <|
    (within_templateLists ext c).append (Criterion.within_range ext _ _ _)

lemma within_duplicates : (duplicates a c).Within (duplicates b c) := by
  rcases ext.flag?_eq "only_duplicate_templates" with absent | same
  · apply Within.of_silent
    rw [duplicates, absent, if_neg (by decide)]
    rfl
  · exact .of_eq (by rw [duplicates, duplicates, same])

lemma within_authorized : (authorized a c).Within (authorized b c) := by
  rcases ext.get?_eq "authorized_account" with absent | same
  · exact .of_silent (by rw [authorized, absent]; rfl) _
  · exact .of_eq (by rw [authorized, authorized, same])

theorem within_plan : (plan a c).Within (plan b c) :=
  ((within_columns ext c).append (within_templateFlags ext c)).append
    ((within_duplicates ext c).append (within_authorized ext c))

end Asset

variable {a b : Arguments} (ext : a.Extends b)

/-! ### Attributes -/

namespace Attributes

/-- Arguments for the data of one source are read alike; others may be added. -/
def KeepsSources (a b : Arguments) : Prop :=
  ∀ key : AttributeKey, key.Proper → key.source ≠ .any → b.get? key.name = a.get? key.name

lemma select_eq (kept : KeepsSources a b) {source : AttributeSource} (hs : source ≠ .any) :
    select a source = select b source := by
  apply (select_sorted a source).ext (select_sorted b source)
  rintro ⟨name, key, v⟩
  rw [mem_select, mem_select]
  apply and_congr_right
  rintro rfl
  apply and_congr_right
  intro proper
  apply and_congr_right
  rintro rfl
  rw [kept key proper hs]

include ext in
lemma select_sublist (source : AttributeSource) :
    (select a source).Sublist (select b source) := by
  apply (select_sorted a source).sublist (select_sorted b source)
  rintro ⟨name, key, v⟩ asked
  obtain ⟨hsource, proper, hname, present⟩ := mem_select.mp asked
  exact mem_select.mpr ⟨hsource, proper, hname, ext name v present⟩

include ext in
/-- Each argument for any of the sources has a demand of its own, and all other demands stay. -/
lemma demandsOf_sublist (kept : KeepsSources a b) {t t' : Terms} (ht : allTerms a = .ok t)
    (ht' : allTerms b = .ok t') : (demandsOf t).Sublist (demandsOf t') := by
  have same : ∀ source, source ≠ .any → t.of source = t'.of source := by
    intro source hs
    have read := terms_of ht source
    rw [terms, select_eq kept hs] at read
    exact Except.ok.inj (read.symm.trans (terms_of ht' source))
  have immutable : t.immutableData = t'.immutableData := same .immutableData (by decide)
  have mutable' : t.mutableData = t'.mutableData := same .mutableData (by decide)
  have template : t.templateData = t'.templateData := same .templateData (by decide)
  have more : t.any.Sublist t'.any :=
    Outcome.sublist_of_mapM (select_sublist ext .any) (terms_of ht .any) (terms_of ht' .any)
  rw [demandsOf, demandsOf, immutable, mutable', template]
  exact (List.Sublist.refl _).append <| (List.Sublist.refl _).append <|
    (List.Sublist.refl _).append (more.map _)

include ext in
theorem within_plan (kept : KeepsSources a b) (read : ∃ t, allTerms b = .ok t)
    (c : AssetColumns) : (plan c a).Within (plan c b) := by
  obtain ⟨t', ht'⟩ := read
  cases ht : allTerms a with
  | error e => exact .of_silent (by rw [plan, ht]; rfl) _
  | ok t =>
    have more := (demandsOf_sublist ext kept ht ht').map (Demand.shown c)
    rw [plan, plan, ht, ht', Within]
    exact contribution_requirement (c := c) t ▸ contribution_requirement (c := c) t' ▸ more

end Attributes

/-! ### Lists, windows and states -/

include ext in
lemma Lists.within_plan (c : ListColumns) : (plan a c).Within (plan b c) := by
  have accounts : (onAccounts a c.accounts).Within (onAccounts b c.accounts) :=
    (within_of_reading (ext.list_eq "account_blacklist") (unlessEmpty fun deny =>
        Plan.forEach (fun column => op (.nonMember column (.list deny) true)) c.accounts)
      rfl).append
      (within_of_reading (ext.list_eq "account_whitelist") (unlessEmpty fun allow =>
        .step (.anyMember allow c.accounts)) rfl)
  have collections (column : String) : (onCollection a column).Within (onCollection b column) :=
    (within_of_reading (ext.list_eq "collection_blacklist") (unlessEmpty fun deny =>
        op (.nonMember column (.list deny) false)) rfl).append
      (within_of_reading (ext.list_eq "collection_whitelist") (unlessEmpty fun allow =>
        op (.member column (.list allow))) rfl)
  unfold plan
  cases c.collection with
  | none => exact (Within.refl _).append accounts
  | some column => exact (collections column).append accounts

include ext in
lemma Window.within_plan (c : WindowColumns) : (plan a c).Within (plan b c) := by
  have time : (Plan.forSome (onTime a) c.date).Within (Plan.forSome (onTime b) c.date) := by
    cases c.date with
    | none => exact .refl _
    | some column =>
      exact (Criterion.within_instant ext "before" column .lt).append
        (Criterion.within_instant ext "after" column .gt)
  exact (Criterion.within_criterion ext "ids" c.primary).append <|
    (Criterion.within_bound ext "lower_bound" c.primary .ge).append <|
    (Criterion.within_bound ext "upper_bound" c.primary .lt).append time

include ext in
lemma DropState.within_plan (c : DropColumns) (now : Int64) :
    (plan a c now).Within (plan b c now) := by
  rcases ext.list_eq "state" with absent | same
  · exact .of_silent (by rw [plan, requested, absent]; rfl) _
  · exact .of_eq (by rw [plan, plan, requested, requested, same])

end Filter

/-! ### Conditions of statements -/

/-- The conditions that the text of a statement falls apart into, each with the values that its
placeholders stand for in their place. -/
def Statement.filledConjuncts (s : Statement) : List FilledText :=
  (Nesting.conjuncts s.sql.toList).map fun text =>
    (SqlToken.scan text).flatMap (SqlToken.filled s.params)

/-- The conditions of a draft show what it gained, whatever values are bound later. -/
lemma Draft.Gains.filled_conditions {k : Contribution} {base : String} {d : Draft}
    (h : Gains k (ofBase base) d) (more : List Value) :
    d.conditions.map (fun c => c.text.filled (d.params ++ more)) = k.conditions := by
  obtain ⟨conditions, gained, shown⟩ := h.conditions
  have all : d.conditions = conditions := gained
  have equal : List.Forall₂ Eq (conditions.map fun c => c.text.filled (d.params ++ more))
      k.conditions :=
    List.forall₂_map_left_iff.mpr (shown.imp fun _ _ shows => (shows.extend more).filled)
  rwa [List.forall₂_eq_eq_eq, ← all] at equal

/-- The conditions read off a text that falls apart into those of a draft. -/
lemma Statement.Splits.filled {k : Contribution} {base : String} {sql : List Char} {d : Draft}
    (h : Statement.Splits sql d.conditions) (hd : d.Tidy) (hgains : Gains k (ofBase base) d)
    (more : List Value) :
    ((Nesting.conjuncts sql).map fun text =>
      (SqlToken.scan text).flatMap (SqlToken.filled (d.params ++ more))) = k.conditions := by
  rw [h.conjuncts, List.map_map, ← hgains.filled_conditions more]
  apply List.map_congr_left
  intro c hc
  exact (hd.conditions c hc).filled_chars _

namespace Search.Kind

variable {kind : Kind} {a b args : Arguments} {contract name : String} {s : Search}

/-- The conditions of a search, in its page and in the query that it counts, are those of its
parts. -/
theorem filledConjuncts_of_run (h : kind.run args contract = .ok s) :
    s.items.filledConjuncts = (kind.parts args contract).conditions ∧
      ∀ query, s.count.Counts query →
        query.filledConjuncts = (kind.parts args contract).conditions := by
  obtain ⟨d, hd, shows⟩ := kind.showsConditions_of_run h
  obtain ⟨e, he, hs⟩ := run_eq_ok.mp h
  obtain rfl : d = e := Except.ok.inj (hd.symm.trans he)
  have gained := gains_draft hd
  have tidy := tidy_draft hd
  obtain ⟨-, -, items, count⟩ := shows_of_finish kind.listing_plain tidy gained hs
  have params : d.params = (kind.parts args contract).values := gained.params
  rw [← params] at items count
  constructor
  · rw [Statement.filledConjuncts, items]
    exact shows.items.filled tidy gained _
  · intro query counts
    obtain ⟨counted, text, splits⟩ := shows.count
    have same : query.sql.toList = counted := by
      rw [counts.sql, String.toList_append, String.toList_append] at text
      exact List.append_cancel_left (List.append_cancel_right text)
    have values : query.params = d.params ++ [] := by
      rw [List.append_nil, ← counts.params, count]
    rw [Statement.filledConjuncts, same, values]
    exact splits.filled tidy gained []

/-- The arguments that may narrow a search and do nothing else to its conditions. The attributes
asked of the data of one source share a condition, and drops are asked for by their visibility in
any case. Sales ask for the assets on offer by one condition. -/
def Narrowing (name : String) : Kind → Prop
  | .assets => ∀ key ∈ AttributeKey.ofName? name, key.source = .any
  | .collections => True
  | .drops _ => name ≠ "hidden"
  | .sales => False

/-- An argument for any of the sources leaves those for the data of one source as they are. -/
lemma keepsSources_insert (h : ∀ key ∈ AttributeKey.ofName? name, key.source = .any) (v : Value) :
    Attributes.KeepsSources args (args.insert name v) := by
  intro key proper hs
  rw [Arguments.get?_insert, if_neg]
  rintro rfl
  exact hs (h key (AttributeKey.ofName?_eq_some.mpr ⟨rfl, proper⟩))

/-- Where the attributes of assets are asked for, all of them are read. -/
lemma exists_allTerms {d : Draft} (h : assetDraft args contract = .ok d) :
    ∃ t, Attributes.allTerms args = .ok t := by
  obtain ⟨_, -, h⟩ := Outcome.bind_eq_ok.mp h
  obtain ⟨_, attributed, -⟩ := Outcome.bind_eq_ok.mp h
  obtain ⟨t, read, -⟩ := Outcome.bind_eq_ok.mp attributed
  exact ⟨t, Outcome.orError_eq_ok.mp read⟩

/-- A narrowing argument adds to the parts of a search. -/
theorem plan_within {v : Value} {d : Draft} (narrowing : kind.Narrowing name)
    (absent : args.get? name = none) (hd : kind.draft (args.insert name v) contract = .ok d) :
    (kind.plan args contract).Within (kind.plan (args.insert name v) contract) := by
  have ext := Arguments.extends_insert v absent
  cases kind with
  | assets =>
    exact (Within.refl _).append <|
      (Asset.within_plan ext {}).append <|
      (Attributes.within_plan ext (keepsSources_insert narrowing v)
        (exists_allTerms hd) {}).append <|
      (Lists.within_plan ext _).append (Window.within_plan ext _)
  | collections =>
    exact (Within.refl _).append <|
      (Asset.within_plan ext {}).append <| (Lists.within_plan ext _).append (Within.refl _)
  | drops now =>
    have visible : (args.insert name v).flag? "hidden" = args.flag? "hidden" := by
      rw [Arguments.flag?, Arguments.flag?, Arguments.get?_insert, if_neg narrowing.symm]
    -- the one condition that is there without its argument, so it has to be read alike
    have shown : (op (.compare "ndrop.is_hidden" .eq
          (.bool ((args.flag? "hidden").getD false)))).Within
        (op (.compare "ndrop.is_hidden" .eq
          (.bool (((args.insert name v).flag? "hidden").getD false)))) := .of_eq (by rw [visible])
    have head := (Within.refl (op (.compare "ndrop.drops_contract" .eq (.text contract)))).append
      ((Criterion.within_criterion ext "collection_name" "ndrop.collection_name").append shown)
    exact head.append <|
      (DropState.within_plan ext {} now).append <|
      (Lists.within_plan ext _).append (Window.within_plan ext _)
  | sales => exact narrowing.elim

/-- One more argument only narrows a search: every condition stays, values included, and all stay
in their order, in the page as in the query that is counted. -/
theorem run_narrowed {v : Value} {t : Search} (narrowing : kind.Narrowing name)
    (absent : args.get? name = none) (hs : kind.run args contract = .ok s)
    (ht : kind.run (args.insert name v) contract = .ok t) :
    s.items.filledConjuncts.Sublist t.items.filledConjuncts ∧
      ∀ query query', s.count.Counts query → t.count.Counts query' →
        query.filledConjuncts.Sublist query'.filledConjuncts := by
  obtain ⟨d, hd, -⟩ := run_eq_ok.mp ht
  have within := plan_within narrowing absent hd
  obtain ⟨items, counted⟩ := filledConjuncts_of_run hs
  obtain ⟨items', counted'⟩ := filledConjuncts_of_run ht
  constructor
  · rw [items, items']
    exact within
  · intro query query' counts counts'
    rw [counted query counts, counted' query' counts']
    exact within

/-- Arguments with attributes, a list and a window, for which each of the searches has a row of
conditions. -/
def furnished : Arguments := .ofList [("owner", .text "alice"), ("data.name", .text "Rock"),
  ("immutable_data.rarity", .text "epic"), ("account_blacklist", .text "carol,dan"),
  ("collection_name", .text "farm"), ("hidden", .text "true"), ("after", .int 10)]

theorem run_narrowed_furnished :
    (∃ s t, run furnished "atomic" .assets = .ok s ∧
      run (furnished.insert "data:number.level" (.text "3")) "atomic" .assets = .ok t ∧
      s.items.filledConjuncts.Sublist t.items.filledConjuncts) ∧
    (∃ s t, run furnished "atomic" .collections = .ok s ∧
      run (furnished.insert "authorized_account" (.text "eve")) "atomic" .collections = .ok t ∧
      s.items.filledConjuncts.Sublist t.items.filledConjuncts) ∧
    ∃ s t, run furnished "nefty" (.drops 1000) = .ok s ∧
      run (furnished.insert "state" (.text "active,ended")) "nefty" (.drops 1000) = .ok t ∧
      s.items.filledConjuncts.Sublist t.items.filledConjuncts := by
  obtain ⟨a, ha⟩ := Outcome.exists_of_isOk (x := run furnished "atomic" .assets)
    (by decide +kernel)
  obtain ⟨a', ha'⟩ := Outcome.exists_of_isOk
    (x := run (furnished.insert "data:number.level" (.text "3")) "atomic" .assets)
    (by decide +kernel)
  obtain ⟨c, hc⟩ := Outcome.exists_of_isOk (x := run furnished "atomic" .collections)
    (by decide +kernel)
  obtain ⟨c', hc'⟩ := Outcome.exists_of_isOk
    (x := run (furnished.insert "authorized_account" (.text "eve")) "atomic" .collections)
    (by decide +kernel)
  obtain ⟨d, hd⟩ := Outcome.exists_of_isOk (x := run furnished "nefty" (.drops 1000))
    (by decide +kernel)
  obtain ⟨d', hd'⟩ := Outcome.exists_of_isOk
    (x := run (furnished.insert "state" (.text "active,ended")) "nefty" (.drops 1000))
    (by decide +kernel)
  have anywhere : Narrowing "data:number.level" .assets :=
    (by decide : ∀ key ∈ AttributeKey.ofName? "data:number.level", key.source = .any)
  have authorized : Narrowing "authorized_account" .collections := trivial
  have stated : Narrowing "state" (.drops 1000) := (by decide : "state" ≠ "hidden")
  exact ⟨⟨a, a', ha, ha', (run_narrowed anywhere rfl ha ha').1⟩,
    ⟨c, c', hc, hc', (run_narrowed authorized rfl hc hc').1⟩,
    ⟨d, d', hd, hd', (run_narrowed stated rfl hd hd').1⟩⟩

end Search.Kind

end BoundQuery
