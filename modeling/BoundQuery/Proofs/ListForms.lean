import BoundQuery.Proofs.CommaLists
import BoundQuery.Proofs.Lookups

/-!
# Two forms of a list argument

A list arrives as a list of texts, or as one text with commas between them. Searches make nothing
of the difference, but for one text that is no list: the literal that asks for assets without a
template. Main statement: `Search.Kind.run_joined_eq_run_listed`.
-/
namespace BoundQuery

open BoundQuery.Draft BoundQuery.Filter

namespace Arguments

variable {args : Arguments} {name : String} {items : List String}

/-- An argument given as one text with commas between its items. -/
def joined (args : Arguments) (name : String) (items : List String) : Arguments :=
  args.insert name (.text (",".intercalate items))

/-- An argument given as a list of its items. -/
def listed (args : Arguments) (name : String) (items : List String) : Arguments :=
  args.insert name (.list (items.map .text))

/-- Texts that commas can separate: some texts, none of them empty and none with a comma. -/
structure Separable (items : List String) : Prop where
  nonempty : items ≠ []
  each : ∀ item ∈ items, item ≠ "" ∧ ',' ∉ item.toList

instance (items : List String) : Decidable (Separable items) :=
  decidable_of_iff (items ≠ [] ∧ ∀ item ∈ items, item ≠ "" ∧ ',' ∉ item.toList)
    ⟨fun h => ⟨h.1, h.2⟩, fun h => ⟨h.1, h.2⟩⟩

/-- The texts are found again between the commas. -/
lemma splitCommas_joined (h : Separable items) :
    splitCommas (",".intercalate items).toList = items.map String.toList := by
  have parts : ∀ item ∈ items.map String.toList, ',' ∉ item :=
    List.forall_mem_map.mpr fun item hm => (h.each item hm).2
  rw [String.toList_intercalate]
  exact splitCommas_intercalate (by simpa using h.nonempty) parts

lemma joined_ne_empty (h : Separable items) : ",".intercalate items ≠ "" := by
  intro empty
  have parts := splitCommas_joined h
  obtain ⟨item, rest, rfl⟩ := List.exists_cons_of_ne_nil h.nonempty
  rw [empty, List.map_cons] at parts
  have blank : item.toList = [] := (List.cons.inj parts).1.symm
  exact (h.each item List.mem_cons_self).1 (String.toList_eq_nil_iff.mp blank)

/-- Only the literal itself is written like the literal. -/
lemma eq_null_of_joined (h : Separable items) (hnull : ",".intercalate items = "null") :
    items = ["null"] := by
  have parts := splitCommas_joined h
  rw [hnull] at parts
  have single : items.map String.toList = ["null"].map String.toList := parts.symm
  exact (List.map_inj_right fun _ _ => String.toList_inj.mp).mp single

/-- The items of a text with commas are the texts between them. -/
lemma itemsOf_joined (h : Separable items) :
    itemsOf (.text (",".intercalate items)) = items.map .text := by
  have kept : ∀ item ∈ items.map String.toList, (!item.isEmpty) = true :=
    List.forall_mem_map.mpr fun item hm => by simpa using (h.each item hm).1
  rw [itemsOf_text, splitCommas_joined h, List.filter_eq_self.mpr kept, List.map_map]
  simp

lemma get?_joined (h : Separable items) :
    (args.joined name items).get? name = some (.text (",".intercalate items)) := by
  rw [joined, get?_insert, if_pos rfl, present?, if_neg (joined_ne_empty h)]

lemma get?_listed : (args.listed name items).get? name = some (.list (items.map .text)) := by
  rw [listed, get?_insert, if_pos rfl]
  rfl

/-- Another argument is the same in both forms. -/
lemma get?_joined_of_ne {other : String} (hne : other ≠ name) :
    (args.joined name items).get? other = (args.listed name items).get? other := by
  rw [joined, listed, get?_insert, get?_insert, if_neg hne, if_neg hne]

/-- Both forms are lists of the same texts. -/
theorem list_joined_eq_list_listed (h : Separable items) (other : String) :
    (args.joined name items).list other = (args.listed name items).list other := by
  by_cases same : other = name
  · subst same
    rw [list, list, get?_joined h, get?_listed]
    exact itemsOf_joined h
  · rw [list, list, get?_joined_of_ne same]

/-- The literal that asks for assets without a template is recognized in one form only. -/
lemma text?_joined_iff (h : Separable items) (hnull : name = "template_id" → items ≠ ["null"]) :
    (args.joined name items).text? "template_id" = some "null" ↔
      (args.listed name items).text? "template_id" = some "null" := by
  by_cases same : "template_id" = name
  · subst same
    rw [text?, text?, get?_joined h, get?_listed]
    have other : ",".intercalate items ≠ "null" := fun hjoined =>
      hnull rfl (eq_null_of_joined h hjoined)
    simp [Value.asText?, other]
  · rw [text?, text?, get?_joined_of_ne same]

end Arguments

namespace Search

namespace Kind

/-- What is no list to a search in which assets are asked for: the literal `null` as the template,
which asks for assets without a template. -/
def TemplateLiteral (kind : Kind) (name : String) (items : List String) : Prop :=
  (∀ now, kind ≠ .drops now) ∧ name = "template_id" ∧ items = ["null"]

/-- Lookups of a list, of the items or whether it is the literal. -/
def OfList : Lookup → Bool
  | .list _ | .items _ | .literal _ _ => true
  | _ => false

/-- Nothing but lists is read of the names of lists. -/
lemma not_reads_of_list {kind : Kind} {lookup : Lookup} {name : String}
    (hr : lookup ∈ kind.lookups ++ Listing.lookups) (hl : OfList lookup = false)
    (hn : name ∈ Arguments.listNames ++ ["state"]) : ¬ lookup.Reads name := by
  have single : ∀ lookup ∈ Lookup.all, OfList lookup = false →
      ∀ fixed ∈ lookup.name?, fixed ∉ Arguments.listNames ++ ["state"] := by decide
  have undotted : ∀ listed ∈ Arguments.listNames ++ ["state"],
      (AttributeKey.ofName? listed).isSome = false := by decide +kernel
  intro reads
  rcases Lookup.name?_of_reads reads with named | ⟨-, dotted⟩
  · exact single lookup (kind.mem_all_lookups hr) hl name named hn
  · rw [undotted name hn] at dotted
    cases dotted

/-- The literal of a template is read by all searches but the one for drops. -/
lemma not_drops_of_literal {kind : Kind} {name spelling : String}
    (hr : .literal name spelling ∈ kind.lookups ++ Listing.lookups) :
    (∀ now, kind ≠ .drops now) ∧ name = "template_id" ∧ spelling = "null" := by
  constructor
  · rintro now rfl
    simp [Kind.lookups, Lists.lookups, Window.lookups, Listing.lookups] at hr
  · have read := kind.mem_all_lookups hr
    simpa [Lookup.all, Kind.lookups, Price.lookups, Asset.lookups, Lists.lookups,
      Window.lookups, Listing.lookups] using read

/-- A list argument of any search may be given as a list of texts or as one text with commas between
them: but for the literal, the outcomes are the same. -/
theorem run_joined_eq_run_listed (kind : Kind) (args : Arguments) (contract : String)
    {name : String} {items : List String} (hn : name ∈ Arguments.listNames ++ ["state"])
    (h : Arguments.Separable items) (hl : ¬ kind.TemplateLiteral name items) :
    kind.run (args.joined name items) contract = kind.run (args.listed name items) contract := by
  apply run_congr
  intro lookup hr
  cases hform : OfList lookup with
  | false =>
    apply Lookup.alike_of_get?
    intro other ho
    apply Arguments.get?_joined_of_ne
    rintro rfl
    exact not_reads_of_list hr hform hn ho
  | true =>
    cases lookup with
    | list other =>
      have same : (args.joined name items).list other = (args.listed name items).list other :=
        Arguments.list_joined_eq_list_listed h other
      rw [Lookup.Alike, same]
      exact Likeness.equal.many_refl _
    | items other => exact Arguments.list_joined_eq_list_listed h other
    | literal other spelling =>
      obtain ⟨asset, rfl, rfl⟩ := not_drops_of_literal hr
      exact Arguments.text?_joined_iff h fun hname hitems => hl ⟨asset, hname, hitems⟩
    | _ => cases hform

/-- Templates of a list are looked for by their numbers, the word of the literal among them. -/
theorem run_joined_eq_run_listed_null_seven :
    ("template_id" ∈ Arguments.listNames ++ ["state"] ∧ Arguments.Separable ["null", "7"] ∧
      ¬ Kind.sales.TemplateLiteral "template_id" ["null", "7"]) ∧
    Kind.sales.run (Arguments.empty.joined "template_id" ["null", "7"]) "atomicmarket" =
      Kind.sales.run (Arguments.empty.listed "template_id" ["null", "7"]) "atomicmarket" := by
  have plural : ¬ Kind.sales.TemplateLiteral "template_id" ["null", "7"] := fun h =>
    absurd h.2.2 (by decide)
  exact ⟨⟨by decide, by decide, plural⟩,
    run_joined_eq_run_listed .sales .empty "atomicmarket" (by decide) (by decide) plural⟩

/-- The literal is a literal as a text only: in a list it is the name of a template. -/
theorem run_joined_ne_run_listed_null :
    ¬ ∀ (kind : Kind) (args : Arguments) (contract name : String) (items : List String),
      name ∈ Arguments.listNames ++ ["state"] → Arguments.Separable items →
        kind.run (args.joined name items) contract =
          kind.run (args.listed name items) contract := by
  intro forms
  have same := forms .assets .empty "atomicassets" "template_id" ["null"] (by decide) (by decide)
  have texts := congrArg (fun outcome => outcome.toOption.map fun s => s.items.sql) same
  exact absurd texts (by decide +kernel)

end Kind

end Search

end BoundQuery
