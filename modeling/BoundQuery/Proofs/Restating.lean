import BoundQuery.Proofs.DecimalTexts
import BoundQuery.Proofs.Lookups

/-!
# Searches for integers and for their decimals

Clients that lose precision send integers as text. A search makes the same texts of either form and
binds values that are encoded alike, but for the few arguments that are taken by their letters.
Main statement: `Search.Kind.run_restated`.
-/
namespace BoundQuery

open BoundQuery.Draft BoundQuery.Filter
open Outcome (Related)

namespace Search.Kind

/-- The arguments that a search takes as they are written: its order, the token and the bounds of
its prices, the attributes of its assets, and the states of drops. -/
def Verbatim (kind : Kind) (name : String) : Prop :=
  name ∈ ["sort", "order", "symbol", "min_price", "max_price"] ∨
    (AttributeKey.ofName? name).isSome = true ∨ name = "state" ∧ ∃ now, kind = .drops now

/-- The same arguments but for integers that are written as decimals, in arguments that are not
taken as they are written. -/
structure Restates (kind : Kind) (a b : Arguments) : Prop where
  value : ∀ name, Option.Rel Value.Restates (a.values.lookup? name) (b.values.lookup? name)
  verbatim : ∀ name, kind.Verbatim name → a.values.lookup? name = b.values.lookup? name

namespace Restates

variable {kind : Kind} {a b : Arguments}

theorem refl (kind : Kind) (a : Arguments) : kind.Restates a a where
  value name := by
    cases a.values.lookup? name with
    | none => exact .none
    | some v => exact .some (.same v)
  verbatim _ _ := rfl

/-- One argument is restated. -/
theorem insert (h : kind.Restates a b) {name : String} (hn : ¬ kind.Verbatim name) {v w : Value}
    (hv : v.Restates w) : kind.Restates (a.insert name v) (b.insert name w) where
  value asked := by
    simp only [Arguments.insert, Dictionary.lookup?_insert]
    split
    · exact .some hv
    · exact h.value asked
  verbatim asked hasked := by
    have other : asked ≠ name := by
      rintro rfl
      exact hn hasked
    simp only [Arguments.insert, Dictionary.lookup?_insert, if_neg other, h.verbatim asked hasked]

/-! ### What is read -/

lemma get? (h : kind.Restates a b) (name : String) :
    Option.Rel Value.Restates (a.get? name) (b.get? name) := by
  have related := h.value name
  unfold Arguments.get?
  generalize a.values.lookup? name = v at related
  generalize b.values.lookup? name = w at related
  cases related with
  | none => exact .none
  | some hvw => exact hvw.present?

/-- What is read alike from restated values is read alike from restated arguments. -/
lemma read_eq (h : kind.Restates a b) {α : Type} {read : Value → Option α}
    (hread : ∀ {v w}, Value.Restates v w → read v = read w) (name : String) :
    (a.get? name).bind read = (b.get? name).bind read := by
  have related := h.get? name
  generalize a.get? name = v at related
  generalize b.get? name = w at related
  cases related with
  | none => rfl
  | some hvw => exact hread hvw

lemma list (h : kind.Restates a b) (name : String) :
    List.Forall₂ Value.Restates (a.list name) (b.list name) := by
  have related := h.get? name
  unfold Arguments.list
  generalize a.get? name = v at related
  generalize b.get? name = w at related
  cases related with
  | none => exact .nil
  | some hvw => exact hvw.itemsOf

lemma get?_eq (h : kind.Restates a b) {name : String} (hn : kind.Verbatim name) :
    a.get? name = b.get? name := by
  rw [Arguments.get?, Arguments.get?, h.verbatim name hn]

/-- The literal that asks for assets without a template is no decimal. -/
lemma null_iff {v w : Value} (h : v.Restates w) :
    v.asText? = some "null" ↔ w.asText? = some "null" := by
  cases h with
  | same => exact Iff.rfl
  | digits n =>
    have word := Decimal.ofInt64_ne (s := "null") (by decide +kernel) n
    simp [Value.asText?, word]
  | items _ => exact Iff.rfl

/-- Lookups that take a text by its letters, the one word that no decimal is apart. -/
def Spelled : Lookup → Bool
  | .items _ | .number _ | .text _ | .word _ | .attributes => true
  | .literal _ spelling => spelling ≠ "null"
  | _ => false

/-- What a search takes by its letters is taken as it is written. -/
lemma verbatim_of_spelled {lookup : Lookup} (hr : lookup ∈ kind.lookups ++ Listing.lookups)
    (hs : Spelled lookup = true) {name : String} (hn : lookup.Reads name) :
    kind.Verbatim name := by
  have letters : ∀ lookup ∈ Lookup.all, Spelled lookup = true → lookup = .items "state" ∨
      ∀ n ∈ lookup.name?, n ∈ ["sort", "order", "symbol", "min_price", "max_price"] := by decide
  have states : .items "state" ∈ kind.lookups ++ Listing.lookups → ∃ now, kind = .drops now := by
    cases kind with
    | drops now => exact fun _ => ⟨now, rfl⟩
    | assets | collections | sales => exact fun h => absurd h (by decide)
  rcases letters lookup (kind.mem_all_lookups hr) hs with rfl | named
  · obtain rfl : name = "state" := hn
    exact .inr (.inr ⟨rfl, states hr⟩)
  · rcases Lookup.name?_of_reads hn with hname | ⟨-, dotted⟩
    · exact .inl (named name hname)
    · exact .inr (.inl dotted)

/-- What a search reads from restated arguments is alike. -/
lemma lookup (h : kind.Restates a b) {lookup : Lookup}
    (hr : lookup ∈ kind.lookups ++ Listing.lookups) :
    lookup.Alike (.congruent Value.Restates.congruence) a b := by
  have verbatim (hs : Spelled lookup = true) :
      lookup.Alike (.congruent Value.Restates.congruence) a b :=
    Lookup.alike_of_get? fun name hn => h.get?_eq (verbatim_of_spelled hr hs hn)
  cases lookup with
  | list name => exact h.list name
  | value name => exact h.get? name
  | flag name => exact h.read_eq Value.Restates.asBool?_eq name
  | choice name =>
    have same : a.flag? name = b.flag? name := h.read_eq Value.Restates.asBool?_eq name
    rw [Lookup.Alike, same]
    exact .same _
  | literal name spelling =>
    by_cases null : spelling = "null"
    · subst null
      have related := h.get? name
      rw [Lookup.Alike, Arguments.text?, Arguments.text?]
      generalize a.get? name = v at related
      generalize b.get? name = w at related
      cases related with
      | none => exact Iff.rfl
      | some hvw => exact null_iff hvw
    · exact verbatim (decide_eq_true null)
  | instant name =>
    exact Likeness.rel_of_eq (fun n => .same (.int n)) (h.read_eq Value.Restates.asInt?_eq name)
  | count name => exact fun _ => h.read_eq Value.Restates.asInt?_eq name
  | _ => exact verbatim rfl

end Restates

/-- The same text, and values that are encoded alike. -/
structure SentAlike (s t : Statement) : Prop where
  sql : s.sql = t.sql
  values : List.Forall₂ Wire.EncodedAlike s.params t.params

/-- A search is the same but for how integers are written in its values: it fails with the same
error, or its page and its count have the same texts and values that are encoded to the same bytes,
or refused in both forms, for every type of truth values, integers or texts and arrays of these. -/
theorem run_restated (kind : Kind) {a b : Arguments} (h : kind.Restates a b) (contract : String) :
    Related (fun s t => SentAlike s.items t.items ∧ SentAlike s.count t.count)
      (kind.run a contract) (kind.run b contract) := by
  have sent {s t : Statement} (hst : s.Alike (.congruent Value.Restates.congruence) t) :
      SentAlike s t :=
    ⟨congrArg SqlText.render hst.text, hst.values.imp fun _ _ => Wire.encodedAlike_of_restates⟩
  have outcomes := Kind.alike_run (.same kind) (fun _ => h.lookup) (.same (.text contract))
  exact (outcomes.imp fun s t hst => ⟨sent hst.items, sent hst.count⟩).related trivial

/-- The least number among others, a page and a flag, all as integers. -/
def numbered : Arguments :=
  ((Arguments.empty.insert "ids" (.list [.int Int64.minValue, .text "x"])).insert "page"
    (.int 3)).insert "burned" (.int 1)

/-- The same as decimals. -/
def lettered : Arguments :=
  ((Arguments.empty.insert "ids" (.list [.text "-9223372036854775808", .text "x"])).insert "page"
    (.text "3")).insert "burned" (.text "1")

lemma numbered_restates : Kind.assets.Restates numbered lettered := by
  have free {name : String} (order : name ∉ ["sort", "order", "symbol", "min_price", "max_price"])
      (plain : (AttributeKey.ofName? name).isSome = false) : ¬ Kind.assets.Verbatim name := by
    rintro (h | h | ⟨-, now, h⟩)
    · exact order h
    · rw [plain] at h
      cases h
    · cases h
  have number {n : Int64} {s : String} (hs : Decimal.ofInt64 n = s) :
      Value.Restates (.int n) (.text s) := hs ▸ .digits n
  refine Restates.insert (Restates.insert (Restates.insert (.refl _ _) ?_ ?_) ?_ ?_) ?_ ?_
  · exact free (by decide) (by decide +kernel)
  · exact .items (.cons (number (by decide +kernel)) (.cons (.same _) .nil))
  · exact free (by decide) (by decide +kernel)
  · exact number (by decide +kernel)
  · exact free (by decide) (by decide +kernel)
  · exact number (by decide +kernel)

/-- The third page of burned assets by number is found by either form. -/
theorem run_restated_numbered :
    ∃ s t, Kind.assets.run numbered "atomicassets" = .ok s ∧
      Kind.assets.run lettered "atomicassets" = .ok t ∧
        SentAlike s.items t.items ∧ SentAlike s.count t.count := by
  obtain ⟨s, hs⟩ := Outcome.exists_of_isOk
    (x := Kind.assets.run numbered "atomicassets") (by decide +kernel)
  have outcomes := run_restated .assets numbered_restates "atomicassets"
  rw [hs] at outcomes
  cases ht : Kind.assets.run lettered "atomicassets" with
  | error e =>
    rw [ht] at outcomes
    cases outcomes
  | ok t =>
    rw [ht] at outcomes
    cases outcomes with
    | ok alike => exact ⟨s, t, hs, rfl, alike⟩

end Search.Kind

end BoundQuery
