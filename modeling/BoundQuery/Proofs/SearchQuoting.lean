import BoundQuery.Proofs.Grammar
import BoundQuery.Proofs.Mentions
import BoundQuery.Proofs.Quoting

/-!
# Quotes in the texts of searches

No text of a search has a quote, and each value stands behind a text. So a search is legible with
its values in place, whatever they are, and the text for people is read back: the strings are what
the values have quoted, and the rest is the text of the search. Main statement:
`Search.Kind.lex_items_inlined`.
-/
namespace BoundQuery

open FilledText (ofString)
open Quoting

/-! ### The grammar of legible texts -/

/-- A name without quotes. -/
def Quoteless (name : String) : Prop := '\'' ∉ name.toList

instance (name : String) : Decidable (Quoteless name) :=
  inferInstanceAs (Decidable ('\'' ∉ name.toList))

namespace FilledText

variable {after : Bool} {cs : List Char}

lemma legibleFrom_chars (h : '\'' ∉ cs) (after : Bool) : (ofChars cs).LegibleFrom after := by
  induction cs generalizing after with
  | nil => exact .nil after
  | cons c cs ih =>
    obtain ⟨first, rest⟩ := List.ne_and_not_mem_of_not_mem_cons h
    exact .character first.symm (ih rest false)

/-- A value may stand behind a character. -/
lemma LegibleFrom.valued (h : (ofChars cs).LegibleFrom after) (hne : cs ≠ []) (v : Value) :
    LegibleFrom after (ofChars cs ++ [.value v]) := by
  induction cs generalizing after with
  | nil => exact absurd rfl hne
  | cons c cs ih =>
    cases h with
    | character hc rest =>
      cases cs with
      | nil => exact .character hc (.value (.nil true))
      | cons next cs => exact .character hc (ih rest (List.cons_ne_nil _ _))

end FilledText

lemma Quoteless.legible {name : String} (h : Quoteless name) : (ofString name).Legible :=
  FilledText.legibleFrom_chars h true

namespace Grammar

/-- The legible texts, at any depth. -/
def legible : Grammar where
  Leads _ _ _ t := t.Legible
  nil _ _ := .nil true
  append := FilledText.LegibleFrom.append
  valued v _ hne h := h.valued (mt String.toList_eq_nil_iff.mp hne) v
  weaken _ h := h
  raise h := h
  words := by
    have words : ∀ w ∈ Word.all, Quoteless w.text := by decide
    exact fun w hw => (words w hw).legible

/-- Texts without quotes are legible wherever they stand. -/
lemma legible_admits {places : List (Place × String)} (h : ∀ t ∈ places, Quoteless t.2) :
    legible.Admits places := by
  rintro ⟨place, name⟩ ht
  have shown := (h _ ht).legible
  cases place <;> exact shown

end Grammar

/-! ### Searches -/

namespace Search

open BoundQuery.Draft BoundQuery.Filter

namespace Kind

variable {args : Arguments} {contract : String}

lemma quoteless_base (kind : Kind) : Quoteless kind.base := by
  cases kind with
  | assets => exact (by decide +kernel : Quoteless assetBase)
  | collections => exact (by decide +kernel : Quoteless collectionBase)
  | drops now => exact (by decide +kernel : Quoteless dropBase)
  | sales => exact (by decide +kernel : Quoteless saleBase)

lemma quoteless_listing (kind : Kind) : ∀ t ∈ kind.listing.texts, Quoteless t.2 := by
  cases kind with
  | assets => exact (by decide : ∀ t ∈ assetListing.texts, Quoteless t.2)
  | collections => exact (by decide : ∀ t ∈ collectionListing.texts, Quoteless t.2)
  | drops now => exact (by decide : ∀ t ∈ dropListing.texts, Quoteless t.2)
  | sales => exact (by decide : ∀ t ∈ saleListing.texts, Quoteless t.2)

/-- With its values in place the page of a search is legible. -/
lemma legible_items {kind : Kind} {s : Search} (h : kind.run args contract = .ok s) :
    s.items.filled.Legible := by
  obtain ⟨d, hd, hs⟩ := run_eq_ok.mp h
  obtain ⟨items, -⟩ := shows_of_finish kind.listing_plain (tidy_draft hd) (gains_draft hd) hs
  have admitted : Grammar.legible.Admits (texts ++ DropColumns.texts {}) :=
    Grammar.legible_admits fun t ht quote => (bare_texts t ht _ quote).2 rfl
  have drawn : (kind.parts args contract).Obeys .legible :=
    Plan.obeys fun t ht => admitted t (kind.texts_plan ht)
  have listed : Grammar.legible.Admits kind.listing.texts :=
    Grammar.legible_admits kind.quoteless_listing
  have finished : (finishing args kind.listing).Obeys .legible := by
    rw [← contribution_finishPlan]
    exact Plan.obeys fun t ht => listed t (texts_finishPlan _ ht)
  rw [items]
  exact (drawn.append finished).text kind.quoteless_base.legible

/-- Every placeholder token in the page of a search has a value. -/
lemma exists_value_of_run {kind : Kind} {s : Search} (h : kind.run args contract = .ok s)
    {digits : List Char} (hm : .reference digits ∈ SqlToken.scan s.items.sql.toList) :
    ∃ v ∈ s.items.params, SqlToken.value? s.items.params (.reference digits) = some v := by
  obtain ⟨d, hd, hs⟩ := run_eq_ok.mp h
  have shown := shows_items_of_finish (gains_draft hd) hs
  exact Statement.exists_value_of_reference_mem
    (delimited_items kind.listing_plain (tidy_draft hd) hs) shown.within hm

/-- Whatever the values of a search are, the text of its page for people is read back by the rules
for strings. The strings are what the values have quoted, token by token, and what stands outside is
the text of the page with a word, a number or the frame of a list in the place of each value. -/
theorem lex_items_inlined {kind : Kind} {s : Search} (h : kind.run args contract = .ok s) :
    lex s.items.inlined.toList = some ⟨s.items.skeleton, s.items.quotedTexts⟩ ∧
    ∀ digits, .reference digits ∈ SqlToken.scan s.items.sql.toList → ∃ v ∈ s.items.params,
      SqlToken.value? s.items.params (.reference digits) = some v ∧ '\'' ∉ v.skeleton := by
  refine ⟨Statement.lex_inlined (legible_items h), fun digits hm => ?_⟩
  obtain ⟨v, hv, valued⟩ := exists_value_of_run h hm
  exact ⟨v, hv, valued, v.quote_not_mem_skeleton⟩

/-- Arguments whose texts start and end in quotes, one of them a list. -/
def quoting : Arguments := .ofList [("owner", .text "o'"), ("collection_whitelist", .text "'a,b'"),
  ("immutable_data.name", .text "''"), ("limit", .int 5)]

theorem lex_items_inlined_quoting : ∃ s, run quoting "it's" .assets = .ok s ∧
    ∃ k, lex s.items.inlined.toList = some k ∧
      k.strings.map String.ofList = ["it's", "o'", "\x7b\"name\":\"''\"\x7d", "'a", "b'"] := by
  obtain ⟨s, hs⟩ := Outcome.exists_of_isOk (x := run quoting "it's" .assets) (by decide +kernel)
  have quoted : (run quoting "it's" .assets).toOption.map (fun s => s.items.quotedTexts.map
      String.ofList) = some ["it's", "o'", "\x7b\"name\":\"''\"\x7d", "'a", "b'"] := by
    decide +kernel
  rw [hs] at quoted
  exact ⟨s, hs, _, (lex_items_inlined hs).1, Option.some.inj quoted⟩

end Kind

end Search

end BoundQuery
