import BoundQuery.Search
import BoundQuery.Proofs.AttributeArguments
import BoundQuery.Proofs.Editing

/-!
# Errors of filters

When a filter errs, and with what. A membership test refuses what is no list; the attribute, drop
and sort filters refuse arguments that they cannot read; no other filter refuses anything. Nothing
is left behind in the draft by a filter that errs. Main statement: `errors_exact`.
-/
namespace BoundQuery

open BoundQuery.Filter BoundQuery.Edit

namespace Filter

/-! ### Attributes -/

namespace Attributes

/-- A type that is not known, or a value without a reading of the type. -/
def Misread (type : Option String) (v : Value) : Prop :=
  ∃ word, type = some word ∧
    (word ∉ ["text", "number", "bool"] ∨ word = "text" ∧ v.toText? = none ∨
      word = "number" ∧ numberOf? v = none ∨ word = "bool" ∧ v.asBool? = none)

lemma expect_errs_iff {problem : ArgumentProblem} {document : Option Json} :
    (∃ p, expect problem document = .error p) ↔ document = none := by
  cases document <;> simp [expect]

/-- A value is refused exactly where its type is unknown or the value has no reading of it. -/
lemma coerce_errs_iff {type : Option String} {v : Value} :
    (∃ problem, coerce type v = .error problem) ↔ Misread type v := by
  unfold Misread
  cases type with
  | none => simp [coerce]
  | some word =>
    simp only [coerce]
    by_cases text : word = "text"
    · subst text
      simp [expect_errs_iff]
    · by_cases number : word = "number"
      · subst number
        simp [expect_errs_iff]
      · by_cases bool : word = "bool"
        · subst bool
          simp [expect_errs_iff]
        · simp [text, number, bool]

/-- Some argument of a source is present and cannot be read. -/
def Refuses (args : Arguments) : Prop :=
  ∃ key v, AttributeKey.Proper key ∧ args.get? key.name = some v ∧ Misread key.type v

lemma term_errs_iff {name : String} {key : AttributeKey} {v : Value} :
    (∃ e, term (name, key, v) = .error e) ↔ Misread key.type v := by
  rw [← coerce_errs_iff, term]
  cases coerce key.type v with
  | error problem => simp [Except.mapError, Except.map]
  | ok document => simp [Except.mapError, Except.map]

lemma isInvalidArgument_of_term {entry : String × AttributeKey × Value} {e : Error}
    (h : term entry = .error e) : e.isInvalidArgument = true := by
  obtain ⟨name, key, v⟩ := entry
  rw [term] at h
  cases hc : coerce key.type v with
  | error problem =>
    rw [hc] at h
    cases h
    rfl
  | ok document =>
    rw [hc] at h
    cases h

/-- The terms of a source are refused where one of its arguments is misread. -/
lemma terms_errs_iff {args : Arguments} {source : AttributeSource} :
    (∃ e, terms args source = .error e) ↔
      ∃ key v, AttributeKey.source key = source ∧ key.Proper ∧ args.get? key.name = some v ∧
        Misread key.type v := by
  rw [terms, Outcome.mapM_errs_iff]
  constructor
  · rintro ⟨⟨name, key, v⟩, hm, herrs⟩
    obtain ⟨hsource, hproper, rfl, hget⟩ := mem_select.mp hm
    exact ⟨key, v, hsource, hproper, hget, term_errs_iff.mp herrs⟩
  · rintro ⟨key, v, hsource, hproper, hget, hmisread⟩
    exact ⟨(key.name, key, v), mem_select.mpr ⟨hsource, hproper, rfl, hget⟩,
      term_errs_iff.mpr hmisread⟩

/-- Reading all arguments errs as reading those of one of the sources does. -/
lemma allTerms_eq_error {args : Arguments} {e : Error} (h : allTerms args = .error e) :
    ∃ source, terms args source = .error e := by
  rcases Outcome.bind_eq_error.mp h with h | ⟨_, -, h⟩
  · exact ⟨_, h⟩
  rcases Outcome.bind_eq_error.mp h with h | ⟨_, -, h⟩
  · exact ⟨_, h⟩
  rcases Outcome.bind_eq_error.mp h with h | ⟨_, -, h⟩
  · exact ⟨_, h⟩
  rcases Outcome.bind_eq_error.mp h with h | ⟨_, -, h⟩
  · exact ⟨_, h⟩
  · cases h

/-- The attribute filter refuses an argument of any of its sources. -/
theorem allTerms_errs_iff {args : Arguments} : (∃ e, allTerms args = .error e) ↔ Refuses args := by
  constructor
  · rintro ⟨e, h⟩
    obtain ⟨source, hsource⟩ := allTerms_eq_error h
    obtain ⟨key, v, -, found⟩ := terms_errs_iff.mp ⟨e, hsource⟩
    exact ⟨key, v, found⟩
  · rintro ⟨key, v, found⟩
    obtain ⟨e, he⟩ := terms_errs_iff.mpr ⟨key, v, rfl, found⟩
    cases hr : allTerms args with
    | error e' => exact ⟨e', rfl⟩
    | ok t =>
      rw [terms_of hr] at he
      cases he

/-- What is refused is an argument. -/
lemma isInvalidArgument_of_allTerms {args : Arguments} {e : Error}
    (h : allTerms args = .error e) : e.isInvalidArgument = true := by
  obtain ⟨source, hsource⟩ := allTerms_eq_error h
  obtain ⟨entry, -, hentry⟩ := Outcome.exists_of_mapM_eq_error hsource
  exact isInvalidArgument_of_term hentry

end Attributes

/-! ### Drop states and order -/

namespace DropState

/-- Some item of the states asked for is not the text of a state. -/
def Refuses (args : Arguments) : Prop :=
  ∃ v ∈ args.list "state", ∀ state : DropState, v ≠ .text state.name

/-- All values but the names of states are refused. -/
lemma ofValue_errs_iff {v : Value} :
    (∃ e, ofValue v = .error e) ↔ ∀ state : DropState, v ≠ .text state.name := by
  simp only [ne_eq, ← ofValue_eq_ok]
  cases ofValue v with
  | error e => simp
  | ok state => simp

lemma isInvalidArgument_of_ofValue {v : Value} {e : Error} (h : ofValue v = .error e) :
    e.isInvalidArgument = true := by
  cases v with
  | text name =>
    simp only [ofValue, Value.asText?, ofName] at h
    split at h
    · cases h
    · cases h
      rfl
  | _ =>
    cases h
    rfl

lemma isInvalidArgument_of_requested {args : Arguments} {e : Error}
    (h : requested args = .error e) : e.isInvalidArgument = true := by
  obtain ⟨v, -, hv⟩ := Outcome.exists_of_mapM_eq_error (Outcome.map_eq_error.mp h)
  exact isInvalidArgument_of_ofValue hv

theorem requested_errs_iff {args : Arguments} :
    (∃ e, requested args = .error e) ↔ Refuses args := by
  simp only [requested, Outcome.map_eq_error, Outcome.mapM_errs_iff, ofValue_errs_iff]
  exact Iff.rfl

end DropState

namespace Listing

/-- The key of the order is not offered, or its direction is not known. -/
def Refuses (args : Arguments) (listing : Listing) : Prop :=
  (args.text? "sort").getD listing.defaultSort ∉ listing.columns.map Prod.fst ∨
    ∃ text, args.text? "order" = some text ∧ text ∉ ["asc", "ASC", "desc", "DESC"]

/-- All keys but those of the listing are refused. -/
lemma columnFor_errs_iff {listing : Listing} {key : String} :
    (∃ e, listing.columnFor key = .error e) ↔ key ∉ listing.columns.map Prod.fst := by
  unfold columnFor
  split
  next name column hfound =>
    have same := List.find?_some hfound
    have named : name = key := eq_of_beq same
    have offered : key ∈ listing.columns.map Prod.fst :=
      List.mem_map.mpr ⟨(name, column), List.mem_of_find?_eq_some hfound, named⟩
    simp [offered]
  next hfound =>
    have absent : key ∉ listing.columns.map Prod.fst := by
      intro hm
      obtain ⟨entry, hentry, rfl⟩ := List.mem_map.mp hm
      exact List.find?_eq_none.mp hfound entry hentry (beq_self_eq_true _)
    simp [absent]

/-- A direction that is not known is refused; without one the default is taken. -/
lemma orderFor_errs_iff (listing : Listing) {asked : Option String} :
    (∃ e, listing.orderFor asked = .error e) ↔
      ∃ text, asked = some text ∧ text ∉ ["asc", "ASC", "desc", "DESC"] := by
  cases asked with
  | none => simp [orderFor]
  | some text =>
    simp only [orderFor, SortOrder.ofText]
    split_ifs with up down
    · rcases up with rfl | rfl <;> simp
    · rcases down with rfl | rfl <;> simp
    · simp_all

lemma isInvalidArgument_of_requested {args : Arguments} {listing : Listing} {e : Error}
    (h : requested args listing = .error e) : e.isInvalidArgument = true := by
  rcases Outcome.bind_eq_error.mp h with h | ⟨column, -, h⟩
  · unfold columnFor at h
    split at h
    · cases h
    · cases h
      rfl
  · rcases Outcome.bind_eq_error.mp h with h | ⟨order, -, h⟩
    · cases asked : args.text? "order" with
      | none =>
        rw [asked] at h
        cases h
      | some text =>
        rw [asked] at h
        simp only [orderFor, SortOrder.ofText] at h
        split_ifs at h
        cases h
        rfl
    · cases h

theorem requested_errs_iff {args : Arguments} {listing : Listing} :
    (∃ e, requested args listing = .error e) ↔ listing.Refuses args := by
  rw [Refuses, ← columnFor_errs_iff, ← listing.orderFor_errs_iff]
  unfold requested
  cases listing.columnFor ((args.text? "sort").getD listing.defaultSort) with
  | error e => simp [bind, Except.bind]
  | ok column =>
    cases listing.orderFor (args.text? "order") <;> simp [bind, Except.bind, pure, Except.pure]

end Listing

end Filter

/-! ### Composers -/

/-- An outcome that errs with an argument that was refused, if it errs. -/
def OnlyInvalid {α : Type} (outcome : Except Failure α) : Prop :=
  ∀ e : Error, outcome = .error (.error e) → e.isInvalidArgument = true

section OnlyInvalid

variable {α β : Type}

lemma onlyInvalid_ok (a : α) : OnlyInvalid (.ok a) := nofun

lemma onlyInvalid_orFault (outcome : Except Fault α) : OnlyInvalid (orFault outcome) :=
  fun _ h => absurd h Outcome.orFault_ne_error

lemma OnlyInvalid.bind {x : Except Failure α} {next : α → Except Failure β} (hx : OnlyInvalid x)
    (hnext : ∀ a, OnlyInvalid (next a)) : OnlyInvalid (x >>= next) := by
  intro e h
  rcases Outcome.bind_eq_error.mp h with h | ⟨a, -, h⟩
  · exact hx e h
  · exact hnext a e h

end OnlyInvalid

namespace Composer

/-- The arguments that a composer cannot read. -/
def Refuses (args : Arguments) : Composer → Prop
  | .attributes _ => Attributes.Refuses args
  | .drop _ _ => DropState.Refuses args
  | .sort listing => listing.Refuses args
  | _ => False

variable {args : Arguments} {d : Draft}

/-- A composer errs where it cannot read its arguments, whatever the draft. -/
theorem apply_errs_iff (composer : Composer) :
    (∃ e, composer.apply args d = .error (.error e)) ↔ composer.Refuses args := by
  cases composer with
  | attributes c =>
    rw [Refuses, ← Attributes.allTerms_errs_iff]
    simp [apply, Filter.attributes]
  | drop c now =>
    rw [Refuses, ← DropState.requested_errs_iff]
    simp [apply, Filter.drop]
  | sort listing =>
    rw [Refuses, ← Listing.requested_errs_iff]
    simp [apply, Filter.sort]
  | _ => simp [apply, Refuses]

/-- A composer errs with nothing but an argument that was refused. -/
theorem onlyInvalid_apply (composer : Composer) : OnlyInvalid (composer.apply args d) := by
  cases composer with
  | asset c => exact onlyInvalid_orFault _
  | attributes c =>
    have read : OnlyInvalid (orError (Attributes.allTerms args)) := fun _ h =>
      Attributes.isInvalidArgument_of_allTerms (Outcome.orError_eq_error.mp h)
    exact read.bind fun t => onlyInvalid_orFault (Attributes.require c t d)
  | drop c now =>
    exact fun _ h => DropState.isInvalidArgument_of_requested
      (Outcome.map_eq_error.mp (Outcome.orError_eq_error.mp h))
  | sort listing =>
    exact fun _ h => Listing.isInvalidArgument_of_requested
      (Outcome.map_eq_error.mp (Outcome.orError_eq_error.mp h))
  | page listing => exact onlyInvalid_orFault _
  | _ => exact onlyInvalid_ok _

end Composer

/-! ### Searches -/

namespace Search

variable (args : Arguments) (contract : String)

lemma onlyInvalid_finish (listing : Listing) (d : Draft) : OnlyInvalid (finish args listing d) :=
  (Composer.onlyInvalid_apply (.sort listing)).bind fun _ =>
    (onlyInvalid_orFault _).bind fun _ => onlyInvalid_ok _

lemma onlyInvalid_assets : OnlyInvalid (assets args contract) :=
  OnlyInvalid.bind ((onlyInvalid_orFault _).bind fun _ =>
      (Composer.onlyInvalid_apply (.attributes {})).bind fun _ => onlyInvalid_ok _)
    (onlyInvalid_finish args assetListing)

lemma onlyInvalid_collections : OnlyInvalid (collections args contract) :=
  OnlyInvalid.bind ((onlyInvalid_orFault _).bind fun _ => onlyInvalid_ok _)
    (onlyInvalid_finish args collectionListing)

lemma onlyInvalid_drops (now : Int64) : OnlyInvalid (drops args contract now) :=
  OnlyInvalid.bind ((Composer.onlyInvalid_apply (.drop {} now)).bind fun _ => onlyInvalid_ok _)
    (onlyInvalid_finish args dropListing)

lemma onlyInvalid_sales : OnlyInvalid (sales args contract) := by
  have offered (d : Draft) : OnlyInvalid (requireOffered args d) :=
    (onlyInvalid_orFault _).bind fun _ =>
      (Composer.onlyInvalid_apply (.attributes {})).bind fun sub => by
        split
        · exact onlyInvalid_orFault _
        · exact onlyInvalid_ok _
  exact OnlyInvalid.bind ((offered _).bind fun _ => onlyInvalid_ok _)
    (onlyInvalid_finish args saleListing)

end Search

/-! ### Errors leave no trace -/

/-- An edit comes to the same as a computation that makes one draft from another. It errs exactly
where its values are refused, whatever the draft, with an error of one kind, and the draft is then
as it was before. -/
structure ErrsExactly {α : Type} (m : Edit α) (f : Draft → Except Failure (α × Draft))
    (refused : Prop) (kind : Error → Prop) : Prop where
  performs : Edit.Performs m f
  errs_iff : ∀ d, (∃ e, (m d).1 = .error (.error e)) ↔ refused
  unchanged : ∀ {d e}, (m d).1 = .error (.error e) → kind e ∧ (m d).2 = d

namespace Edit

section ErrsExactly

variable {α : Type} {m : Edit α} {f : Draft → Except Failure (α × Draft)}

/-- An edit errs with what the computation it performs errs with. -/
lemma Performs.errs_with_iff (h : Performs m f) {d : Draft} {e : Error} :
    (m d).1 = .error (.error e) ↔ f d = .error (.error e) := by
  constructor
  · intro hm
    cases hf : f d with
    | ok made =>
      rw [h.ok hf] at hm
      cases hm
    | error failure =>
      cases failure with
      | error e' =>
        rw [h.error hf] at hm
        cases hm
        rfl
      | fault x =>
        rw [h.fault hf] at hm
        cases hm
  · intro hf
    rw [h.error hf]

/-- What is known of the computation's errors is known of the edit's. -/
theorem Performs.errsExactly (h : Performs m f) {refused : Prop} {kind : Error → Prop}
    (errs : ∀ d, (∃ e, f d = .error (.error e)) ↔ refused)
    (kinds : ∀ {d e}, f d = .error (.error e) → kind e) : ErrsExactly m f refused kind where
  performs := h
  errs_iff d := by simp only [h.errs_with_iff, errs]
  unchanged hm := by
    have hf := h.errs_with_iff.mp hm
    exact ⟨kinds hf, by rw [h.error hf]⟩

lemma errsExactly_change (f : Draft → Draft) :
    ErrsExactly (change f) (alone fun d => .ok (f d)) False fun _ => False :=
  (performs_change f).errsExactly (fun _ => by simp [alone, Except.map]) nofun

end ErrsExactly

/-! ### Tests of membership -/

variable {column : String} {v : Value}

lemma listFor_errs_iff :
    (∃ e, Draft.listFor column v = .error e) ↔ ∀ items, v ≠ .list items := by
  cases v <;> simp [Draft.listFor, Value.asList?]

lemma eq_inputShape_of_listFor {e : Error} (h : Draft.listFor column v = .error e) :
    e = .inputShape column v.kind := by
  unfold Draft.listFor at h
  split at h
  · cases h
  · cases h
    rfl

/-- What needs the items of a value errs where the value is not a list. -/
lemma Performs.errsExactly_of_list {α : Type} {m : Edit α}
    {f : Draft → Except Failure (α × Draft)} (h : Performs m f)
    (errs : ∀ {d e}, f d = .error (.error e) ↔ Draft.listFor column v = .error e) :
    ErrsExactly m f (∀ items, v ≠ .list items) (· = .inputShape column v.kind) :=
  h.errsExactly (fun _ => by simp only [errs, listFor_errs_iff]) fun hf =>
    eq_inputShape_of_listFor (errs.mp hf)

theorem errsExactly_test (sense : Sense) :
    ErrsExactly (test column v sense) (fun d => orError (d.test? column v sense))
      (∀ items, v ≠ .list items) (· = .inputShape column v.kind) :=
  (performs_test sense).errsExactly_of_list <| by
    simp [Draft.test?]

theorem errsExactly_member :
    ErrsExactly (member column v) (alone fun d => orError (d.addMember? column v))
      (∀ items, v ≠ .list items) (· = .inputShape column v.kind) :=
  performs_member.errsExactly_of_list <| by
    simp [alone, Draft.addMember?]

theorem errsExactly_nonMember (orNull : Bool) :
    ErrsExactly (nonMember column v orNull)
      (alone fun d => orError (d.addNonMember? column v orNull))
      (∀ items, v ≠ .list items) (· = .inputShape column v.kind) :=
  (performs_nonMember orNull).errsExactly_of_list <| by
    simp [alone, Draft.addNonMember?]

end Edit

theorem Composer.errsExactly (args : Arguments) (composer : Composer) :
    ErrsExactly (composer.edit args) (alone fun d => composer.apply args d)
      (composer.Refuses args) (fun e => e.isInvalidArgument = true) :=
  (composer.performs_edit args).errsExactly
    (fun d => by simp only [alone, Outcome.map_eq_error, composer.apply_errs_iff])
    fun h => composer.onlyInvalid_apply _ (Outcome.map_eq_error.mp h)

theorem Criterion.errsExactly_apply (criterion : Criterion) (column : String) :
    ErrsExactly (criterion.edit column) (alone fun d => .ok (criterion.apply d column)) False
      fun _ => False := by
  rw [criterion.edit_eq]
  exact errsExactly_change _

theorem Criterion.errsExactly_exclude (criterion : Criterion) (column : String) (orNull : Bool) :
    ErrsExactly (criterion.editExclude column orNull)
      (alone fun d => .ok (criterion.exclude d column orNull)) False fun _ => False := by
  rw [criterion.editExclude_eq]
  exact errsExactly_change _

/-- Filters and membership tests err exactly where they cannot read their values, whatever the
draft, and leave the draft as it was; criteria never err. A search errs with nothing but an argument
that was refused. -/
theorem errors_exact (args : Arguments) :
    (∀ composer : Composer,
      ErrsExactly (composer.edit args) (alone fun d => composer.apply args d)
        (composer.Refuses args) (fun e => e.isInvalidArgument = true)) ∧
    (∀ (criterion : Criterion) (column : String),
      ErrsExactly (criterion.edit column) (alone fun d => .ok (criterion.apply d column)) False
        fun _ => False) ∧
    (∀ (criterion : Criterion) (column : String) (orNull : Bool),
      ErrsExactly (criterion.editExclude column orNull)
        (alone fun d => .ok (criterion.exclude d column orNull)) False fun _ => False) ∧
    (∀ (column : String) (v : Value) (sense : Sense),
      ErrsExactly (test column v sense) (fun d => orError (d.test? column v sense))
        (∀ items, v ≠ .list items) (· = .inputShape column v.kind)) ∧
    (∀ (column : String) (v : Value),
      ErrsExactly (member column v) (alone fun d => orError (d.addMember? column v))
        (∀ items, v ≠ .list items) (· = .inputShape column v.kind)) ∧
    (∀ (column : String) (v : Value) (orNull : Bool),
      ErrsExactly (nonMember column v orNull)
        (alone fun d => orError (d.addNonMember? column v orNull))
        (∀ items, v ≠ .list items) (· = .inputShape column v.kind)) ∧
    ∀ (contract : String) (now : Int64),
      OnlyInvalid (Search.assets args contract) ∧ OnlyInvalid (Search.collections args contract) ∧
        OnlyInvalid (Search.drops args contract now) ∧ OnlyInvalid (Search.sales args contract) :=
  ⟨Composer.errsExactly args, Criterion.errsExactly_apply, Criterion.errsExactly_exclude,
    fun _ _ => errsExactly_test, fun _ _ => errsExactly_member,
    fun _ _ => errsExactly_nonMember, fun contract now =>
      ⟨Search.onlyInvalid_assets args contract, Search.onlyInvalid_collections args contract,
        Search.onlyInvalid_drops args contract now, Search.onlyInvalid_sales args contract⟩⟩

/-- A number that is none, and a state that is unknown after one that is known. -/
def unread : Arguments :=
  .ofList [("immutable_data:number.level", .text "abc"), ("state", .text "active,gone")]

theorem errors_exact_unread :
    (∃ e, ((Composer.attributes {}).edit unread (.ofBase "SELECT")) =
      (.error (.error e), .ofBase "SELECT") ∧ e.isInvalidArgument = true) ∧
    (∃ e, ((Composer.drop {} 1000).edit unread (.ofBase "SELECT")) =
      (.error (.error e), .ofBase "SELECT") ∧ e.isInvalidArgument = true) ∧
    member "owner" (.int 5) (.ofBase "SELECT") =
      (.error (.error (.inputShape "owner" "int")), .ofBase "SELECT") ∧
    OnlyInvalid (Search.drops unread "eosio" 1000) := by
  obtain ⟨composers, -, -, -, members, -, searches⟩ := errors_exact unread
  refine ⟨?_, ?_, ?_, (searches "eosio" 1000).2.2.1⟩
  · have exact := composers (.attributes {})
    have misread : Attributes.Refuses unread :=
      ⟨⟨.immutableData, some "number", "level"⟩, .text "abc", ⟨by decide, by decide⟩, rfl,
        "number", rfl, .inr (.inr (.inl ⟨rfl, rfl⟩))⟩
    obtain ⟨e, he⟩ := (exact.errs_iff (.ofBase "SELECT")).mpr misread
    obtain ⟨kind, same⟩ := exact.unchanged he
    exact ⟨e, Prod.ext he same, kind⟩
  · have exact := composers (.drop {} 1000)
    have unknown : DropState.Refuses unread :=
      ⟨.text "gone", .tail _ (.head _), fun state => by cases state <;> simp [DropState.name]⟩
    obtain ⟨e, he⟩ := (exact.errs_iff (.ofBase "SELECT")).mpr unknown
    obtain ⟨kind, same⟩ := exact.unchanged he
    exact ⟨e, Prod.ext he same, kind⟩
  · have exact := members "owner" (.int 5)
    obtain ⟨e, he⟩ := (exact.errs_iff (.ofBase "SELECT")).mpr nofun
    obtain ⟨rfl, same⟩ := exact.unchanged he
    exact Prod.ext he same

end BoundQuery
