import BoundQuery.Proofs.Mentions
import BoundQuery.Proofs.TestForms

/-!
# Lists of names

Accounts, schemas and collections have names, in columns of texts. A test of a few names takes the
type of its parameter from the column, but an unnested list is cast to a type that is inferred from
the names: where all of them are decimals of integers it is cast to integers, which no server
compares with texts. Every other list means the same at every length. Main statement:
`Search.Kind.names_compared`.
-/
namespace BoundQuery

open FilledText (ofString)
open Contribution

/-! ### Tests of a column of texts -/

namespace Membership.Test

/-- The type of the elements of a test's parameter beside a column of texts: an unnested list has
the type it is cast to, any other parameter the type of the column. -/
def elementType : Test → ArrayType
  | .unnest _ _ type => type
  | _ => .text

/-- The truth of a test of a column of texts, where the server decides it: an integer is not
compared with a text. -/
def textTruth? (params : List Value) (held : Option String) (sense : Sense) (test : Test) :
    Option Truth :=
  match test.elementType with
  | .bigint => none
  | .text => some (test.truthBy Value.toText? params held sense)

variable {names : List String} {p : Placeholder} {params : List Value} {held : Option String}
  {sense : Sense}

lemma infer_eq_bigint {values : List Value} :
    ArrayType.infer values = .bigint ↔ ∀ v ∈ values, v.isIntegerLike = true := by
  rw [ArrayType.infer, ← List.all_eq_true]
  split <;> simp_all

/-- A test compares integers where its values are unnested and all of them are integers. -/
theorem elementType_choose (p : Placeholder) (values : List Value) :
    (choose p values).1.elementType = .bigint ↔
      unnestThreshold < values.length ∧ ∀ v ∈ values, v.isIntegerLike = true := by
  rcases values with _ | ⟨v, _ | ⟨w, rest⟩⟩
  · exact iff_of_false nofun fun h => absurd h.1 (by decide)
  · exact iff_of_false nofun fun h => absurd h.1 (by simp [unnestThreshold])
  · rw [choose_several]
    split
    next few => exact iff_of_false nofun fun h => absurd h.1 (by omega)
    next many =>
      have long : unnestThreshold < (v :: w :: rest).length := by omega
      rw [elementType, infer_eq_bigint, and_iff_right long]

theorem textTruth?_eq_none (test : Test) :
    test.textTruth? params held sense = none ↔ test.elementType = .bigint := by
  unfold textTruth?
  cases test.elementType <;> simp

lemma heldBy_names :
    Value.HeldBy Value.toText? (names.map .text) held ↔ ∃ name ∈ names, held = some name := by
  constructor
  · rintro ⟨x, hx, v, hmem, hv⟩
    obtain ⟨name, hname, rfl⟩ := List.mem_map.mp hmem
    obtain rfl := Option.some_injective _ hv
    exact ⟨name, hname, hx⟩
  · rintro ⟨name, hname, hx⟩
    exact ⟨name, hx, .text name, List.mem_map_of_mem hname, rfl⟩

end Membership.Test

/-! ### Conditions on names -/

namespace Search

/-- A list argument, and a column of texts that it is compared with; a deny list keeps nulls. -/
structure NameTest where
  argument : String
  column : String
  sense : Sense
  deriving DecidableEq

/-- A list of names that is taken for a list of integers: it is unnested, and each of its names is
the decimal of an integer. -/
def TakenForIntegers (names : List String) : Prop :=
  10 < names.length ∧ ∀ name ∈ names, (Decimal.int64? name).isSome = true

namespace NameTest

variable (t : NameTest) (p : Placeholder) (names : List String)

def test : Membership.Test := (Membership.Test.choose p (names.map .text)).1

/-- The condition on the column, whose parameter would be `p`. -/
def condition : Condition :=
  match t.sense with
  | .allow => .membership t.column .allow (test p names)
  | .deny => (Condition.membership t.column .deny (test p names)).orNull t.column

/-- The condition with the names in place. -/
def shown : FilledText :=
  match t.sense with
  | .allow => Membership.filled t.column .allow (names.map .text)
  | .deny => FilledText.group (Membership.filled t.column .deny (names.map .text)
      ++ ofString (" OR " ++ t.column ++ " IS NULL"))

/-- The values behind the placeholder. -/
def bound : List Value := Membership.bound (names.map .text)

/-- The truth of the condition at what the column holds, where the server decides it. -/
def truth? (params : List Value) (held : Option String) : Option Truth :=
  ((test p names).textTruth? params held t.sense).map fun truth =>
    match t.sense with
    | .allow => truth
    | .deny => truth.or (.ofBool held.isNone)

/-- The column holds one of the names, or, for a deny list, none of them. -/
def Passes (held : Option String) : Prop :=
  match t.sense with
  | .allow => ∃ name ∈ names, held = some name
  | .deny => ∀ name ∈ names, held ≠ some name

variable {t p names} {params : List Value} {held : Option String}

lemma shows_condition {m : Nat} (hm : m < p.ordinal)
    (hp : ∀ v ∈ bound names, p.value? params = some v) :
    (t.condition p names).text.Shows m params (t.shown names) := by
  have tested (sense : Sense) :
      (Condition.membership t.column sense (test p names)).text.Shows m params
        (Membership.filled t.column sense (names.map .text)) :=
    Membership.Test.shows_choose hm hp t.column sense
  obtain ⟨argument, column, _ | _⟩ := t
  · exact tested .allow
  · exact Condition.shows_orNull column (tested .deny)

/-- The server refuses to compare the column with names that are taken for integers. -/
theorem truth?_eq_none : t.truth? p names params held = none ↔ TakenForIntegers names := by
  rw [truth?, Option.map_eq_none_iff, Membership.Test.textTruth?_eq_none, test,
    Membership.Test.elementType_choose, List.length_map, List.forall_mem_map]
  rfl

/-- Names that are not taken for integers are compared as they are meant to be, at every length. -/
theorem truth?_eq_yes (hp : ∀ v ∈ bound names, p.value? params = some v) {truth : Truth}
    (h : t.truth? p names params held = some truth) : truth = .yes ↔ t.Passes names held := by
  have bound : ∀ v ∈ (Membership.Test.choose p (names.map .text)).2,
      p.value? params = some v := by
    rwa [Membership.Test.choose_snd]
  obtain ⟨decided, hdecided, rfl⟩ := Option.map_eq_some_iff.mp h
  rw [Membership.Test.textTruth?] at hdecided
  split at hdecided
  next => cases hdecided
  next =>
    cases hdecided
    obtain ⟨argument, column, _ | _⟩ := t
    · exact (Membership.Test.truthBy_allow_choose bound).trans Membership.Test.heldBy_names
    · have texts : ∀ v ∈ names.map Value.text, v.toText?.isSome = true :=
        List.forall_mem_map.mpr fun _ _ => rfl
      simp only [Truth.or_eq_yes, Truth.ofBool_eq_yes, Option.isNone_iff_eq_none, test, Passes]
      rw [Membership.Test.truthBy_deny_choose_or_null texts bound, Membership.Test.heldBy_names]
      push Not
      rfl

/-! ### Tests that are added -/

variable {args : Arguments}

open BoundQuery.Filter

/-- What a plan adds mentions the test of some names. -/
def AddedBy (t : NameTest) (names : List String) (p : Plan) : Prop :=
  p.contribution.Mentions (t.shown names) (bound names)

lemma AddedBy.first {p : Plan} (h : t.AddedBy names p) (q : Plan) : t.AddedBy names (p ++ q) :=
  h.before q.contribution

lemma AddedBy.rest {q : Plan} (h : t.AddedBy names q) (p : Plan) : t.AddedBy names (p ++ q) :=
  h.after p.contribution

/-- The argument is given, and it lists some names. -/
structure Given (t : NameTest) (args : Arguments) (names : List String) : Prop where
  nonempty : names ≠ []
  listed : args.list t.argument = names.map .text

lemma Given.values_ne_nil (h : t.Given args names) : names.map Value.text ≠ [] := by
  simpa using h.nonempty

lemma Given.not_isEmpty (h : t.Given args names) :
    (args.list t.argument).isEmpty = false := by
  rw [h.listed, List.isEmpty_eq_false_iff]
  exact h.values_ne_nil

/-- The test of one argument that is required of one column. -/
def required (name column : String) : NameTest := ⟨name, column, .allow⟩

lemma required_added {name column : String} (h : (required name column).Given args names) :
    (required name column).AddedBy names ((args.criterion name).plan column) := by
  have listed : args.list name = names.map .text := h.listed
  rw [AddedBy, Criterion.contribution_plan, Arguments.criterion, listed]
  exact Criterion.mentions_ofList h.values_ne_nil column

/-- The tests of the lists of accounts, for each of some columns. -/
def ofAccounts (columns : List String) : List NameTest :=
  columns.flatMap fun column =>
    [⟨"account_whitelist", column, .allow⟩, ⟨"account_blacklist", column, .deny⟩]

lemma allow_added {columns : List String} {column : String} (h : column ∈ columns) :
    (⟨"account_whitelist", column, .allow⟩ : NameTest).AddedBy names
      (.step (.anyMember (names.map .text) columns)) := by
  cases columns with
  | nil => cases h
  | cons first rest =>
    have listed : Membership.filled column .allow (names.map .text) ∈ (first :: rest).map
        fun column => Membership.filled column .allow (names.map .text) :=
      List.mem_map.mpr ⟨column, h, rfl⟩
    apply mentions_of (List.mem_singleton_self _)
    · exact (FilledText.infix_joinWith " OR " listed).trans (FilledText.infix_group _)
    · exact fun v hv => List.mem_flatMap.mpr ⟨column, h, hv⟩

lemma deny_added {columns : List String} {column : String} (h : column ∈ columns) :
    (⟨"account_blacklist", column, .deny⟩ : NameTest).AddedBy names
      (Plan.forEach (fun column => .op (.nonMember column (.list (names.map .text)) true))
        columns) := by
  induction columns with
  | nil => cases h
  | cons first rest ih =>
    rcases List.mem_cons.mp h with rfl | later
    · exact (mentions_of (List.mem_singleton_self _) (List.infix_refl _)
        (List.Subset.refl _)).before _
    · exact (ih later).rest _

lemma ofAccounts_added {columns : List String} (ht : t ∈ ofAccounts columns)
    (h : t.Given args names) (collection : Option String) :
    t.AddedBy names (Lists.plan args ⟨collection, columns⟩) := by
  obtain ⟨column, hcolumn, ht⟩ := List.mem_flatMap.mp ht
  have some_listed := h.not_isEmpty
  have listed := h.listed
  have asked : t.AddedBy names (Lists.onAccounts args columns) := by
    unfold Lists.onAccounts Plan.unlessEmpty
    rcases List.mem_pair.mp ht with rfl | rfl
    · rw [some_listed, listed]
      exact (allow_added hcolumn).rest _
    · rw [some_listed, listed]
      exact (deny_added hcolumn).first _
  exact asked.rest _

/-- The tests of the names of an asset. -/
def ofAsset : List NameTest :=
  ["owner", "schema_name", "collection_name"].map fun name => required name ("asset." ++ name)

lemma ofAsset_added (ht : t ∈ ofAsset) (h : t.Given args names) :
    t.AddedBy names (Asset.plan args {}) := by
  obtain ⟨name, hname, rfl⟩ := List.mem_map.mp ht
  have named : (required name ("asset." ++ name)).AddedBy names (Asset.named args {} name) :=
    required_added h
  have columns : (required name ("asset." ++ name)).AddedBy names (Asset.columns args {}) := by
    rcases List.mem_cons.mp hname with rfl | hname
    · exact named.first _
    · rcases List.mem_pair.mp hname with rfl | rfl
      · exact ((named.first _).rest _).rest _
      · exact (((named.first _).rest _).rest _).rest _
  exact (columns.first _).first _

/-- What is asked of an asset is asked of the assets on offer. -/
lemma ofAsset_offered (ht : t ∈ ofAsset) (h : t.Given args names) :
    t.AddedBy names (offered args) := by
  have asked : (described args).contribution.Mentions (t.shown names) (bound names) :=
    (ofAsset_added ht h).first _
  obtain ⟨c, hc, -⟩ := asked.condition
  have some_asked : (described args).contribution.conditions.isEmpty = false :=
    List.isEmpty_eq_false_iff.mpr (List.ne_nil_of_mem hc)
  rw [AddedBy, offered, Plan.contribution, some_asked]
  exact (asked.after correlation.contribution).hasRow offerBase

end NameTest

namespace Kind

variable {kind : Kind} {args : Arguments} {t : NameTest} {names : List String}

/-- The tests of names that a search makes, each where its argument is given. Of a sale, the asset
arguments are asked of the assets on offer. -/
def nameTests : Kind → List NameTest
  | .assets => NameTest.ofAsset ++ NameTest.ofAccounts ["asset.owner"]
  | .collections => NameTest.ofAsset
  | .drops _ => [.required "collection_name" "ndrop.collection_name"]
  | .sales => NameTest.required "seller" "listing.seller" :: .required "buyer" "listing.buyer" ::
      (NameTest.ofAsset ++ NameTest.ofAccounts ["listing.seller", "listing.buyer"])

lemma nameTests_added (contract : String) (ht : t ∈ kind.nameTests) (h : t.Given args names) :
    t.AddedBy names (kind.plan args contract) := by
  cases kind with
  | assets =>
    rcases List.mem_append.mp ht with ht | ht
    · exact ((NameTest.ofAsset_added ht h).first _).rest _
    · exact ((((NameTest.ofAccounts_added ht h _).first _).rest _).rest _).rest _
  | collections => exact ((NameTest.ofAsset_added ht h).first _).rest _
  | drops now =>
    obtain rfl := List.mem_singleton.mp ht
    have head : NameTest.AddedBy _ names (dropHead args contract) :=
      ((NameTest.required_added h).first _).rest _
    exact head.first _
  | sales =>
    rcases List.mem_cons.mp ht with rfl | ht
    · have head : NameTest.AddedBy _ names (saleHead args contract) :=
        (((NameTest.required_added h).first _).rest _).rest _
      exact head.first _
    rcases List.mem_cons.mp ht with rfl | ht
    · have head : NameTest.AddedBy _ names (saleHead args contract) :=
        ((((NameTest.required_added h).first _).rest _).rest _).rest _
      exact head.first _
    rcases List.mem_append.mp ht with ht | ht
    · exact ((NameTest.ofAsset_offered ht h).first _).rest _
    · exact (((NameTest.ofAccounts_added ht h _).first _).rest _).rest _

end Kind

/-! ### Tests that are asked for -/

/-- Both statements of a search have a condition on names as a part of their text, and what its
placeholder stands for among their values. -/
structure AsksFor (s : Search) (t : NameTest) (p : Placeholder) (names : List String) : Prop where
  items : (t.condition p names).text.filled s.items.params <:+: s.items.filled
  count : (t.condition p names).text.filled s.count.params <:+: s.count.filled
  itemsBound : ∀ v ∈ NameTest.bound names, p.value? s.items.params = some v
  countBound : ∀ v ∈ NameTest.bound names, p.value? s.count.params = some v

/-- Names are bound as one value. -/
lemma NameTest.exists_bound {names : List String} (hne : names ≠ []) :
    ∃ v, bound names = [v] := by
  rcases names with _ | ⟨x, _ | ⟨y, rest⟩⟩
  · exact absurd rfl hne
  · exact ⟨.text x, rfl⟩
  · exact ⟨_, rfl⟩

namespace Kind

variable {kind : Kind} {args : Arguments} {contract : String} {s : Search} {t : NameTest}
  {names : List String}

lemma exists_asksFor (h : kind.run args contract = .ok s) (ht : t ∈ kind.nameTests)
    (hg : t.Given args names) : ∃ p, s.AsksFor t p names := by
  obtain ⟨items, count, values, more, hmore⟩ := mentions_of_run h (nameTests_added contract ht hg)
  obtain ⟨v, single⟩ := NameTest.exists_bound hg.nonempty
  have member : v ∈ s.count.params := values (single ▸ List.mem_singleton_self v)
  obtain ⟨index, hindex⟩ := List.getElem?_of_mem member
  have countBound : ∀ w ∈ NameTest.bound names,
      (⟨index + 1⟩ : Placeholder).value? s.count.params = some w := by
    intro w hw
    rw [single, List.mem_singleton] at hw
    rw [hw, Placeholder.value?_succ, hindex]
  have itemsBound : ∀ w ∈ NameTest.bound names,
      (⟨index + 1⟩ : Placeholder).value? s.items.params = some w := by
    intro w hw
    rw [← hmore]
    exact Placeholder.value?_append more (countBound w hw)
  refine ⟨⟨index + 1⟩, ?_, ?_, itemsBound, countBound⟩
  · rwa [(NameTest.shows_condition (Nat.succ_pos index) itemsBound).filled]
  · rwa [(NameTest.shows_condition (Nat.succ_pos index) countBound).filled]

/-- A search asks for each of its tests of names that is given a list. The server refuses the test
where the names are taken for integers: more than ten of them, all decimals. All other lists are
compared as texts, with the same meaning at every length. -/
theorem names_compared (h : kind.run args contract = .ok s) (ht : t ∈ kind.nameTests)
    (hg : t.Given args names) :
    ∃ p, s.AsksFor t p names ∧ ∀ params ∈ [s.items.params, s.count.params],
      (TakenForIntegers names → ∀ held, t.truth? p names params held = none) ∧
      (¬ TakenForIntegers names → ∀ held, ∃ truth, t.truth? p names params held = some truth ∧
        (truth = .yes ↔ t.Passes names held)) := by
  obtain ⟨p, asks⟩ := exists_asksFor h ht hg
  refine ⟨p, asks, ?_⟩
  intro params hparams
  have bound : ∀ v ∈ NameTest.bound names, p.value? params = some v := by
    rcases List.mem_pair.mp hparams with rfl | rfl
    · exact asks.itemsBound
    · exact asks.countBound
  constructor
  · intro taken held
    exact NameTest.truth?_eq_none.mpr taken
  · intro untaken held
    have decided : t.truth? p names params held ≠ none := fun refused =>
      untaken (NameTest.truth?_eq_none.mp refused)
    obtain ⟨truth, htruth⟩ := Option.ne_none_iff_exists'.mp decided
    exact ⟨truth, htruth, NameTest.truth?_eq_yes bound htruth⟩

/-- The decimals of the first eleven positive numbers. -/
def elevenDecimals : List String := ["1", "2", "3", "4", "5", "6", "7", "8", "9", "10", "11"]

/-- Of eleven decimals as owners the test is refused; with a word in front of them it is passed by
that owner, and not by another. -/
theorem names_compared_eleven :
    (∃ s p, Kind.assets.run (.ofList [("owner", .list (elevenDecimals.map .text))]) "atomicassets" =
        .ok s ∧ s.AsksFor (.required "owner" "asset.owner") p elevenDecimals ∧
      ∀ held, NameTest.truth? (.required "owner" "asset.owner") p elevenDecimals s.items.params
        held = none) ∧
    ∃ s p, Kind.assets.run (.ofList [("owner", .list (("alice" :: elevenDecimals).map .text))])
        "atomicassets" = .ok s ∧
      s.AsksFor (.required "owner" "asset.owner") p ("alice" :: elevenDecimals) ∧
      NameTest.truth? (.required "owner" "asset.owner") p ("alice" :: elevenDecimals)
        s.items.params (some "alice") = some .yes ∧
      NameTest.truth? (.required "owner" "asset.owner") p ("alice" :: elevenDecimals)
        s.items.params (some "bob") ≠ some .yes := by
  have tested : NameTest.required "owner" "asset.owner" ∈ nameTests .assets := by decide
  constructor
  · obtain ⟨s, hs⟩ := Outcome.exists_of_isOk
      (x := Kind.assets.run (.ofList [("owner", .list (elevenDecimals.map .text))]) "atomicassets")
      (by decide +kernel)
    obtain ⟨p, asks, meaning⟩ := names_compared hs tested ⟨by decide, rfl⟩
    have taken : TakenForIntegers elevenDecimals := ⟨by decide, by decide +kernel⟩
    exact ⟨s, p, hs, asks, (meaning _ (by simp)).1 taken⟩
  · obtain ⟨s, hs⟩ := Outcome.exists_of_isOk
      (x := Kind.assets.run (.ofList [("owner", .list (("alice" :: elevenDecimals).map .text))])
        "atomicassets") (by decide +kernel)
    obtain ⟨p, asks, meaning⟩ := names_compared hs tested ⟨by decide, rfl⟩
    have untaken : ¬ TakenForIntegers ("alice" :: elevenDecimals) := by
      rintro ⟨-, decimals⟩
      exact absurd (decimals "alice" List.mem_cons_self) (by decide +kernel)
    have decided := (meaning s.items.params (by simp)).2 untaken
    refine ⟨s, p, hs, asks, ?_, ?_⟩
    · obtain ⟨truth, htruth, passes⟩ := decided (some "alice")
      rw [htruth, passes.mpr ⟨"alice", List.mem_cons_self, rfl⟩]
    · obtain ⟨truth, htruth, passes⟩ := decided (some "bob")
      rw [htruth]
      intro yes
      obtain ⟨name, hname, held⟩ := passes.mp (Option.some_injective _ yes)
      obtain rfl := Option.some_injective _ held
      exact absurd hname (by decide)

/-- The test that is refused. -/
example : SqlText.render ((NameTest.required "owner" "asset.owner").condition ⟨2⟩
    elevenDecimals).text =
      "EXISTS (SELECT FROM UNNEST($2::BIGINT[]) u(c) WHERE u.c = asset.owner)" := by
  decide +kernel

end Kind

end Search

end BoundQuery
