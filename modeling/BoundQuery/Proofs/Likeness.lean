import BoundQuery.Proofs.Equations
import BoundQuery.Proofs.FilledCondition
import BoundQuery.Proofs.SelfEquality

/-!
# Likeness

A likeness says which values may stand in place of each other, and whether what is done with them
has to fail alike. Drafts are alike when they have the same parts and their values are alike one by
one. A placeholder is handed out by position, so steps that bind one value in place of another keep
drafts alike, and alike drafts have the same text. Two likenesses matter: any values may stand for
each other, where lists are only tested in the same form; or the values are congruent, and then
failures are the same. Main statement: `Draft.Alike.fold`.
-/
namespace BoundQuery

/-! ### Values -/

/-- Lists for which the same form of membership test is written. -/
structure Membership.Interchangeable (values others : List Value) : Prop where
  length_eq : values.length = others.length
  type_eq : unnestThreshold < values.length → ArrayType.infer values = ArrayType.infer others

open BoundQuery.Membership (Interchangeable)

instance (values others : List Value) : Decidable (Interchangeable values others) :=
  decidable_of_iff (values.length = others.length ∧
      (Membership.unnestThreshold < values.length →
        Membership.ArrayType.infer values = Membership.ArrayType.infer others))
    ⟨fun h => ⟨h.1, h.2⟩, fun h => ⟨h.1, h.2⟩⟩

namespace Membership.Interchangeable

variable {vs ws : List Value}

theorem refl (vs : List Value) : Interchangeable vs vs := ⟨rfl, fun _ => rfl⟩

/-- The same test is chosen. -/
theorem choose_fst (h : Interchangeable vs ws) (next : Placeholder) :
    (Test.choose next vs).1 = (Test.choose next ws).1 := by
  have hlength := h.length_eq
  rcases vs with _ | ⟨v, _ | ⟨v', rest⟩⟩ <;> rcases ws with _ | ⟨w, _ | ⟨w', rest'⟩⟩
  case cons.cons.cons.cons =>
    by_cases few : (v :: v' :: rest).length ≤ unnestThreshold
    · simp only [Test.choose, ← hlength, if_pos few]
    · simp only [Test.choose, ← hlength, if_neg few, h.type_eq (by omega)]
  all_goals simp_all [Test.choose]

/-- As many values are bound for the test. -/
theorem length_bound (h : Interchangeable vs ws) : (bound vs).length = (bound ws).length := by
  have hlength := h.length_eq
  rcases vs with _ | ⟨v, _ | ⟨v', rest⟩⟩ <;> rcases ws with _ | ⟨w, _ | ⟨w', rest'⟩⟩
  all_goals simp_all [bound]

end Membership.Interchangeable

/-- A relation between values that the choice of a text and the comparison of values with
themselves cannot see through. -/
structure Value.Congruence (R : Value → Value → Prop) : Prop where
  refl : ∀ v, R v v
  list : ∀ {vs ws}, List.Forall₂ R vs ws → R (.list vs) (.list ws)
  isIntegerLike_eq : ∀ {v w}, R v w → v.isIntegerLike = w.isIntegerLike
  hasNaN_eq : ∀ {v w}, R v w → v.hasNaN = w.hasNaN

/-- Equal values are congruent. -/
theorem Value.congruence_eq : Value.Congruence Eq where
  refl _ := rfl
  list h := by
    rw [List.forall₂_eq_eq_eq] at h
    rw [h]
  isIntegerLike_eq h := by rw [h]
  hasNaN_eq h := by rw [h]

namespace Value.Congruence

variable {R : Value → Value → Prop} {vs ws : List Value}

theorem refls (hR : Congruence R) (vs : List Value) : List.Forall₂ R vs vs :=
  List.forall₂_same.mpr fun v _ => hR.refl v

theorem all_isIntegerLike_eq (hR : Congruence R) (h : List.Forall₂ R vs ws) :
    vs.all Value.isIntegerLike = ws.all Value.isIntegerLike := by
  induction h with
  | nil => rfl
  | cons hv _ ih => rw [List.all_cons, List.all_cons, hR.isIntegerLike_eq hv, ih]

/-- Related lists are cast to the same type of array. -/
theorem interchangeable (hR : Congruence R) (h : List.Forall₂ R vs ws) : Interchangeable vs ws where
  length_eq := h.length_eq
  type_eq _ := by
    rw [Membership.ArrayType.infer, Membership.ArrayType.infer, hR.all_isIntegerLike_eq h]

/-- A test binds related values for related lists. -/
theorem bound (hR : Congruence R) (h : List.Forall₂ R vs ws) :
    List.Forall₂ R (Membership.bound vs) (Membership.bound ws) := by
  rcases h with _ | ⟨hv, _ | ⟨hw, hrest⟩⟩
  · exact .nil
  · exact .cons hv .nil
  · exact .cons (hR.list (.cons hv (.cons hw hrest))) .nil

end Value.Congruence

/-- Which values may stand for each other, alone and as the items of a list, and whether failures
have to be the same. -/
structure Likeness where
  strict : Prop
  one : Value → Value → Prop
  many : List Value → List Value → Prop
  one_refl : ∀ v, one v v
  many_refl : ∀ vs, many vs vs
  interchangeable : ∀ {vs ws}, many vs ws → Interchangeable vs ws
  bound : ∀ {vs ws}, many vs ws → List.Forall₂ one (Membership.bound vs) (Membership.bound ws)
  hasNaN_eq : strict → ∀ {v w}, one v w → v.hasNaN = w.hasNaN
  any_of_loose : ¬ strict → ∀ v w, one v w

namespace Likeness

/-- Any values may stand for each other, and nothing is said of failures. -/
def loose : Likeness where
  strict := False
  one _ _ := True
  many := Interchangeable
  one_refl _ := trivial
  many_refl := .refl
  interchangeable h := h
  bound h := List.forall₂_iff_get.mpr ⟨h.length_bound, fun _ _ _ => trivial⟩
  hasNaN_eq h := h.elim
  any_of_loose _ _ _ := trivial

/-- Congruent values may stand for each other, and failures are the same. -/
def congruent {R : Value → Value → Prop} (hR : Value.Congruence R) : Likeness where
  strict := True
  one := R
  many := List.Forall₂ R
  one_refl := hR.refl
  many_refl := hR.refls
  interchangeable := hR.interchangeable
  bound := hR.bound
  hasNaN_eq _ _ _ := hR.hasNaN_eq
  any_of_loose h := absurd trivial h

/-- Only equal values stand for each other, and failures are the same. -/
def equal : Likeness := congruent Value.congruence_eq

variable {L : Likeness} {v w : Value} {vs ws : List Value}

lemma refls (L : Likeness) (vs : List Value) : List.Forall₂ L.one vs vs :=
  List.forall₂_same.mpr fun v _ => L.one_refl v

lemma isEmpty_eq (h : L.many vs ws) : vs.isEmpty = ws.isEmpty := by
  rw [Bool.eq_iff_iff, List.isEmpty_iff_length_eq_zero, List.isEmpty_iff_length_eq_zero,
    (L.interchangeable h).length_eq]

lemma anyNaN_eq (hs : L.strict) (h : List.Forall₂ L.one vs ws) :
    Value.anyNaN vs = Value.anyNaN ws := by
  induction h with
  | nil => rfl
  | cons hv _ ih => rw [Value.anyNaN_cons, Value.anyNaN_cons, L.hasNaN_eq hs hv, ih]

end Likeness

/-! ### Outcomes -/

/-- Two outcomes that fail alike, or succeed with related results. -/
inductive Outcome.Related {ε α β : Type} (S : α → β → Prop) : Except ε α → Except ε β → Prop
  | error (e : ε) : Related S (.error e) (.error e)
  | ok {a : α} {b : β} (h : S a b) : Related S (.ok a) (.ok b)

namespace Likeness

/-- Two outcomes that fail alike or succeed with related results; where failures do not matter, one
that fails is related to all others. -/
inductive Outcomes {ε α β : Type} (L : Likeness) (S : α → β → Prop) :
    Except ε α → Except ε β → Prop
  | ok {a : α} {b : β} (h : S a b) : Outcomes L S (.ok a) (.ok b)
  | error (e : ε) : Outcomes L S (.error e) (.error e)
  | left (h : ¬ L.strict) (e : ε) (y : Except ε β) : Outcomes L S (.error e) y
  | right (h : ¬ L.strict) (x : Except ε α) (e : ε) : Outcomes L S x (.error e)

namespace Outcomes

variable {ε α β γ δ : Type} {L : Likeness} {S : α → β → Prop} {T : γ → δ → Prop}

lemma refl {S : α → α → Prop} (h : ∀ a, S a a) (x : Except ε α) : L.Outcomes S x x := by
  cases x with
  | error e => exact .error e
  | ok a => exact .ok (h a)

/-- Where failures do not matter, the results are all there is to relate. -/
lemma of_results {x : Except ε α} {y : Except ε β} (loose : ¬ L.strict)
    (h : ∀ a b, x = .ok a → y = .ok b → S a b) : L.Outcomes S x y := by
  cases x with
  | error e => exact .left loose e y
  | ok a =>
    cases y with
    | error e => exact .right loose _ e
    | ok b => exact .ok (h a b rfl rfl)

/-- What comes after related outcomes starts from related results. -/
theorem bind {x : Except ε α} {y : Except ε β} (h : L.Outcomes S x y) {f : α → Except ε γ}
    {g : β → Except ε δ} (h' : ∀ a b, x = .ok a → y = .ok b → S a b → L.Outcomes T (f a) (g b)) :
    L.Outcomes T (x >>= f) (y >>= g) := by
  cases h with
  | ok hab => exact h' _ _ rfl rfl hab
  | error e => exact .error e
  | left loose e y => exact .left loose e _
  | right loose x e => exact .right loose _ e

theorem map {x : Except ε α} {y : Except ε β} (h : L.Outcomes S x y) {f : α → γ} {g : β → δ}
    (h' : ∀ a b, S a b → T (f a) (g b)) : L.Outcomes T (x.map f) (y.map g) := by
  cases h with
  | ok hab => exact .ok (h' _ _ hab)
  | error e => exact .error e
  | left loose e y => exact .left loose e _
  | right loose x e => exact .right loose _ e

theorem imp {x : Except ε α} {y : Except ε β} (h : L.Outcomes S x y) {S' : α → β → Prop}
    (h' : ∀ a b, S a b → S' a b) : L.Outcomes S' x y := by
  cases h with
  | ok hab => exact .ok (h' _ _ hab)
  | error e => exact .error e
  | left loose e y => exact .left loose e y
  | right loose x e => exact .right loose x e

theorem mapError {ζ : Type} {x : Except ε α} {y : Except ε β} (h : L.Outcomes S x y) (f : ε → ζ) :
    L.Outcomes S (x.mapError f) (y.mapError f) := by
  cases h with
  | ok hab => exact .ok hab
  | error e => exact .error (f e)
  | left loose e y => exact .left loose (f e) _
  | right loose x e => exact .right loose _ (f e)

theorem orFault {x : Except Fault α} {y : Except Fault β} (h : L.Outcomes S x y) :
    L.Outcomes S (BoundQuery.orFault x) (BoundQuery.orFault y) := h.mapError Failure.fault

/-- Where failures matter, outcomes fail alike. -/
theorem related {x : Except ε α} {y : Except ε β} (h : L.Outcomes S x y) (hs : L.strict) :
    Outcome.Related S x y := by
  cases h with
  | ok hab => exact .ok hab
  | error e => exact .error e
  | left loose => exact absurd hs loose
  | right loose => exact absurd hs loose

theorem eq {x y : Except ε α} (h : L.Outcomes Eq x y) (hs : L.strict) : x = y := by
  cases h.related hs with
  | error e => rfl
  | ok hab => rw [hab]

/-- The results of related outcomes are related. -/
theorem results {a : α} {b : β} {x : Except ε α} {y : Except ε β} (h : L.Outcomes S x y)
    (hx : x = .ok a) (hy : y = .ok b) : S a b := by
  subst hx hy
  cases h with
  | ok hab => exact hab

end Outcomes

end Likeness

/-! ### Drafts -/

namespace Draft

/-- The same parts, and values that are alike one by one. -/
structure Alike (L : Likeness) (d e : Draft) : Prop where
  base : d.base = e.base
  conditions : d.conditions = e.conditions
  groups : d.groups = e.groups
  closing : d.closing = e.closing
  values : List.Forall₂ L.one d.params e.params

namespace Alike

variable {L : Likeness} {d e sub sub' : Draft}

theorem refl (d : Draft) : d.Alike L d := ⟨rfl, rfl, rfl, rfl, L.refls d.params⟩

theorem text (h : d.Alike L e) : d.text = e.text := by
  rw [Draft.text, Draft.text, h.base, h.conditions, h.groups, h.closing]

theorem next (h : d.Alike L e) : d.next = e.next := by
  rw [Draft.next, Draft.next, h.values.length_eq]

theorem bind (h : d.Alike L e) {v w : Value} (hv : L.one v w) :
    (d.bind v).2.Alike L (e.bind w).2 :=
  { h with values := List.rel_append h.values (.cons hv .nil) }

theorem add (h : d.Alike L e) {c c' : Condition} (hc : c = c') : (d.add c).Alike L (e.add c') :=
  { h with conditions := by rw [conditions_add, conditions_add, h.conditions, hc] }

theorem addComparison (h : d.Alike L e) (column : String) (comparison : Comparison) {v w : Value}
    (hv : L.one v w) :
    (d.addComparison column comparison v).Alike L (e.addComparison column comparison w) :=
  (h.bind hv).add (congrArg _ h.next)

theorem addJoin (h : d.Alike L e) (left right : String) (columns : List String) :
    (d.addJoin left right columns).Alike L (e.addJoin left right columns) :=
  { h with conditions := by rw [Draft.addJoin, Draft.addJoin, h.conditions] }

theorem addGroups (h : d.Alike L e) (columns : List String) :
    (d.addGroups columns).Alike L (e.addGroups columns) :=
  { h with groups := by rw [Draft.addGroups, Draft.addGroups, h.groups] }

theorem close (h : d.Alike L e) {t t' : SqlText} (ht : t = t') :
    (d.close t).Alike L (e.close t') :=
  { h with closing := by rw [Draft.close, Draft.close, h.closing, ht] }

theorem extendBase (h : d.Alike L e) (sql : String) :
    (d.extendBase sql).Alike L (e.extendBase sql) :=
  { h with base := by rw [Draft.extendBase, Draft.extendBase, h.base] }

theorem nested (h : d.Alike L e) (base : String) : (d.nested base).Alike L (e.nested base) :=
  ⟨rfl, rfl, rfl, rfl, h.values⟩

/-- Lists that may stand for each other are tested by the same condition. -/
theorem test (h : d.Alike L e) {vs ws : List Value} (hl : L.many vs ws) (column : String)
    (sense : Sense) :
    (d.test column vs sense).1 = (e.test column ws sense).1 ∧
      (d.test column vs sense).2.Alike L (e.test column ws sense).2 := by
  constructor
  · simp only [Draft.test, h.next, (L.interchangeable hl).choose_fst e.next]
  · have bound : List.Forall₂ L.one (Membership.Test.choose d.next vs).2
        (Membership.Test.choose e.next ws).2 := by
      rw [Membership.Test.choose_snd, Membership.Test.choose_snd]
      exact L.bound hl
    exact { h with values := List.rel_append h.values bound }

theorem addMember (h : d.Alike L e) {vs ws : List Value} (hl : L.many vs ws) (column : String) :
    (d.addMember column vs).Alike L (e.addMember column ws) := by
  obtain ⟨condition, bound⟩ := h.test hl column .allow
  exact bound.add condition

theorem addNonMember (h : d.Alike L e) {vs ws : List Value} (hl : L.many vs ws) (column : String)
    (orNull : Bool) :
    (d.addNonMember column vs orNull).Alike L (e.addNonMember column ws orNull) := by
  obtain ⟨condition, bound⟩ := h.test hl column .deny
  exact bound.add (congrArg (fun c => if orNull then c.orNull column else c) condition)

/-- The rows before the same page are the same; where failures do not matter, any rows may be. -/
lemma offset {page page' limit limit' : Int64} (hp : L.strict → page = page' ∧ limit = limit') :
    L.Outcomes (fun m n => L.one (.int m) (.int n)) (Draft.offset page limit)
      (Draft.offset page' limit') := by
  by_cases strict : L.strict
  · obtain ⟨rfl, rfl⟩ := hp strict
    exact .refl (fun n => L.one_refl (.int n)) _
  · exact .of_results strict fun _ _ _ _ => L.any_of_loose strict _ _

theorem paginate (h : d.Alike L e) {page page' limit limit' : Int64}
    (hp : L.strict → page = page' ∧ limit = limit') :
    L.Outcomes (Alike L) (d.paginate page limit) (e.paginate page' limit') := by
  have hl : L.one (.int limit) (.int limit') := by
    by_cases strict : L.strict
    · exact (hp strict).2 ▸ L.one_refl _
    · exact L.any_of_loose strict _ _
  have limited := h.bind hl
  have clause : ([.verbatim "LIMIT ", .placeholder d.next, .verbatim " OFFSET ",
        .placeholder (d.bind (.int limit)).2.next] : SqlText) =
      [.verbatim "LIMIT ", .placeholder e.next, .verbatim " OFFSET ",
        .placeholder (e.bind (.int limit')).2.next] := by rw [h.next, limited.next]
  exact (offset hp).map fun _ _ hr => (limited.bind hr).close clause

/-! ### Nested drafts -/

/-- Nested drafts go on from the values of alike drafts on both sides, or on neither. -/
theorem absorb (h : d.Alike L e) (hs : sub.Alike L sub') {more more' : List Value}
    (hd : sub.params = d.params ++ more) (he : sub'.params = e.params ++ more') :
    L.Outcomes (fun r r' => r.1 = r'.1 ∧ r.2.Alike L r'.2) (d.absorb sub) (e.absorb sub') := by
  rw [Draft.absorb, Draft.absorb, hd, he, startsWith_append_self, startsWith_append_self, ← hd,
    ← he]
  have folded : Condition.anyRow sub.text = .anyRow sub'.text ∧
      (d.adopt sub.params).Alike L (e.adopt sub'.params) :=
    ⟨by rw [hs.text], { h with values := hs.values }⟩
  by_cases strict : L.strict
  · rw [L.anyNaN_eq strict h.values]
    split
    · exact .ok folded
    · exact .error _
  · split
    · split
      · exact .ok folded
      · exact .right strict _ _
    · exact .left strict _ _

theorem fold (h : d.Alike L e) (hs : sub.Alike L sub') {more more' : List Value}
    (hd : sub.params = d.params ++ more) (he : sub'.params = e.params ++ more') :
    L.Outcomes (Alike L) (d.fold sub) (e.fold sub') :=
  (h.absorb hs hd he).map fun _ _ ⟨condition, folded⟩ => folded.add (congrArg _ condition)

end Alike

end Draft

end BoundQuery
