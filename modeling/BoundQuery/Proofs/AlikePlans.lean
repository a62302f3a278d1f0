import BoundQuery.Proofs.Likeness
import BoundQuery.Proofs.Plans

/-!
# Alike plans

Plans are alike when they make alike drafts of alike drafts. Steps that bind values in place of each
other are alike, and each way to put plans together keeps them alike, so filters need not be run to
be compared.
-/
namespace BoundQuery

open BoundQuery.Draft BoundQuery.Filter

namespace Filter.Lists

variable {L : Likeness} {d e : Draft} {vs ws : List Value}

/-- The tests of the columns are the same. -/
lemma alike_tests (h : d.Alike L e) (hl : L.many vs ws) (columns : List String) :
    (tests vs columns d).1 = (tests ws columns e).1 ∧
      (tests vs columns d).2.Alike L (tests ws columns e).2 := by
  induction columns generalizing d e with
  | nil => exact ⟨rfl, h⟩
  | cons column columns ih =>
    obtain ⟨condition, bound⟩ := h.test hl column .allow
    obtain ⟨conditions, tested⟩ := ih bound
    exact ⟨congrArg₂ List.cons condition conditions, tested⟩

/-- The same condition is made of the tests, or none where there are no columns. -/
lemma alike_allowAny (h : d.Alike L e) (hl : L.many vs ws) (columns : List String) :
    (allowAny vs columns d).Alike L (allowAny ws columns e) := by
  obtain ⟨conditions, tested⟩ := alike_tests h hl columns
  unfold allowAny
  generalize tests vs columns d = r at conditions tested
  generalize tests ws columns e = r' at conditions tested
  obtain ⟨found, d'⟩ := r
  obtain ⟨found', e'⟩ := r'
  obtain rfl : found = found' := conditions
  cases found with
  | nil => exact tested
  | cons first rest => exact tested.add rfl

end Filter.Lists

/-- A term that is bound in place of another is looked for in the same way. -/
lemma Filter.Attributes.alike_requireAnywhere {L : Likeness} {c : AssetColumns} {d e : Draft}
    (h : d.Alike L e) {t u : Term} (ht : L.one (objectOf [t]) (objectOf [u])) :
    L.Outcomes (Draft.Alike L) (requireAnywhere c d t) (requireAnywhere c e u) := by
  have bound := h.bind ht
  have nested := (bound.nested ("SELECT FROM " ++ templatesTable ++ " " ++ "any_template")).addJoin
    "any_template" c.asset ["contract", "template_id"]
  have asked := nested.add (congrArg
    (fun p => Condition.group (.contains "any_template.immutable_data" p)) h.next)
  apply (bound.absorb asked (List.append_nil _).symm (List.append_nil _).symm).map
  rintro ⟨row, d'⟩ ⟨row', e'⟩ ⟨same, folded⟩
  obtain rfl : row = row' := same
  exact folded.add (congrArg (fun p => Condition.group (.or
    (.or (.contains (c.asset ++ ".mutable_data") p) (.contains (c.asset ++ ".immutable_data") p))
    row)) h.next)

namespace Plan

/-- From alike drafts on, the plans make alike drafts. -/
def Alike (L : Likeness) (p q : Plan) : Prop :=
  ∀ ⦃d e : Draft⦄, d.Alike L e → L.Outcomes (Draft.Alike L) (p.run d) (q.run e)

namespace Alike

variable {L : Likeness} {p p' q q' : Plan} {v w : Value} {vs ws : List Value}

/-! ### Steps -/

/-- A plan that does nothing leaves alike drafts alike. -/
theorem skip : Plan.skip.Alike L .skip := fun _ _ h => .ok h

theorem stop (e : Error) : (Plan.stop e).Alike L (.stop e) := fun _ _ _ => .error _

/-- A value is compared in place of another. -/
theorem compare (column : String) (comparison : Comparison) (hv : L.one v w) :
    (op (.compare column comparison v)).Alike L (op (.compare column comparison w)) :=
  fun _ _ h => .ok (h.addComparison column comparison hv)

/-- A list is tested for in place of another. -/
theorem member (column : String) (hl : L.many vs ws) :
    (op (.member column (.list vs))).Alike L (op (.member column (.list ws))) :=
  fun _ _ h => .ok (h.addMember hl column)

theorem nonMember (column : String) (hl : L.many vs ws) (orNull : Bool) :
    (op (.nonMember column (.list vs) orNull)).Alike L (op (.nonMember column (.list ws) orNull)) :=
  fun _ _ h => .ok (h.addNonMember hl column orNull)

theorem nullCheck (column : String) (expected : Bool) :
    (op (.nullCheck column expected)).Alike L (op (.nullCheck column expected)) :=
  fun _ _ h => .ok (h.add rfl)

theorem join (left right : String) (columns : List String) :
    (op (.join left right columns)).Alike L (op (.join left right columns)) :=
  fun _ _ h => .ok (h.addJoin left right columns)

theorem groups (columns : List String) : (op (.groups columns)).Alike L (op (.groups columns)) :=
  fun _ _ h => .ok (h.addGroups columns)

theorem raw (sql : String) : (op (.raw sql)).Alike L (op (.raw sql)) := fun _ _ h => .ok (h.add rfl)

theorem extendBase (sql : String) : (op (.extendBase sql)).Alike L (op (.extendBase sql)) :=
  fun _ _ h => .ok (h.extendBase sql)

/-- The page need not be the same unless the outcomes are compared strictly. -/
theorem paginate {page page' limit limit' : Int64}
    (hp : L.strict → page = page' ∧ limit = limit') :
    (op (.paginate page limit)).Alike L (op (.paginate page' limit')) :=
  fun _ _ h => (h.paginate hp).orFault

/-- The same is asked of both values. -/
theorem about (ask : Ask) (hv : L.one v w) :
    (Plan.step (.about v ask)).Alike L (.step (.about w ask)) :=
  fun _ _ h => .ok ((h.bind hv).add (congrArg (ask.condition ·) h.next))

theorem anyMember (columns : List String) (hl : L.many vs ws) :
    (Plan.step (.anyMember vs columns)).Alike L (.step (.anyMember ws columns)) :=
  fun _ _ h => .ok (Lists.alike_allowAny h hl columns)

theorem anywhere (c : AssetColumns) {t u : Attributes.Term}
    (ht : L.one (Attributes.objectOf [t]) (Attributes.objectOf [u])) :
    (Plan.step (.anywhere c t)).Alike L (.step (.anywhere c u)) :=
  fun _ _ h => (Attributes.alike_requireAnywhere h ht).orFault

theorem order (keys : List OrderKey) : (Plan.step (.order keys)).Alike L (.step (.order keys)) :=
  fun _ _ h => .ok (h.close rfl)

/-! ### Plans that are put together -/

/-- What comes next goes on from alike drafts. -/
theorem append (hp : p.Alike L q) (hp' : p'.Alike L q') : (p ++ p').Alike L (q ++ q') :=
  fun _ _ h => (hp h).bind fun _ _ _ _ h' => hp' h'

/-- What a nested plan binds comes after the values of the draft it is nested in. -/
theorem hasRow (base : String) (hn : p.Alike L q) :
    (Plan.hasRow base p).Alike L (.hasRow base q) := by
  intro d e h
  apply (hn (h.nested base)).bind
  intro sub sub' hsub hsub' nested
  exact (h.fold nested (gains_run hsub).params (gains_run hsub').params).orFault

/-- Alike drafts have the same conditions, so both nested statements are folded back or neither. -/
theorem rowIfAsked (base : String) (hp : p.Alike L q) (hn : p'.Alike L q') :
    (Plan.rowIfAsked base p p').Alike L (.rowIfAsked base q q') := by
  intro d e h
  apply (hp (h.nested base)).bind
  intro started started' hstarted hstarted' correlated
  apply (hn correlated).bind
  intro sub sub' hsub hsub' nested
  rw [correlated.conditions, nested.conditions]
  split
  · have gained := ((gains_run hstarted).trans (gains_run hsub)).params
    have gained' := ((gains_run hstarted').trans (gains_run hsub')).params
    exact (h.fold nested gained gained').orFault
  · exact .ok h

section

variable {α β : Type} {S : α → β → Prop} {f : α → Plan} {g : β → Plan}

/-- A value is planned for in place of another. -/
theorem forSome (hf : ∀ a b, S a b → (f a).Alike L (g b)) {x : Option α} {y : Option β}
    (h : Option.Rel S x y) : (Plan.forSome f x).Alike L (Plan.forSome g y) := by
  cases h with
  | none => exact skip
  | some hab => exact hf _ _ hab

/-- The same value is planned for on both sides. -/
theorem forSome_same {g : α → Plan} (hf : ∀ a, (f a).Alike L (g a)) (x : Option α) :
    (Plan.forSome f x).Alike L (Plan.forSome g x) := by
  cases x with
  | none => exact skip
  | some a => exact hf a

/-- Alike readings are planned for; where one side errs and the other does not, nothing is asked of
the runs. -/
theorem forRead (hf : ∀ a b, S a b → (f a).Alike L (g b)) {x : Except Error α}
    {y : Except Error β} (h : L.Outcomes S x y) :
    (Plan.forRead f x).Alike L (Plan.forRead g y) := by
  cases h with
  | ok hab => exact hf _ _ hab
  | error e => exact stop e
  | left loose e => exact fun _ _ _ => .left loose (Failure.error e) _
  | right loose _ e => exact fun _ _ _ => .right loose _ (Failure.error e)

/-- The same is read on both sides. -/
theorem forRead_same {g : α → Plan} (hf : ∀ a, (f a).Alike L (g a)) (x : Except Error α) :
    (Plan.forRead f x).Alike L (Plan.forRead g x) := by
  cases x with
  | error e => exact stop e
  | ok a => exact hf a

/-- The items are planned for one in place of the other. -/
theorem forEach (hf : ∀ a b, S a b → (f a).Alike L (g b)) {items : List α} {others : List β}
    (h : List.Forall₂ S items others) :
    (Plan.forEach f items).Alike L (Plan.forEach g others) := by
  induction h with
  | nil => exact skip
  | cons hab _ ih => exact (hf _ _ hab).append ih

/-- The same items are planned for on both sides. -/
theorem forEach_same {g : α → Plan} (hf : ∀ a, (f a).Alike L (g a)) (items : List α) :
    (Plan.forEach f items).Alike L (Plan.forEach g items) := by
  induction items with
  | nil => exact skip
  | cons a _ ih => exact (hf a).append ih

/-- Both lists have items or neither has. -/
theorem unlessEmpty {f : List α → Plan} {g : List β → Plan} {items : List α} {others : List β}
    (he : items.isEmpty = others.isEmpty) (h : (f items).Alike L (g others)) :
    (Plan.unlessEmpty f items).Alike L (Plan.unlessEmpty g others) := by
  unfold Plan.unlessEmpty
  rw [he]
  split
  · exact skip
  · exact h

end

end Alike

end Plan

end BoundQuery
