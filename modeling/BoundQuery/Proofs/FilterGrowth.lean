import BoundQuery.Proofs.Plans

/-!
# Plans grow drafts

Every step of a plan lets a draft grow, as long as its texts hold no dollar sign and it closes
nothing; so every filter does, whatever the arguments are. The one exception is the filter of drop
states: it binds the instant even for a state whose condition does not mention it. Main statement:
`Plan.grows_run`.
-/
namespace BoundQuery

open Draft

namespace Filter

/-! ### Attributes -/

namespace Attributes

variable {c : AssetColumns}

lemma grows_templateOf (ha : Plain c.asset) {table : String} (ht : Plain table) (d : Draft) :
    (d.nested ("SELECT FROM " ++ templatesTable ++ " " ++ table)).Grows (templateOf c table d) :=
  grows_addJoin _ ht ha (by decide)

/-- A containment test, in parentheses. -/
lemma grows_bind_contains {column : String} (hcolumn : Plain column) (v : Value) (d : Draft) :
    d.Grows ((d.bind v).2.add (.group (.contains column d.next))) := by
  apply grows_bind_add
  · exact Condition.delimited_group (Condition.delimited_contains d.next hcolumn)
  · simp [Condition.text]
  · simp [Condition.text, next]

/-- The nested statement binds nothing and refers to the term bound before it. -/
lemma anywhereDraft_text (ha : Plain c.asset) (p : Placeholder) (d : Draft) :
    (anywhereDraft c p d).text.Delimited false ∧
      (anywhereDraft c p d).text.ordinals = [p.ordinal] := by
  have table : Plain "any_template" := by decide
  have joined := grows_templateOf ha table d
  obtain ⟨conditions, hconditions, hd, hn⟩ := joined.conditions
  have silent : (conditions.flatMap fun c => c.text.ordinals) = [] := hn.eq_nil
  have base : Plain ("SELECT FROM " ++ templatesTable ++ " " ++ "any_template") := by decide
  have added : (anywhereDraft c p d).conditions =
      conditions ++ [.group (.contains "any_template.immutable_data" p)] :=
    congrArg (· ++ _) hconditions
  constructor
  · apply delimited_text base
    · intro condition hm
      rw [added] at hm
      rcases List.mem_append.mp hm with hm | hm
      · exact hd condition hm
      · rw [List.mem_singleton.mp hm]
        exact Condition.delimited_group (Condition.delimited_contains p (by decide))
    · exact nofun
    · exact nofun
  · have no_closing : (anywhereDraft c p d).closing = [] := rfl
    rw [ordinals_text, added, no_closing, List.flatMap_append, silent]
    simp [Condition.text]

lemma anywhereCondition_text (ha : Plain c.asset) (p : Placeholder) (d : Draft) :
    (anywhereCondition c p d).text.Delimited false ∧
      (anywhereCondition c p d).text.ordinals = [p.ordinal, p.ordinal, p.ordinal] := by
  obtain ⟨hd, ho⟩ := anywhereDraft_text ha p d
  have row := Condition.delimited_anyRow hd
  constructor
  · exact Condition.delimited_group (Condition.delimited_or (Condition.delimited_or
      (Condition.delimited_contains p (ha.append (by decide)))
      (Condition.delimited_contains p (ha.append (by decide)))) row)
  · simp [anywhereCondition, Condition.text, ho]

theorem grows_requireAnywhere (ha : Plain c.asset) {d e : Draft} {t : Term}
    (h : requireAnywhere c d t = .ok e) : d.Grows e := by
  obtain ⟨-, rfl⟩ := requireAnywhere_eq_ok.mp h
  obtain ⟨hd, ho⟩ := anywhereCondition_text ha d.next (d.bind (objectOf [t])).2
  apply grows_bind_add d _ hd
  · simp [ho]
  · intro k hk
    rw [ho] at hk
    simpa [next] using hk

end Attributes

/-! ### Allow and deny lists -/

namespace Lists

variable {args : Arguments}

/-- Tests on several columns bind values of their own, in the order of the columns. -/
theorem tests_spec (values : List Value) {columns : List String}
    (h : ∀ column ∈ columns, Plain column) (d : Draft) :
    ∃ bound, (tests values columns d).2 = { d with params := d.params ++ bound } ∧
      (∀ c ∈ (tests values columns d).1, c.text.Delimited false) ∧
      Numbered d.params.length (d.params.length + bound.length)
        ((tests values columns d).1.flatMap fun c => c.text.ordinals) := by
  induction columns generalizing d with
  | nil => exact ⟨[], by simp [tests], by simp [tests], by simp [tests]⟩
  | cons column columns ih =>
    obtain ⟨first, hfirst, hd, hn⟩ := d.test_spec values .allow (h column List.mem_cons_self)
    obtain ⟨rest, hrest, hds, hns⟩ := ih (fun c hc => h c (List.mem_cons_of_mem column hc))
      (d.test column values .allow).2
    have both : (tests values (column :: columns) d) =
        ((d.test column values .allow).1 ::
          (tests values columns (d.test column values .allow).2).1,
          (tests values columns (d.test column values .allow).2).2) := rfl
    refine ⟨first ++ rest, ?_, ?_, ?_⟩
    · rw [both, hrest, hfirst, List.append_assoc]
    · intro c hc
      rw [both] at hc
      rcases List.mem_cons.mp hc with rfl | hc
      · exact hd
      · exact hds c hc
    · have count : (d.test column values .allow).2.params.length =
          d.params.length + first.length := by
        rw [hfirst, List.length_append]
      rw [count] at hns
      rw [both, List.flatMap_cons, List.length_append, ← Nat.add_assoc]
      exact hn.append hns

lemma grows_allowAny (values : List Value) {columns : List String}
    (h : ∀ column ∈ columns, Plain column) (d : Draft) :
    d.Grows (allowAny values columns d) := by
  obtain ⟨bound, hbound, hd, hn⟩ := tests_spec values h d
  unfold allowAny
  cases columns with
  | nil => exact Grows.refl d
  | cons column columns =>
    cases hr : tests values (column :: columns) d with
    | mk conditions e =>
      rw [hr] at hbound hd hn
      cases conditions with
      | nil => exact absurd (congrArg Prod.fst hr) (List.cons_ne_nil _ _)
      | cons first rest =>
        have he : e = { d with params := d.params ++ bound } := hbound
        rw [he]
        apply grows_of_bound_one d bound
        · exact Condition.delimited_group (Condition.delimited_anyOf hd)
        · rw [Condition.ordinals_group, Condition.ordinals_anyOf]
          exact hn

end Lists

/-! ### Drop states -/

/-- The columns of a drop filter hold no dollar sign. -/
structure DropColumns.Plain (c : DropColumns) : Prop where
  startTime : BoundQuery.Plain c.startTime
  endTime : BoundQuery.Plain c.endTime
  maxClaimable : BoundQuery.Plain c.maxClaimable
  currentClaimed : BoundQuery.Plain c.currentClaimed

namespace DropState

/-- How often the condition of a state mentions the instant. -/
def mentions : DropState → Nat
  | .created => 1
  | .active => 2
  | .soldOut => 0
  | .ended => 2

@[simp] theorem mentions_eq_zero {state : DropState} : state.mentions = 0 ↔ state = .soldOut := by
  cases state <;> simp [mentions]

theorem ordinals_condition (c : DropColumns) (now : Placeholder) (state : DropState) :
    (state.condition c now).text.ordinals = List.replicate state.mentions now.ordinal := by
  have silent : (remaining c).text.ordinals = [] := by
    simp [remaining, Condition.text, Operand.text]
  cases state with
  | created => simp [condition, mentions, silent]
  | active =>
    simp [condition, mentions, silent, started, Condition.text, Operand.text, List.replicate]
  | soldOut => simp [condition, mentions, Condition.text, Operand.text]
  | ended =>
    simp [condition, mentions, silent, started, Condition.text, Operand.text, List.replicate]

theorem delimited_condition {c : DropColumns} (hc : c.Plain) (now : Placeholder)
    (state : DropState) : (state.condition c now).text.Delimited false := by
  have zero : (Operand.number 0).Quiet := by
    have digits : Plain (toString 0) := by decide
    exact digits
  have started_delimited : (started c now).text.Delimited false :=
    Condition.delimited_compareTo now hc.startTime (by decide)
  have remaining_delimited : (remaining c).text.Delimited false :=
    Condition.delimited_group (Condition.delimited_or
      (Condition.delimited_compare hc.maxClaimable (by decide) zero)
      (Condition.delimited_compare hc.currentClaimed (by decide) hc.maxClaimable))
  cases state with
  | created =>
    exact Condition.delimited_and
      (Condition.delimited_compareTo now hc.startTime (by decide)) remaining_delimited
  | active =>
    have running : (Condition.group (.or (.compare (.column c.endTime) .eq (.number 0))
        (.compareTo c.endTime .gt now))).text.Delimited false :=
      Condition.delimited_group (Condition.delimited_or
        (Condition.delimited_compare hc.endTime (by decide) zero)
        (Condition.delimited_compareTo now hc.endTime (by decide)))
    exact Condition.delimited_and (Condition.delimited_and started_delimited running)
      remaining_delimited
  | soldOut =>
    exact Condition.delimited_and (Condition.delimited_compare hc.maxClaimable (by decide) zero)
      (Condition.delimited_compare hc.currentClaimed (by decide) hc.maxClaimable)
  | ended =>
    have timed : (Condition.compare (.column c.endTime) .gt (.number 0)).text.Delimited false :=
      Condition.delimited_compare hc.endTime (by decide) zero
    have past := Condition.delimited_compareTo now hc.endTime
      (by decide : Plain Comparison.le.symbol)
    exact Condition.delimited_and (Condition.delimited_and
      (Condition.delimited_and started_delimited timed) past) remaining_delimited

/-- The instant is mentioned as often as the states asked for mention it. -/
theorem ordinals_anyOf (c : DropColumns) (now : Placeholder) (first : DropState)
    (rest : List DropState) :
    (anyOf c now first rest).text.ordinals =
      (first :: rest).flatMap fun state => List.replicate state.mentions now.ordinal := by
  cases rest with
  | nil => simp [anyOf, ordinals_condition]
  | cons second rest =>
    have each (state : DropState) : (Condition.group (state.condition c now)).text.ordinals =
        List.replicate state.mentions now.ordinal := by
      rw [Condition.ordinals_group, ordinals_condition]
    have several : anyOf c now first (second :: rest) =
        .group (.anyOf (.group (first.condition c now))
          ((second :: rest).map fun state => .group (state.condition c now))) := rfl
    rw [several, Condition.ordinals_group, Condition.ordinals_anyOf, List.flatMap_cons,
      List.flatMap_map, each]
    simp only [each, List.flatMap_cons]

theorem delimited_anyOf {c : DropColumns} (hc : c.Plain) (now : Placeholder)
    (first : DropState) (rest : List DropState) :
    (anyOf c now first rest).text.Delimited false := by
  have each (state : DropState) :
      (Condition.group (state.condition c now)).text.Delimited false :=
    Condition.delimited_group (delimited_condition hc now state)
  cases rest with
  | nil => exact each first
  | cons second rest =>
    apply Condition.delimited_group
    apply Condition.delimited_anyOf
    intro condition hm
    rcases List.mem_cons.mp hm with rfl | hm
    · exact each first
    · obtain ⟨state, -, rfl⟩ := List.mem_map.mp hm
      exact each state

/-- States whose conditions mention the instant let a draft grow. -/
theorem grows_require {c : DropColumns} (hc : c.Plain) (now : Int64) {states : List DropState}
    (h : ∀ state ∈ states.head?, ∃ asked ∈ states, asked ≠ .soldOut) (d : Draft) :
    d.Grows (require c now states d) := by
  cases states with
  | nil => exact Grows.refl d
  | cons first rest =>
    obtain ⟨asked, hasked, hne⟩ := h first rfl
    apply grows_bind_add d (.int now) (delimited_anyOf hc d.next first rest)
    · rw [ordinals_anyOf]
      intro none
      have never := List.flatMap_eq_nil_iff.mp none asked hasked
      exact hne (mentions_eq_zero.mp (by simpa using never))
    · rw [ordinals_anyOf]
      intro k hk
      obtain ⟨state, -, hm⟩ := List.mem_flatMap.mp hk
      exact (List.mem_replicate.mp hm).2

end DropState

end Filter

/-! ### Plans -/

/-- A text that holds no dollar sign, closes nothing and asks for no state of drops. -/
def Place.Growing (t : Place × String) : Prop := Plain t.2 ∧ t.1 ≠ .closing ∧ t.1 ≠ .state

instance (t : Place × String) : Decidable (Place.Growing t) :=
  inferInstanceAs (Decidable (_ ∧ _))

variable {d e : Draft}

lemma Ask.grows_condition {ask : Ask} (h : ∀ t ∈ ask.texts, Place.Growing t) (v : Value)
    (d : Draft) : d.Grows ((d.bind v).2.add (ask.condition d.next)) := by
  cases ask with
  | contains column =>
    exact Filter.Attributes.grows_bind_contains (h (.name, column) (by simp [texts])).1 v d
  | authorizes =>
    apply grows_bind_add
    · exact Condition.delimited_group ⟨by decide, fun _ => by decide, trivial⟩
    · simp [condition]
    · simp [condition, next]
  | scaled c comparison =>
    have price := (h (.name, c.price) (by simp [texts])).1
    have precision := (h (.name, c.precision) (by simp [texts])).1
    have symbol := (h (.name, comparison.symbol) (by simp [texts])).1
    have space : Plain " " := by decide
    have power : Plain " * POWER(10, " := by decide
    have closed : Plain ")" := by decide
    apply grows_bind_add
    · refine Condition.delimited_group ⟨?_, by simp, ?_, fun _ => ?_, trivial⟩
      · simp [price, symbol, space]
      · simp [precision, power, closed]
      · exact opensApart_append (opensApart_append (by decide) _) _
    · simp [condition]
    · simp [condition, next]
  | inStates c first rest => exact absurd rfl (h (.state, c.startTime) (by simp [texts])).2.2

theorem Plan.Step.grows_perform {s : Plan.Step} (h : ∀ t ∈ s.texts, Place.Growing t)
    (hs : s.perform d = .ok e) : d.Grows e := by
  cases s with
  | op operation =>
    have plain : operation.Plain := Operation.plain_of_texts fun t ht => (h t ht).1
    exact Operation.grows_perform plain (fun t ht => (h t ht).2.1) hs
  | about v ask =>
    cases hs
    exact ask.grows_condition h v d
  | anyMember values columns =>
    cases hs
    exact Filter.Lists.grows_allowAny values
      (fun column hm => (h (.name, column) (List.mem_map_of_mem hm)).1) d
  | anywhere c t =>
    have asset : Plain c.asset :=
      (h (.name, c.asset) (by simp [texts, Filter.AssetColumns.rowTexts])).1
    exact Filter.Attributes.grows_requireAnywhere asset (Outcome.orFault_eq_ok.mp hs)
  | order keys => exact absurd rfl (h (.closing, "ORDER BY ") (.head _)).2.1

/-- A plan lets a draft grow where its texts do. -/
theorem Plan.grows_run {p : Plan} (h : ∀ t ∈ p.texts, Place.Growing t) (hp : p.run d = .ok e) :
    d.Grows e := by
  induction p generalizing d e with
  | skip =>
    cases hp
    exact Grows.refl d
  | stop _ => cases hp
  | step s => exact s.grows_perform h hp
  | seq first rest ihf ihr =>
    obtain ⟨d', hd', he⟩ := Outcome.bind_eq_ok.mp hp
    obtain ⟨hfirst, hrest⟩ := List.forall_mem_append.mp h
    exact (ihf hfirst hd').trans (ihr hrest he)
  | hasRow base nested ih =>
    obtain ⟨hbase, hnested⟩ := List.forall_mem_cons.mp h
    obtain ⟨sub, hsub, he⟩ := Outcome.bind_eq_ok.mp hp
    exact Grows.fold hbase.1 (ih hnested hsub) (Outcome.orFault_eq_ok.mp he)
  | rowIfAsked base start nested ihs ihn =>
    obtain ⟨hbase, hrest⟩ := List.forall_mem_cons.mp h
    obtain ⟨hstart, hnested⟩ := List.forall_mem_append.mp hrest
    obtain ⟨started, hstarted, hp⟩ := Outcome.bind_eq_ok.mp hp
    obtain ⟨sub, hsub, he⟩ := Outcome.bind_eq_ok.mp hp
    have grown := (ihs hstart hstarted).trans (ihn hnested hsub)
    split at he
    · exact Grows.fold hbase.1 grown (Outcome.orFault_eq_ok.mp he)
    · cases he
      exact Grows.refl d

end BoundQuery
