import BoundQuery.Proofs.Plans
import BoundQuery.Proofs.SelfEquality

/-!
# Plans that fold nested drafts

A nested draft starts from the values of its parent, so folding it back compares those values with
themselves. That fails exactly where a NaN is among them, whatever the nested draft bound after
them. What a plan adds is therefore described by two facts, whether it binds a NaN and whether it
adds a condition; and its runs by two more, whether it reads its arguments and whether it faults.
Main statement: `Plan.Faults.append`.
-/
namespace BoundQuery

open Draft Contribution

/-! ### What is added -/

namespace Contribution

/-- A contribution binds a NaN where `nan` holds, and it adds a condition where `asks` holds. -/
structure Adds (nan asks : Prop) (k : Contribution) : Prop where
  nan_iff : Value.anyNaN k.values = true ↔ nan
  asks_iff : k.conditions ≠ [] ↔ asks

variable {nan nan' asks asks' : Prop} {k k' : Contribution}

theorem Adds.congr (h : k.Adds nan asks) (hn : nan ↔ nan') (ha : asks ↔ asks') :
    k.Adds nan' asks' := by
  rwa [← propext hn, ← propext ha]

lemma adds_empty : Adds False False {} := ⟨by simp, by simp⟩

/-- One condition and the values it refers to. -/
lemma adds_one (t : FilledText) (values : List Value) :
    Adds (Value.anyNaN values = true) True { conditions := [t], values := values } :=
  ⟨Iff.rfl, by simp⟩

theorem Adds.append (h : k.Adds nan asks) (h' : k'.Adds nan' asks') :
    (k ++ k').Adds (nan ∨ nan') (asks ∨ asks') where
  nan_iff := by rw [values_append, Value.anyNaN_append, Bool.or_eq_true, h.nan_iff, h'.nan_iff]
  asks_iff := by
    rw [← h.asks_iff, ← h'.asks_iff, conditions_append, ne_eq, List.append_eq_nil_iff, not_and_or]

theorem Adds.hasRow (h : k.Adds nan asks) (base : String) : (k.hasRow base).Adds nan True :=
  ⟨h.nan_iff, by simp [Contribution.hasRow]⟩

/-- A membership test binds a NaN when there is one among its values. -/
lemma anyNaN_bound (values : List Value) :
    Value.anyNaN (Membership.bound values) = Value.anyNaN values := by
  rcases values with _ | ⟨v, _ | ⟨w, rest⟩⟩
  · rfl
  · rfl
  · simp [Membership.bound]

lemma adds_membership (column : String) (values : List Value) (sense : Sense) :
    (membership column values sense).Adds (Value.anyNaN values = true) True :=
  ⟨by rw [membership, anyNaN_bound], by simp [membership]⟩

lemma adds_orNull (column : String) (values : List Value) :
    (orNull column values).Adds (Value.anyNaN values = true) True :=
  ⟨by rw [orNull, anyNaN_bound], by simp [orNull]⟩

lemma adds_agreement (left right : String) {columns : List String} (h : columns ≠ []) :
    (agreement left right columns).Adds False True :=
  ⟨by simp [agreement], by simpa [agreement] using h⟩

end Contribution

namespace Draft

/-- A NaN is among the bound values. -/
def HasNaN (d : Draft) : Prop := Value.anyNaN d.params = true

variable {k : Contribution} {d e sub : Draft}

/-- A NaN is bound afterwards when one was bound before or is added. -/
theorem Gains.hasNaN_iff (h : Gains k d e) :
    e.HasNaN ↔ d.HasNaN ∨ Value.anyNaN k.values = true := by
  rw [HasNaN, h.params, Value.anyNaN_append, Bool.or_eq_true, HasNaN]

/-- There are more conditions afterwards when some are added. -/
theorem Gains.length_lt_iff (h : Gains k d e) :
    d.conditions.length < e.conditions.length ↔ k.conditions ≠ [] := by
  obtain ⟨more, hmore, hshown⟩ := h.conditions
  rw [hmore, List.length_append, hshown.length_eq, ne_eq, ← List.length_eq_zero_iff]
  omega

end Draft

/-! ### Outcomes -/

/-- An outcome is a fault where `faults` holds, and it is a success where it is no fault and `reads`
holds. The fault is that of a nested draft. -/
structure Outcome.Faults {α : Type} (x : Except Failure α) (reads faults : Prop) : Prop where
  fault_iff : ∀ f, x = .error (.fault f) ↔ f = .unseededSubquery ∧ faults
  ok_iff : (∃ a, x = .ok a) ↔ reads ∧ ¬ faults

namespace Outcome

variable {α β : Type} {x : Except Failure α} {reads reads' faults faults' : Prop}

lemma faults_ok (a : α) : Faults (.ok a) True False :=
  ⟨by simp, by simp⟩

lemma Faults.congr (h : Faults x reads faults) (hr : reads ↔ reads') (hf : faults ↔ faults') :
    Faults x reads' faults' := by
  rwa [← propext hr, ← propext hf]

/-- What is done with the outcome faults where the outcome does and, if it is a success, where it
faults itself. -/
theorem Faults.bind (h : Faults x reads faults) {next : α → Except Failure β}
    (h' : ∀ a, x = .ok a → Faults (next a) reads' faults') :
    Faults (x >>= next) (reads ∧ reads') (faults ∨ reads ∧ faults') where
  fault_iff f := by
    rw [bind_eq_error, h.fault_iff]
    constructor
    · rintro (⟨rfl, hf⟩ | ⟨a, ha, hnext⟩)
      · exact ⟨rfl, .inl hf⟩
      · obtain ⟨rfl, hf⟩ := (h' a ha).fault_iff f |>.mp hnext
        exact ⟨rfl, .inr ⟨(h.ok_iff.mp ⟨a, ha⟩).1, hf⟩⟩
    · rintro ⟨rfl, hf⟩
      by_cases first : faults
      · exact .inl ⟨rfl, first⟩
      · obtain ⟨hreads, hf⟩ := hf.resolve_left first
        obtain ⟨a, ha⟩ := h.ok_iff.mpr ⟨hreads, first⟩
        exact .inr ⟨a, ha, ((h' a ha).fault_iff _).mpr ⟨rfl, hf⟩⟩
  ok_iff := by
    constructor
    · rintro ⟨b, hb⟩
      obtain ⟨a, ha, hnext⟩ := bind_eq_ok.mp hb
      have first := h.ok_iff.mp ⟨a, ha⟩
      have second := (h' a ha).ok_iff.mp ⟨b, hnext⟩
      tauto
    · rintro ⟨⟨hreads, hreads'⟩, none⟩
      obtain ⟨a, ha⟩ := h.ok_iff.mpr ⟨hreads, fun hf => none (.inl hf)⟩
      obtain ⟨b, hb⟩ := (h' a ha).ok_iff.mpr ⟨hreads', fun hf => none (.inr ⟨hreads, hf⟩)⟩
      exact ⟨b, bind_eq_ok.mpr ⟨a, ha, hb⟩⟩

end Outcome

/-- Absorbing a nested draft fails exactly when a NaN is bound in its parent. -/
theorem Draft.faults_absorb {d sub : Draft} {more : List Value}
    (h : sub.params = d.params ++ more) (wrap : Condition × Draft → Draft) :
    Outcome.Faults (orFault ((d.absorb sub).map wrap)) True d.HasNaN := by
  rw [absorb, h, startsWith_append_self, HasNaN]
  cases Value.anyNaN d.params with
  | false => exact (Outcome.faults_ok _).congr Iff.rfl (by simp)
  | true =>
    exact {
      fault_iff := fun f => by simp [Except.map, eq_comm]
      ok_iff := by simp [Except.map] }

lemma Draft.Gains.faults_fold {k : Contribution} {base : String} {d sub : Draft}
    (h : Gains k (d.nested base) sub) : Outcome.Faults (orFault (d.fold sub)) True d.HasNaN := by
  have started : sub.params = d.params ++ k.values := h.params
  exact faults_absorb started _

/-! ### Plans -/

namespace Plan

/-- A plan faults where `faults` holds of a NaN being bound before it, and it succeeds where it does
not fault and `reads` holds; it binds a NaN where `nan` holds and adds a condition where `asks`
does. -/
structure Runs (reads : Prop) (faults : Prop → Prop) (nan asks : Prop) (p : Plan) : Prop where
  outcome : ∀ d, Outcome.Faults (p.run d) reads (faults d.HasNaN)
  adds : p.contribution.Adds nan asks

variable {p q : Plan} {d e : Draft} {reads reads' : Prop} {faults faults' : Prop → Prop}
  {nan nan' asks asks' : Prop}

namespace Runs

lemma hasNaN_iff (h : p.Runs reads faults nan asks) (he : p.run d = .ok e) :
    e.HasNaN ↔ d.HasNaN ∨ nan := by
  rw [(gains_run he).hasNaN_iff, h.adds.nan_iff]

lemma congr (h : p.Runs reads faults nan asks) (hr : reads ↔ reads')
    (hf : ∀ bound, faults bound ↔ faults' bound) (hn : nan ↔ nan') (ha : asks ↔ asks') :
    p.Runs reads' faults' nan' asks' :=
  ⟨fun d => (h.outcome d).congr hr (hf d.HasNaN), h.adds.congr hn ha⟩

/-- A plan that always succeeds. -/
lemma of_run {f : Draft → Draft} (h : ∀ d, p.run d = .ok (f d))
    (hk : p.contribution.Adds nan asks) : p.Runs True (fun _ => False) nan asks :=
  ⟨fun d => h d ▸ Outcome.faults_ok (f d), hk⟩

lemma skip : skip.Runs True (fun _ => False) False False := of_run (fun _ => rfl) adds_empty

lemma stop (e : Error) : (stop e).Runs False (fun _ => False) False False :=
  ⟨fun _ => ⟨by simp [run], by simp [run]⟩, adds_empty⟩

/-- What comes after a plan finds the NaN that the plan bound. -/
theorem append (h : p.Runs reads faults nan asks) (h' : q.Runs reads' faults' nan' asks') :
    (p ++ q).Runs (reads ∧ reads') (fun bound => faults bound ∨ reads ∧ faults' (bound ∨ nan))
      (nan ∨ nan') (asks ∨ asks') where
  outcome d := (h.outcome d).bind fun e he => by
    rw [← h.hasNaN_iff he]
    exact h'.outcome e
  adds := h.adds.append h'.adds

/-- A nested statement that a plan makes is folded back after the plan. -/
theorem hasRow (h : p.Runs reads faults nan asks) (base : String) :
    (hasRow base p).Runs reads (fun bound => faults bound ∨ reads ∧ bound) nan True where
  outcome d :=
    ((h.outcome (d.nested base)).bind fun _ hsub => (gains_run hsub).faults_fold).congr
      (and_iff_left trivial) Iff.rfl
  adds := h.adds.hasRow base

/-- A nested statement is folded back where a second plan adds a condition to the first. -/
theorem rowIfAsked (h : p.Runs reads faults nan asks) (h' : q.Runs reads' faults' nan' asks')
    (base : String) :
    (rowIfAsked base p q).Runs (reads ∧ reads')
      (fun bound => faults bound ∨ reads ∧ (faults' (bound ∨ nan) ∨ reads' ∧ asks' ∧ bound))
      (asks' ∧ (nan ∨ nan')) asks' where
  outcome d := by
    have folded {started sub : Draft} (hs : p.run (d.nested base) = .ok started)
        (hq : q.run started = .ok sub) :
        Outcome.Faults (if started.conditions.length < sub.conditions.length
          then orFault (d.fold sub) else .ok d) True (asks' ∧ d.HasNaN) := by
      have longer := (gains_run hq).length_lt_iff.trans h'.adds.asks_iff
      by_cases asked : asks'
      · rw [if_pos (longer.mpr asked)]
        exact ((gains_run hs).trans (gains_run hq)).faults_fold.congr Iff.rfl
          (and_iff_right asked).symm
      · rw [if_neg (mt longer.mp asked)]
        exact (Outcome.faults_ok d).congr Iff.rfl (by simp [asked])
    refine (h.outcome (d.nested base)).bind fun started hs => ?_
    have bound : started.HasNaN ↔ (d.nested base).HasNaN ∨ nan := h.hasNaN_iff hs
    have parent : (d.nested base).HasNaN ↔ d.HasNaN := Iff.rfl
    rw [← parent, ← bound]
    exact ((h'.outcome started).bind fun sub hq => folded hs hq).congr
      (and_iff_left trivial) Iff.rfl
  adds := by
    rw [contribution]
    by_cases asked : asks'
    · rw [if_neg (by simpa using h'.adds.asks_iff.mpr asked)]
      exact ((h.adds.append h'.adds).hasRow base).congr (by simp [asked]) (by simp [asked])
    · rw [if_pos (by simpa using mt h'.adds.asks_iff.mp asked)]
      exact adds_empty.congr (by simp [asked]) (by simp [asked])

variable {α : Type} {plan : α → Plan}

lemma forSome {nan : α → Prop} (h : ∀ a, (plan a).Runs True faults (nan a) True) (o : Option α) :
    (forSome plan o).Runs True (fun bound => o.isSome = true ∧ faults bound)
      (∃ a, o = some a ∧ nan a) (o.isSome = true) := by
  cases o with
  | none => exact skip.congr Iff.rfl (by simp) (by simp) (by simp)
  | some a => exact (h a).congr Iff.rfl (by simp) (by simp) (by simp)

lemma forRead {faults : α → Prop → Prop} {asks : α → Prop}
    (h : ∀ a, (plan a).Runs True (faults a) False (asks a)) (x : Except Error α) :
    (forRead plan x).Runs (∃ a, x = .ok a) (fun bound => ∃ a, x = .ok a ∧ faults a bound) False
      (∃ a, x = .ok a ∧ asks a) := by
  cases x with
  | error e => exact (stop e).congr (by simp) (by simp) Iff.rfl (by simp)
  | ok a => exact (h a).congr (by simp) (by simp) Iff.rfl (by simp)

lemma forEach (h : ∀ a, (plan a).Runs True id False True) (items : List α) :
    (forEach plan items).Runs True (fun bound => items ≠ [] ∧ bound) False (items ≠ []) := by
  induction items with
  | nil => exact skip.congr Iff.rfl (by simp) Iff.rfl (by simp)
  | cons a items ih => exact ((h a).append ih).congr (by simp) (by simp) (by simp) (by simp)

lemma unlessEmpty {plan : List α → Plan} (h : ∀ items, (plan items).Runs True faults False True)
    (items : List α) :
    (unlessEmpty plan items).Runs True (fun bound => items ≠ [] ∧ faults bound) False
      (items ≠ []) := by
  cases items with
  | nil => exact skip.congr Iff.rfl (by simp) Iff.rfl (by simp)
  | cons a items => exact (h (a :: items)).congr Iff.rfl (by simp) Iff.rfl (by simp)

end Runs

/-! ### Plans that always succeed -/

lemma adds_forSome {α : Type} {plan : α → Plan} (nan : α → Prop)
    (h : ∀ a, (plan a).contribution.Adds (nan a) True) (o : Option α) :
    (forSome plan o).contribution.Adds (∃ a, o = some a ∧ nan a) (o.isSome = true) := by
  cases o with
  | none => exact adds_empty.congr (by simp) (by simp)
  | some a => exact (h a).congr (by simp) (by simp)

/-- A plan for a list of values, if there are any. -/
lemma adds_unlessEmpty {plan : List Value → Plan}
    (h : ∀ values, (plan values).contribution.Adds (Value.anyNaN values = true) True)
    (values : List Value) :
    (unlessEmpty plan values).contribution.Adds (Value.anyNaN values = true) (values ≠ []) := by
  cases values with
  | nil => exact adds_empty.congr (by simp) (by simp)
  | cons v values => exact (h (v :: values)).congr Iff.rfl (by simp)

end Plan

end BoundQuery
