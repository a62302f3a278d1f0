import BoundQuery.Proofs.CommaLists
import BoundQuery.Proofs.Equations
import BoundQuery.Proofs.Precedence

/-!
# States of drops

A drop has one state at every instant. The conditions that the filter writes for the states tell
them apart: that of its own state is true of a drop, and the others are false. So the filter keeps a
drop exactly when the state of the drop is asked for, whichever way the states are listed.
Main statement: `Filter.drop_reads_state`.
-/
namespace BoundQuery

namespace Truth

@[simp] theorem ofBool_and (a b : Bool) : (ofBool a).and (ofBool b) = ofBool (a && b) := by
  cases a <;> cases b <;> rfl

@[simp] theorem ofBool_or (a b : Bool) : (ofBool a).or (ofBool b) = ofBool (a || b) := by
  cases a <;> cases b <;> rfl

lemma ofBool_congr {b : Bool} {P : Prop} [Decidable P] (h : b = true ↔ P) :
    ofBool b = ofBool (decide P) := by
  rw [Bool.eq_iff_iff.mpr (h.trans (decide_eq_true_iff (p := P)).symm)]

@[simp] theorem lift_some {α : Type} (holds : α → α → Bool) (a b : α) :
    lift holds (some a) (some b) = ofBool (holds a b) := rfl

end Truth

namespace Filter

/-! ### Rows -/

/-- What a drop says about its states. A time of zero is not set, and a maximum of zero is no
limit. -/
structure DropRow where
  start : Int
  stop : Int
  most : Int
  claimed : Int
  stop_nonneg : 0 ≤ stop
  most_nonneg : 0 ≤ most

namespace DropRow

/-- Every unit is claimed. -/
def Exhausted (row : DropRow) : Prop := row.most ≠ 0 ∧ row.most ≤ row.claimed

/-- The time of the drop is over. -/
def Over (row : DropRow) (now : Int) : Prop := row.stop ≠ 0 ∧ row.stop ≤ now

instance (row : DropRow) : Decidable row.Exhausted := inferInstanceAs (Decidable (_ ∧ _))

instance (row : DropRow) (now : Int) : Decidable (row.Over now) :=
  inferInstanceAs (Decidable (_ ∧ _))

/-- The state of a drop at an instant. A drop without a unit left is sold out whatever its times. -/
def state (row : DropRow) (now : Int) : DropState :=
  if row.Exhausted then .soldOut
  else if now < row.start then .created
  else if row.Over now then .ended
  else .active

/-- When each of the states is the state of a drop. -/
theorem state_eq_iff {row : DropRow} {now : Int} {state : DropState} :
    row.state now = state ↔
      match state with
      | .created => now < row.start ∧ ¬ row.Exhausted
      | .active => (row.start ≤ now ∧ ¬ row.Over now) ∧ ¬ row.Exhausted
      | .soldOut => row.Exhausted
      | .ended => (row.start ≤ now ∧ row.Over now) ∧ ¬ row.Exhausted := by
  unfold DropRow.state
  by_cases exhausted : row.Exhausted
  · cases state <;> simp [exhausted]
  · by_cases early : now < row.start
    · cases state <;> simp [exhausted, early]
    · by_cases past : row.Over now
      · cases state <;> simp [exhausted, early, past, Int.not_lt.mp early]
      · cases state <;> simp [exhausted, early, past, Int.not_lt.mp early]

/-- The columns of the filter hold what the drop says. -/
structure ShownBy (row : DropRow) (c : DropColumns) (i : Interpretation) : Prop where
  start : i.column c.startTime = some row.start
  stop : i.column c.endTime = some row.stop
  most : i.column c.maxClaimable = some row.most
  claimed : i.column c.currentClaimed = some row.claimed

end DropRow

namespace DropState

variable {c : DropColumns} {i : Interpretation} {p : Placeholder} {row : DropRow} {now : Int}

/-- The condition of a state is true of the drops that are in it, and false of all others. -/
theorem truth_condition (h : row.ShownBy c i) (hp : i.integer p = some now) (state : DropState) :
    (state.condition c p).truth i = .ofBool (decide (row.state now = state)) := by
  have hstop := row.stop_nonneg
  have hmost := row.most_nonneg
  cases state
  all_goals
    simp only [condition, remaining, started, Condition.compareTo, Condition.truth, Operand.value,
      h.start, h.stop, h.most, h.claimed, hp, Comparison.truth, Truth.lift_some, Truth.ofBool_and,
      Truth.ofBool_or]
    apply Truth.ofBool_congr
    simp only [DropRow.state_eq_iff, Bool.and_eq_true, Bool.or_eq_true, decide_eq_true_eq,
      beq_iff_eq, DropRow.Exhausted, DropRow.Over]
    omega

/-- Disjunctions stand in parentheses in the condition of a state. -/
lemma layered_condition (c : DropColumns) (p : Placeholder) (state : DropState) :
    (state.condition c p).Layered := by
  cases state <;> simp [condition, remaining, started, Condition.compareTo, Condition.Layered,
    Condition.IsDisjunction]

lemma layered_anyOf (c : DropColumns) (p : Placeholder) (first : DropState)
    (rest : List DropState) : (anyOf c p first rest).Layered := by
  have each (state : DropState) : (Condition.group (state.condition c p)).Layered :=
    layered_condition c p state
  cases rest with
  | nil => exact each first
  | cons second rest =>
    exact Condition.layered_anyOf (each first) (List.forall_mem_map.mpr fun state _ => each state)

/-- One of some conditions is met, none of which is unknown. -/
lemma truth_anyOf_map {α : Type} {f : α → Condition} {b : α → Bool}
    (h : ∀ x, (f x).truth i = .ofBool (b x)) {first : Condition} {met : Bool}
    (hfirst : first.truth i = .ofBool met) (rest : List α) :
    (Condition.anyOf first (rest.map f)).truth i = .ofBool (met || rest.any b) := by
  induction rest generalizing first met with
  | nil => simpa [Condition.anyOf] using hfirst
  | cons x rest ih =>
    have either : (Condition.or first (f x)).truth i = .ofBool (met || b x) := by
      rw [Condition.truth, hfirst, h, Truth.ofBool_or]
    have step : Condition.anyOf first ((x :: rest).map f) =
        Condition.anyOf (.or first (f x)) (rest.map f) := rfl
    rw [step, ih either, List.any_cons, Bool.or_assoc]

/-- One of some states is asked for where the drop is in one of them. -/
theorem truth_anyOf (h : row.ShownBy c i) (hp : i.integer p = some now) (first : DropState)
    (rest : List DropState) :
    (anyOf c p first rest).truth i = .ofBool (decide (row.state now ∈ first :: rest)) := by
  have each (state : DropState) : (Condition.group (state.condition c p)).truth i =
      .ofBool (decide (row.state now = state)) := truth_condition h hp state
  cases rest with
  | nil =>
    refine (each first).trans (Truth.ofBool_congr ?_)
    simp
  | cons second rest =>
    refine (truth_anyOf_map each (each first) (second :: rest)).trans (Truth.ofBool_congr ?_)
    simp

/-! ### The states asked for -/

/-- States are named by a list of texts, or by a text with commas between the names. Nothing between
two commas is no name. -/
def Name (v : Value) (named : List DropState) : Prop :=
  v = .list (named.map fun state => .text state.name) ∨
    ∃ items, v = .text (String.ofList ([','].intercalate items)) ∧
      items.filter (fun item => !item.isEmpty) = named.map fun state => state.name.toList

lemma not_comma_mem_name (state : DropState) : ',' ∉ state.name.toList := by
  cases state <;> decide

/-- The items of the value are the names. -/
theorem itemsOf_of_name {v : Value} {named : List DropState} (h : Name v named) :
    Arguments.itemsOf v = named.map fun state => .text state.name := by
  rcases h with rfl | ⟨items, rfl, hnames⟩
  · rfl
  · have parted : (splitCommas ([','].intercalate items)).filter (fun item => !item.isEmpty) =
        named.map fun state => state.name.toList := by
      by_cases hne : items = []
      · rw [← hnames, hne]
        rfl
      · rw [splitCommas_intercalate hne, hnames]
        intro item hm
        by_cases empty : item.isEmpty
        · rw [List.isEmpty_iff.mp empty]
          exact List.not_mem_nil
        · have kept : item ∈ items.filter fun item => !item.isEmpty :=
            List.mem_filter.mpr ⟨hm, by simpa using empty⟩
          rw [hnames] at kept
          obtain ⟨state, -, rfl⟩ := List.mem_map.mp kept
          exact not_comma_mem_name state
    rw [Arguments.itemsOf_text, String.toList_ofList, parted, List.map_map]
    simp [Function.comp_def]

end DropState

/-! ### The filter -/

/-- Conditions are read from the line that their text is made of. Those of the states are read as
telling the state of a drop. Where states are asked for, one condition is added, and it is read as
asking whether the state of the drop is among them. -/
theorem drop_reads_state (c : DropColumns) (now : Int64) (row : DropRow) :
    (∀ condition : Condition, condition.lexemes.flatMap Lexeme.text = condition.text) ∧
    (∀ i p, row.ShownBy c i → i.integer p = some now.toInt → ∀ state : DropState,
      Lexeme.read i (state.condition c p).lexemes =
        some (.ofBool (decide (row.state now.toInt = state)))) ∧
    ∀ args v named d, args.get? "state" = some v → DropState.Name v named → named ≠ [] →
      ∃ condition, drop args c now d = .ok ((d.bind (.int now)).2.add condition) ∧
        ∀ i, row.ShownBy c i → d.params ++ [.int now] <+: i.params →
          Lexeme.read i condition.lexemes =
            some (.ofBool (decide (row.state now.toInt ∈ named))) := by
  refine ⟨Condition.flatMap_lexemes, ?_, ?_⟩
  · intro i p hrow hp state
    rw [Condition.read_lexemes (state.layered_condition c p), DropState.truth_condition hrow hp]
  · intro args v named d hget hname hne
    have listed : args.list "state" = named.map fun state => .text state.name := by
      rw [Arguments.list, hget]
      exact DropState.itemsOf_of_name hname
    have requested := DropState.requested_eq_ok.mpr ⟨named, listed, rfl⟩
    obtain ⟨first, rest, hdistinct⟩ : ∃ first rest, DropState.distinct named = first :: rest := by
      obtain ⟨state, hm⟩ := List.exists_mem_of_ne_nil named hne
      exact List.exists_cons_of_ne_nil (List.ne_nil_of_mem (DropState.mem_distinct.mpr hm))
    refine ⟨DropState.anyOf c d.next first rest, ?_, ?_⟩
    · rw [drop, requested, hdistinct]
      rfl
    · rintro i hrow ⟨more, hparams⟩
      have bound : d.next.value? (d.params ++ [.int now]) = some (.int now) := d.value?_bind _
      have instant : i.integer d.next = some now.toInt := by
        rw [Interpretation.integer, ← hparams, Placeholder.value?_append more bound]
        rfl
      rw [Condition.read_lexemes (DropState.layered_anyOf c d.next first rest),
        DropState.truth_anyOf hrow instant, ← hdistinct]
      simp only [DropState.mem_distinct]

/-- A drop whose time is over and whose units are all claimed. -/
def exhausted : DropRow := ⟨100, 500, 10, 10, by decide, by decide⟩

/-- A row of the drop, read at instant 1000. -/
def exhaustedAt : Interpretation where
  column
    | "ndrop.start_time" => some 100
    | "ndrop.end_time" => some 500
    | "ndrop.max_claimable" => some 10
    | "ndrop.current_claimed" => some 10
    | _ => none
  params := [.int 1000]
  related _ _ _ := .unknown
  contained _ _ := .unknown
  hasRow _ := false
  verbatim _ := .unknown

/-- States named twice, and nothing between two commas. -/
def finished : Arguments := .ofList [("state", .text "ended,,sold_out,ended")]

theorem drop_reads_state_exhausted :
    Lexeme.read exhaustedAt (DropState.ended.condition {} ⟨1⟩).lexemes = some .no ∧
      ∃ condition, drop finished {} 1000 (Draft.ofBase "SELECT") =
          .ok (((Draft.ofBase "SELECT").bind (.int 1000)).2.add condition) ∧
        condition.lexemes.flatMap Lexeme.text = condition.text ∧
        Lexeme.read exhaustedAt condition.lexemes = some .yes := by
  obtain ⟨written, each, asked⟩ := drop_reads_state {} 1000 exhausted
  have shown : exhausted.ShownBy {} exhaustedAt := ⟨rfl, rfl, rfl, rfl⟩
  have named : DropState.Name (.text "ended,,sold_out,ended") [.ended, .soldOut, .ended] :=
    .inr ⟨["ended".toList, [], "sold_out".toList, "ended".toList], rfl, by decide⟩
  obtain ⟨condition, added, reads⟩ := asked finished _ _ (Draft.ofBase "SELECT") rfl named (by simp)
  exact ⟨each exhaustedAt ⟨1⟩ shown rfl .ended, condition, added, written condition,
    reads exhaustedAt shown ⟨[], rfl⟩⟩

end Filter

end BoundQuery
