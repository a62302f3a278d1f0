import BoundQuery.Proofs.JsonRoundTrips
import BoundQuery.Value.Trial

/-!
# Trial and conversion agree

Trying the kinds of values in order takes every document, and as the value that the document
converts to. Most documents are taken by one kind only, or by one kind before all documents are
taken as they are; of the numbers, the integers of the machine range are taken before floats are
tried. Main statement: `Value.trial_agrees`.
-/
namespace BoundQuery.Value

attribute [local instance (high)] instPowNat

/-- A number is taken as an integer if it is one of the machine range, else as a float. -/
theorem firstTaken_number (number : JsonNumber) :
    firstTaken none (.number number) = some (ofJsonNumber number) := by
  cases number with
  | integer n lower upper =>
    rw [ofJsonNumber]
    unfold firstTaken Reading.order
    simp only [List.findSome?, Reading.take?]
    cases Decimal.toInt64? n with
    | none => rfl
    | some m => rfl
  | float x finite => rfl

/-- Items that are all taken are taken together. -/
theorem ofTrials?_eq_some {items : List Json}
    (h : ∀ item ∈ items, ofTrial? item = some (ofJson item)) :
    ofTrials? items = some (items.map ofJson) := by
  induction items with
  | nil => rfl
  | cons d ds ih =>
    obtain ⟨first, rest⟩ := List.forall_mem_cons.mp h
    rw [ofTrials?, first, ih rest, Option.bind_some, Option.map_some, List.map_cons]

/-- Every document is taken by trial, as the value it converts to. -/
theorem ofTrial?_eq_some (d : Json) : ofTrial? d = some (ofJson d) := by
  induction d using Json.list_induction with
  | step d ih =>
    cases d with
    | array items =>
      rw [ofTrial?, ofTrials?_eq_some (ih items rfl), ofJson, ofJsonItems_eq_map]
      rfl
    | number number => exact firstTaken_number number
    | _ => rfl

/-- Documents are kept just where a document has an object, and as they stand there. -/
theorem at?_ofJson_eq_json_iff {d document : Json} {path : List Nat} :
    (ofJson d).at? path = some (.json document) ↔
      d.at? path = some document ∧ ∃ members, document = .object members := by
  rw [at?_ofJson, Option.map_eq_some_iff]
  simp only [ofJson_eq_json_iff]
  constructor
  · rintro ⟨e, he, rfl, members⟩
    exact ⟨he, members⟩
  · rintro ⟨hd, members⟩
    exact ⟨document, hd, rfl, members⟩

/-- Trial takes every document as the value it converts to. Of that value, what lies in nested lists
is a document exactly where an object lies in them, unchanged, and the float nearest to it where an
integer above the machine range does. -/
theorem trial_agrees (d : Json) :
    ofTrial? d = some (ofJson d) ∧
      (∀ path document, (ofJson d).at? path = some (.json document) ↔
        d.at? path = some document ∧ ∃ members, document = .object members) ∧
      ∀ path n lower upper, d.at? path = some (.number (.integer n lower upper)) →
        2 ^ (63 : Nat) ≤ n → ∃ x, (ofJson d).at? path = some (.float x) ∧ x.IsNearest n := by
  refine ⟨ofTrial?_eq_some d, fun path document => at?_ofJson_eq_json_iff, ?_⟩
  intro path n lower upper hd wide
  refine ⟨.ofInt n, ?_, Binary64.isNearest_ofInt (by omega)⟩
  rw [at?_ofJson, hd, Option.map_some, ofJson, ofJsonNumber_of_wide wide]

/-- An integer above the machine range is a float in a list and stays as it is in an object. -/
theorem trial_agrees_wide :
    let n : Int := 2 ^ (63 : Nat) + 1
    let lower : -2 ^ (63 : Nat) ≤ n := by decide
    let upper : n < 2 ^ (64 : Nat) := by decide
    let wide : Json := .number (.integer n lower upper)
    let d : Json := .array [.object [("size", wide)], .array [wide]]
    d.at? [1, 0] = some wide ∧ 2 ^ (63 : Nat) ≤ n ∧ ofTrial? d = some (ofJson d) ∧
      (ofJson d).at? [0] = some (.json (.object [("size", wide)])) ∧
      ∃ x, (ofJson d).at? [1, 0] = some (.float x) ∧ x.IsNearest n := by
  intro n lower upper wide d
  obtain ⟨taken, documents, floats⟩ := trial_agrees d
  have above : 2 ^ (63 : Nat) ≤ n := by decide
  refine ⟨rfl, above, taken, ?_, ?_⟩
  · exact (documents [0] _).mpr ⟨rfl, _, rfl⟩
  · exact floats [1, 0] n lower upper rfl above

end BoundQuery.Value
