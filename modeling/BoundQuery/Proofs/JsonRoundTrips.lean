import BoundQuery.Proofs.NearestNumbers
import BoundQuery.Proofs.NestedLists

/-!
# Values and documents, back and forth

A value comes back from its document exactly if its floats are finite and it holds no document but
objects. A document comes back from its value exactly if no number in its lists is an integer above
the machine range, and otherwise only those integers are changed, each to the float nearest to it.
Main statement: `Value.json_round_trips`.
-/
namespace BoundQuery

attribute [local instance (high)] instPowNat

/-! ### Integers above the machine range -/

namespace JsonNumber

/-- An integer that only the unsigned range holds. -/
def IsWide : JsonNumber → Prop
  | .integer n _ _ => 2 ^ (63 : Nat) ≤ n
  | .float _ _ => False

/-- An integer above the machine range is rounded to a float. -/
def rounded : JsonNumber → JsonNumber
  | .integer n lower upper =>
    if 2 ^ (63 : Nat) ≤ n then
      .float (Binary64.ofInt n) (Binary64.isNearest_ofInt (by omega)).finite
    else .integer n lower upper
  | .float x finite => .float x finite

/-- The float that a wide integer is rounded to is nearest to it. -/
theorem rounded_of_wide {n : Int} {lower : -2 ^ (63 : Nat) ≤ n} {upper : n < 2 ^ (64 : Nat)}
    (wide : 2 ^ (63 : Nat) ≤ n) :
    ∃ x finite, (integer n lower upper).rounded = .float x finite ∧ x.IsNearest n :=
  ⟨_, _, if_pos wide, Binary64.isNearest_ofInt (by omega)⟩

theorem rounded_eq_self_iff (number : JsonNumber) : number.rounded = number ↔ ¬ number.IsWide := by
  cases number with
  | integer n lower upper =>
    unfold rounded IsWide
    split
    next wide => simp [wide]
    next narrow => simp [narrow]
  | float x finite => simp [rounded, IsWide]

end JsonNumber

/-! ### From documents to values and back -/

namespace Json

/-- A number that is an integer above the machine range. -/
def IsWide : Json → Prop
  | .number n => n.IsWide
  | _ => False

/-- No integer in the lists of a document is above the machine range. -/
def Narrow (d : Json) : Prop := ∀ path e, d.at? path = some e → ¬ e.IsWide

mutual

/-- Changes the numbers in the lists of a document. Objects stay as they are. -/
def mapNumbers (f : JsonNumber → JsonNumber) : Json → Json
  | .number n => .number (f n)
  | .array items => .array (mapNumbersItems f items)
  | d => d

def mapNumbersItems (f : JsonNumber → JsonNumber) : List Json → List Json
  | [] => []
  | d :: ds => mapNumbers f d :: mapNumbersItems f ds

end

@[simp] theorem mapNumbersItems_eq_map (f : JsonNumber → JsonNumber) (ds : List Json) :
    mapNumbersItems f ds = ds.map (mapNumbers f) := by
  induction ds with
  | nil => rfl
  | cons d ds ih => rw [mapNumbersItems, ih, List.map_cons]

/-- A list has no number of its own, so it is narrow if its items are. -/
theorem narrow_array {items : List Json} :
    (array items).Narrow ↔ ∀ item ∈ items, item.Narrow := by
  unfold Narrow at?
  rw [forall_descend]
  simp [items?, IsWide]

/-- What is no list is narrow if it is no wide number. -/
theorem narrow_of_items? {d : Json} (h : d.items? = none) : d.Narrow ↔ ¬ d.IsWide := by
  unfold Narrow at?
  rw [forall_descend]
  simp [h]

/-- Rounding leaves a document alone exactly if there is nothing to round. -/
theorem mapNumbers_rounded_eq_self_iff (d : Json) :
    d.mapNumbers JsonNumber.rounded = d ↔ d.Narrow := by
  induction d using list_induction with
  | step d ih =>
    cases d with
    | array items =>
      rw [mapNumbers, mapNumbersItems_eq_map, array.injEq, narrow_array, map_eq_self_iff]
      exact forall₂_congr fun item hitem => ih items rfl item hitem
    | number n =>
      rw [narrow_of_items? rfl, mapNumbers, number.injEq, JsonNumber.rounded_eq_self_iff, IsWide]
    | _ => exact iff_of_true rfl ((narrow_of_items? rfl).mpr id)

end Json

namespace Value

/-- An integer above the machine range is read as the float nearest to it. -/
theorem ofJsonNumber_of_wide {n : Int} {lower : -2 ^ (63 : Nat) ≤ n} {upper : n < 2 ^ (64 : Nat)}
    (wide : 2 ^ (63 : Nat) ≤ n) : ofJsonNumber (.integer n lower upper) = .float (.ofInt n) := by
  rw [ofJsonNumber, Decimal.toInt64?, if_neg fun fits => wide.not_gt fits.2]

/-- An integer of the machine range is read as itself. -/
theorem ofJsonNumber_of_narrow {n : Int} (lower : -2 ^ (63 : Nat) ≤ n) (upper : n < 2 ^ (64 : Nat))
    (narrow : ¬ 2 ^ (63 : Nat) ≤ n) :
    ∃ m : Int64, m.toInt = n ∧ ofJsonNumber (.integer n lower upper) = .int m := by
  have value : Decimal.toInt64? n = some (Int64.ofInt n) := if_pos ⟨lower, not_le.mp narrow⟩
  refine ⟨Int64.ofInt n, Decimal.toInt64?_eq_some.mp value, ?_⟩
  rw [ofJsonNumber, value]

/-- The document of the value of a number is the number, rounded if it is a wide integer. -/
theorem toJson_ofJsonNumber (number : JsonNumber) :
    (ofJsonNumber number).toJson = .number number.rounded := by
  cases number with
  | integer n lower upper =>
    rw [JsonNumber.rounded]
    split
    next wide =>
      rw [ofJsonNumber_of_wide wide, toJson, JsonNumber.ofBinary64?,
        dif_pos (Binary64.isNearest_ofInt (by omega)).finite]
    next narrow =>
      obtain ⟨m, rfl, read⟩ := ofJsonNumber_of_narrow lower upper narrow
      rw [read, toJson, JsonNumber.ofInt64]
  | float x finite =>
    rw [ofJsonNumber, toJson, JsonNumber.ofBinary64?, dif_pos finite, JsonNumber.rounded]

/-- The document of the value of a document is that document with its wide integers rounded. -/
theorem toJson_ofJson (d : Json) : (ofJson d).toJson = d.mapNumbers JsonNumber.rounded := by
  induction d using Json.list_induction with
  | step d ih =>
    cases d with
    | array items =>
      rw [ofJson, ofJsonItems_eq_map, toJson, toJsonItems_eq_map, List.map_map, Json.mapNumbers,
        Json.mapNumbersItems_eq_map]
      exact congrArg Json.array (List.map_congr_left fun item hitem => ih items rfl item hitem)
    | number number => exact toJson_ofJsonNumber number
    | _ => rfl

/-! ### From values to documents and back -/

/-- What a document keeps: every float but a NaN or an infinity, and of documents the objects. -/
def IsKept : Value → Prop
  | .float x => x.isFinite = true
  | .json document => ∃ members, document = .object members
  | _ => True

/-- A document keeps all that is in the lists of a value. -/
def Documented (v : Value) : Prop := ∀ path w, v.at? path = some w → w.IsKept

theorem documented_list {items : List Value} :
    (list items).Documented ↔ ∀ item ∈ items, item.Documented := by
  unfold Documented at?
  rw [forall_descend]
  simp [asList?, IsKept]

theorem documented_of_asList? {v : Value} (h : v.asList? = none) : v.Documented ↔ v.IsKept := by
  unfold Documented at?
  rw [forall_descend]
  simp [h]

theorem ofJson_toJson_float (x : Binary64) :
    ofJson (toJson (.float x)) = .float x ↔ x.isFinite = true := by
  unfold toJson JsonNumber.ofBinary64?
  split_ifs with finite
  · simp [ofJson, ofJsonNumber, finite]
  · simp [ofJson, finite]

theorem ofJsonNumber_ne_json (number : JsonNumber) (document : Json) :
    ofJsonNumber number ≠ .json document := by
  intro read
  cases number with
  | integer n lower upper =>
    by_cases wide : 2 ^ (63 : Nat) ≤ n
    · rw [ofJsonNumber_of_wide wide] at read
      cases read
    · obtain ⟨m, -, int⟩ := ofJsonNumber_of_narrow lower upper wide
      rw [int] at read
      cases read
  | float x finite => cases read

/-- Only an object is read as a document. -/
theorem ofJson_eq_json_iff {d document : Json} :
    ofJson d = .json document ↔ d = document ∧ ∃ members, document = .object members := by
  constructor
  · intro read
    cases d with
    | number number => exact absurd read (ofJsonNumber_ne_json number document)
    | object members =>
      cases read
      exact ⟨rfl, members, rfl⟩
    | _ => cases read
  · rintro ⟨rfl, members, rfl⟩
    rfl

theorem ofJson_toJson_int (n : Int64) : ofJson (toJson (.int n)) = .int n := by
  rw [toJson, ofJson, JsonNumber.ofInt64, ofJsonNumber, Decimal.toInt64?_eq_some.mpr rfl]

theorem ofJson_toJson_iff (v : Value) : ofJson v.toJson = v ↔ v.Documented := by
  induction v using list_induction with
  | step v ih =>
    cases v with
    | list items =>
      rw [toJson, toJsonItems_eq_map, ofJson, ofJsonItems_eq_map, List.map_map, list.injEq,
        documented_list, map_eq_self_iff]
      exact forall₂_congr fun item hitem => ih items rfl item hitem
    | float x => rw [documented_of_asList? rfl, IsKept, ofJson_toJson_float]
    | json document =>
      rw [documented_of_asList? rfl, IsKept, toJson, ofJson_eq_json_iff, and_iff_right rfl]
    | int n => exact iff_of_true (ofJson_toJson_int n) ((documented_of_asList? rfl).mpr trivial)
    | _ => exact iff_of_true rfl ((documented_of_asList? rfl).mpr trivial)

/-! ### Both ways -/

/-- A value comes back from its document exactly if its floats are finite and its documents are
objects, at any depth of lists. A document comes back from its value exactly if no number in its
lists is an integer above the machine range; otherwise just those integers are changed, each to the
float nearest to it. -/
theorem json_round_trips :
    (∀ v : Value, ofJson v.toJson = v ↔ v.Documented) ∧
      (∀ d : Json, (ofJson d).toJson = d ↔ d.Narrow) ∧
      (∀ d : Json, (ofJson d).toJson = d.mapNumbers JsonNumber.rounded) ∧
      (∀ number : JsonNumber, number.rounded = number ↔ ¬ number.IsWide) ∧
      ∀ n lower upper, 2 ^ (63 : Nat) ≤ n →
        ∃ x finite, (JsonNumber.integer n lower upper).rounded = .float x finite ∧
          x.IsNearest n := by
  refine ⟨ofJson_toJson_iff, fun d => ?_, toJson_ofJson, JsonNumber.rounded_eq_self_iff, ?_⟩
  · rw [toJson_ofJson, Json.mapNumbers_rounded_eq_self_iff]
  · intro n lower upper wide
    exact JsonNumber.rounded_of_wide wide

/-- A float and an object inside lists come back from their document, and so do the integers of a
document beside one above the machine range, which becomes a float. -/
theorem json_round_trips_nested :
    let v : Value := .list [.float (.ofInt 3), .list [.json (.object [("size", .null)])]]
    let small : JsonNumber := .ofInt64 7
    let n : Int := 2 ^ (64 : Nat) - 1
    let lower : -2 ^ (63 : Nat) ≤ n := by decide
    let upper : n < 2 ^ (64 : Nat) := by decide
    let wide : JsonNumber := .integer n lower upper
    let d : Json := .array [.number small, .array [.number wide]]
    v.Documented ∧ ofJson v.toJson = v ∧ 2 ^ (63 : Nat) ≤ n ∧ ¬ d.Narrow ∧
      (ofJson d).toJson = .array [.number small, .array [.number wide.rounded]] ∧
      ∃ x finite, wide.rounded = .float x finite ∧ x.IsNearest n := by
  intro v small n lower upper wide d
  have kept : v.Documented := by
    refine documented_list.mpr (List.forall_mem_cons.mpr ⟨?_, List.forall_mem_singleton.mpr ?_⟩)
    · exact (documented_of_asList? rfl).mpr (Binary64.isNearest_ofInt (by decide)).finite
    · refine documented_list.mpr (List.forall_mem_singleton.mpr ?_)
      exact (documented_of_asList? rfl).mpr ⟨_, rfl⟩
  have above : 2 ^ (63 : Nat) ≤ n := by decide
  have below : ¬ 2 ^ (63 : Nat) ≤ (7 : Int64).toInt := by decide
  have same : small.rounded = small := (json_round_trips.2.2.2.1 small).mpr below
  have changed : (ofJson d).toJson = d.mapNumbers JsonNumber.rounded := json_round_trips.2.2.1 d
  refine ⟨kept, (json_round_trips.1 v).mpr kept, above, ?_, ?_, ?_⟩
  · intro narrow
    exact narrow [1, 0] (.number wide) rfl above
  · rw [changed]
    conv_rhs => rw [← same]
    rfl
  · exact json_round_trips.2.2.2.2 n lower upper above

end Value

end BoundQuery
