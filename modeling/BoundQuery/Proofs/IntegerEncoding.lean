import BoundQuery.Proofs.ArrayFrames
import BoundQuery.Proofs.DecimalTexts
import BoundQuery.Proofs.Outcome
import BoundQuery.Wire.Catalog

/-!
# Integers on the wire

A value bound to an integer type, or to an array of any depth over one, is encoded exactly where
it stands for integers in the range of the type, and what is encoded is read back as those
integers. Main statement: `Wire.encode_integers_exact`.
-/
namespace BoundQuery

theorem Value.null_or_present (v : Value) : v = .null ∨ v.isNull = false := by
  cases v with
  | null => exact .inl rfl
  | _ => exact .inr rfl

namespace Wire

/-- What a server reads for an integer type or an array type over one. -/
inductive Datum where
  | null
  | integer (n : ℤ)
  | array (hasNull : Bool) (items : List Datum)

/-- The signed range of a width. -/
def IntegerWidth.Holds (width : IntegerWidth) (n : ℤ) : Prop :=
  -2 ^ (8 * width.bytes - 1) ≤ n ∧ n < 2 ^ (8 * width.bytes - 1)

instance (width : IntegerWidth) (n : ℤ) : Decidable (width.Holds n) :=
  inferInstanceAs (Decidable (_ ∧ _))

namespace ParamType

/-- An integer type, or an array type of any depth over one, whose numbers fit their words. -/
def OverIntegers : ParamType → Prop
  | .scalar _ _ format => ∃ width, format = .integer width
  | .array _ _ lowerBound element =>
    element.oid < 2 ^ 32 ∧ lowerBound < 2 ^ 31 ∧ element.OverIntegers

/-- The lengths of the arrays of a value, and of their encoded elements, fit their words. -/
def Sized : ParamType → Value → Prop
  | .array _ _ _ element, .list items =>
    items.length < 2 ^ 31 ∧ ∀ item ∈ items, element.Sized item ∧
      ∀ bytes, encode element item = .ok (some bytes) → bytes.length < 2 ^ 31
  | _, _ => True

/-- What a value stands for at a type, where it stands for anything. -/
def datum? : ParamType → Value → Option Datum
  | _, .null => some .null
  | .scalar _ _ (.integer width), v =>
    (v.asInt?.filter fun n => width.Holds n.toInt).map fun n => .integer n.toInt
  | .array _ _ _ element, .list items =>
    (items.mapM element.datum?).map (.array (items.any Value.isNull))
  | _, _ => none

/-- What a server reads from encoded bytes, or from their absence. -/
def decode? : ParamType → Option (List UInt8) → Option Datum
  | _, none => some .null
  | .scalar _ _ (.integer width), some bytes =>
    if bytes.length = width.bytes then some (.integer (signed bytes)) else none
  | .array _ _ lowerBound element, some bytes => do
    let frame ← ArrayFrame.read? bytes
    if frame.elementOid = element.oid ∧ frame.lowerBound = lowerBound then
      (frame.elements.mapM element.decode?).map (.array frame.hasNull)
    else none
  | _, some _ => none

end ParamType

open ParamType

/-! ### What is encoded -/

section

variable {name : String} {oid lowerBound : ℕ} {width : IntegerWidth} {t element : ParamType}
  {v : Value} {out : Option (List UInt8)}

@[simp] theorem encode_null (t : ParamType) : encode t .null = .ok none := by
  unfold encode
  rfl

/-- A scalar type encodes what is not null as its format does. -/
theorem encode_scalar {format : Format} (present : v.isNull = false) :
    encode (.scalar name oid format) v = (encodeScalar name format v).map some := by
  cases v with
  | null => cases present
  | _ => rfl

theorem encode_list (items : List Value) :
    encode (.array name oid lowerBound element) (.list items) = .ok out ↔
      ∃ elements, List.Forall₂ (fun item e => encode element item = .ok e) items elements ∧
        out = some (frameArray element.oid lowerBound elements) := by
  rw [encode, Outcome.map_eq_ok]
  simp only [Outcome.mapM_eq_ok, @eq_comm _ _ out]

/-- Only a list or a null is encoded for an array type. -/
theorem exists_list_of_encode_array (present : v.isNull = false)
    (h : encode (.array name oid lowerBound element) v = .ok out) : ∃ items, v = .list items := by
  cases v with
  | null => cases present
  | list items => exact ⟨items, rfl⟩
  | _ => cases h

/-- Only a null is encoded as no bytes. -/
theorem encode_eq_none : encode t v = .ok none ↔ v.isNull = true := by
  constructor
  · intro h
    by_contra present
    rw [Bool.not_eq_true] at present
    cases t with
    | scalar name oid format =>
      rw [encode_scalar present] at h
      obtain ⟨bytes, -, ⟨⟩⟩ := Outcome.map_eq_ok.mp h
    | array name oid lowerBound element =>
      obtain ⟨items, rfl⟩ := exists_list_of_encode_array present h
      obtain ⟨elements, -, ⟨⟩⟩ := (encode_list items).mp h
  · intro absent
    cases v with
    | null => exact encode_null t
    | _ => cases absent

theorem encodeInteger_eq_ok {n : ℤ} {bytes : List UInt8} :
    encodeInteger width n = .ok bytes ↔ width.Holds n ∧ twosComplement width.bytes n = bytes := by
  have half : encodeInteger width n =
      if 2 ^ (8 * width.bytes - 1) ≤ n then .error .tooLarge
      else if n < -2 ^ (8 * width.bytes - 1) then .error .tooSmall
      else .ok (twosComplement width.bytes n) := rfl
  rw [half, IntegerWidth.Holds]
  split
  next large => exact iff_of_false nofun fun h => absurd h.1.2 (by omega)
  next bounded =>
    split
    next small => exact iff_of_false nofun fun h => absurd h.1.1 (by omega)
    next held => rw [Except.ok.injEq, and_iff_right ⟨by omega, by omega⟩]

/-- An integer type encodes what stands for an integer in its range. -/
theorem encode_integer (present : v.isNull = false) :
    encode (.scalar name oid (.integer width)) v = .ok out ↔
      ∃ n, v.asInt? = some n ∧ width.Holds n.toInt ∧
        out = some (twosComplement width.bytes n.toInt) := by
  rw [encode_scalar present, encodeScalar]
  simp only [Outcome.map_eq_ok, Outcome.andThen_eq_ok, expect_eq_ok, encodeInteger_eq_ok]
  constructor
  · rintro ⟨bytes, ⟨n, stands, held, rfl⟩, rfl⟩
    exact ⟨n, stands, held, rfl⟩
  · rintro ⟨n, stands, held, rfl⟩
    exact ⟨_, ⟨n, stands, held, rfl⟩, rfl⟩

theorem IntegerWidth.bytes_pos (width : IntegerWidth) : 0 < width.bytes := by
  cases width <;> decide

theorem present_of_encode {bytes : List UInt8} (h : encode t v = .ok (some bytes)) :
    v.isNull = false := by
  by_contra absent
  rw [encode_eq_none.mpr (by simpa using absent)] at h
  cases h

/-- The bytes of an integer type read as the integer. -/
theorem signed_of_encode_integer {bytes : List UInt8}
    (h : encode (.scalar name oid (.integer width)) v = .ok (some bytes)) :
    bytes.length = width.bytes ∧ ∃ n, v.asInt? = some n ∧ signed bytes = n.toInt := by
  obtain ⟨n, stands, held, ⟨⟩⟩ := (encode_integer (present_of_encode h)).mp h
  exact ⟨length_twosComplement _ _, n, stands,
    signed_twosComplement width.bytes_pos held.1 held.2⟩

/-- An array type encodes the lists whose items its element type encodes. -/
theorem encode_array_succeeds_iff (present : v.isNull = false) :
    (∃ out, encode (.array name oid lowerBound element) v = .ok out) ↔
      ∃ items, v = .list items ∧ ∀ item ∈ items, ∃ out, encode element item = .ok out := by
  constructor
  · rintro ⟨out, h⟩
    obtain ⟨items, rfl⟩ := exists_list_of_encode_array present h
    obtain ⟨elements, each, -⟩ := (encode_list items).mp h
    exact ⟨items, rfl, Outcome.mapM_succeeds_iff.mp ⟨elements, Outcome.mapM_eq_ok.mpr each⟩⟩
  · rintro ⟨items, rfl, each⟩
    obtain ⟨elements, h⟩ := Outcome.mapM_succeeds_iff.mpr each
    exact ⟨_, (encode_list items).mpr ⟨elements, Outcome.mapM_eq_ok.mp h, rfl⟩⟩

/-- The elements of an encoded list are null where its items are. -/
theorem any_isNone_of_encoded {items : List Value} {elements : List (Option (List UInt8))}
    (each : List.Forall₂ (fun item e => encode element item = .ok e) items elements) :
    elements.any Option.isNone = items.any Value.isNull := by
  induction each with
  | nil => rfl
  | cons h _ ih =>
    rw [List.any_cons, List.any_cons, ih]
    congr 1
    rw [Bool.eq_iff_iff, ← encode_eq_none (t := element), h, Option.isNone_iff_eq_none,
      Except.ok.injEq]

/-- The frame of an encoded list is read back. -/
theorem read?_of_encoded {items : List Value} {elements : List (Option (List UInt8))}
    (hoid : element.oid < 2 ^ 32) (hlower : lowerBound < 2 ^ 31)
    (sized : (ParamType.array name oid lowerBound element).Sized (.list items))
    (each : List.Forall₂ (fun item e => encode element item = .ok e) items elements) :
    ArrayFrame.read? (frameArray element.oid lowerBound elements) =
      some ⟨items.any Value.isNull, element.oid, lowerBound, elements⟩ := by
  have framed : Framed elements := by
    intro bytes hmem
    obtain ⟨item, hitem, hencode⟩ :=
      Outcome.exists_item_of_mapM_eq_ok (Outcome.mapM_eq_ok.mpr each) hmem
    exact (sized.2 item hitem).2 bytes hencode
  have short : elements.length < 2 ^ 31 := each.length_eq ▸ sized.1
  rw [ArrayFrame.read?_frameArray hoid hlower short framed, any_isNone_of_encoded each]

/-! ### What is read back -/

/-- What items stand for is read from their encodings, in the same order. -/
theorem exists_data {items : List Value} {elements : List (Option (List UInt8))}
    (each : List.Forall₂ (fun item e => ∃ d, element.datum? item = some d ∧
      element.decode? e = some d) items elements) :
    ∃ data, items.mapM element.datum? = some data ∧
      elements.mapM element.decode? = some data := by
  induction each with
  | nil => exact ⟨[], rfl, rfl⟩
  | cons h _ ih =>
    obtain ⟨d, stands, read⟩ := h
    obtain ⟨data, standing, reading⟩ := ih
    refine ⟨d :: data, ?_, ?_⟩
    · simp [List.mapM_cons, stands, standing]
    · simp [List.mapM_cons, read, reading]

@[simp] theorem datum?_null (t : ParamType) : t.datum? .null = some .null := by
  unfold datum?
  rfl

@[simp] theorem decode?_none (t : ParamType) : t.decode? none = some .null := by
  unfold decode?
  rfl

theorem datum?_integer (present : v.isNull = false) :
    (ParamType.scalar name oid (.integer width)).datum? v =
      (v.asInt?.filter fun n => width.Holds n.toInt).map fun n => .integer n.toInt := by
  cases v with
  | null => cases present
  | _ => rfl

lemma exists_datum_null (h : encode t .null = .ok out) :
    ∃ d, t.datum? .null = some d ∧ t.decode? out = some d := by
  cases (encode_null t).symm.trans h
  exact ⟨.null, datum?_null t, decode?_none t⟩

/-- What is encoded stands for something, and that is what is read. -/
theorem exists_datum (ht : t.OverIntegers) (sized : t.Sized v) (h : encode t v = .ok out) :
    ∃ d, t.datum? v = some d ∧ t.decode? out = some d := by
  -- By induction on the type: the items of a list are encoded for the type of the elements.
  induction t generalizing v out with
  | scalar name oid format =>
    obtain ⟨width, rfl⟩ := ht
    obtain rfl | present := v.null_or_present
    · exact exists_datum_null h
    · obtain ⟨n, stands, held, rfl⟩ := (encode_integer present).mp h
      refine ⟨.integer n.toInt, ?_, ?_⟩
      · rw [datum?_integer present, stands, Option.filter_some_pos (by simpa using held),
          Option.map_some]
      · simp [decode?, signed_twosComplement width.bytes_pos held.1 held.2]
  | array name oid lowerBound element ih =>
    obtain ⟨hoid, hlower, helement⟩ := ht
    obtain rfl | present := v.null_or_present
    · exact exists_datum_null h
    · obtain ⟨items, rfl⟩ := exists_list_of_encode_array present h
      obtain ⟨elements, each, rfl⟩ := (encode_list items).mp h
      have members := (List.forall₂_and_left _ _).mpr ⟨fun _ hmem => hmem, each⟩
      obtain ⟨data, standing, reading⟩ := exists_data <| members.imp
        fun item e ⟨hmem, hencode⟩ => ih helement (sized.2 item hmem).1 hencode
      have frame := read?_of_encoded hoid hlower sized each
      refine ⟨.array (items.any Value.isNull) data, ?_, ?_⟩
      · simp [datum?, standing]
      · simp [decode?, frame, reading]

/-- Only a null stands for a null. -/
theorem datum?_eq_null : t.datum? v = some .null ↔ v = .null := by
  constructor
  · intro h
    by_contra hv
    have present : v.isNull = false := v.null_or_present.resolve_left hv
    unfold datum? at h
    split at h
    next => cases present
    next =>
      obtain ⟨n, -, ⟨⟩⟩ := Option.map_eq_some_iff.mp h
    next =>
      obtain ⟨data, -, ⟨⟩⟩ := Option.map_eq_some_iff.mp h
    next => cases h
  · rintro rfl
    exact datum?_null t

/-- The encoded items of an array of integers are as long as the integers. -/
theorem sized_integers {items : List Value} (short : items.length < 2 ^ 31)
    {elementName : String} {elementOid : ℕ} :
    (ParamType.array name oid lowerBound
      (.scalar elementName elementOid (.integer width))).Sized (.list items) := by
  refine ⟨short, fun item _ => ⟨trivial, fun bytes h => ?_⟩⟩
  rw [(signed_of_encode_integer h).1]
  cases width <;> decide

end

/-- Integers are exact on the wire. A null is encoded as a null. An integer type encodes what
stands for an integer in its range, in bytes that read as that integer. An array type of any depth
over an integer type encodes the lists whose items its element type encodes, and what is read from
the frame are the items in their order: those that are null are marked, and the frame tells whether
there is any. -/
theorem encode_integers_exact :
    (∀ t : ParamType, encode t .null = .ok none) ∧
    (∀ (name : String) (oid : ℕ) (width : IntegerWidth) (v : Value),
      ((∃ bytes, encode (.scalar name oid (.integer width)) v = .ok (some bytes)) ↔
        ∃ n, v.asInt? = some n ∧
          -2 ^ (8 * width.bytes - 1) ≤ n.toInt ∧ n.toInt < 2 ^ (8 * width.bytes - 1)) ∧
      ∀ bytes, encode (.scalar name oid (.integer width)) v = .ok (some bytes) →
        bytes.length = width.bytes ∧ ∃ n, v.asInt? = some n ∧ signed bytes = n.toInt) ∧
    (∀ (name : String) (oid lowerBound : ℕ) (element : ParamType) (v : Value),
      (ParamType.array name oid lowerBound element).OverIntegers →
      (ParamType.array name oid lowerBound element).Sized v → v ≠ .null →
      ((∃ out, encode (.array name oid lowerBound element) v = .ok out) ↔
        ∃ items, v = .list items ∧ ∀ item ∈ items, ∃ out, encode element item = .ok out) ∧
      ∀ out, encode (.array name oid lowerBound element) v = .ok out →
        ∃ items data, v = .list items ∧ items.mapM element.datum? = some data ∧
          (ParamType.array name oid lowerBound element).decode? out =
            some (.array (items.any Value.isNull) data)) ∧
    ∀ (t : ParamType) (v : Value), t.datum? v = some .null ↔ v = .null := by
  refine ⟨encode_null, fun name oid width v => ⟨⟨?_, ?_⟩, fun bytes => signed_of_encode_integer⟩,
    fun name oid lowerBound element v ht sized hv => ⟨?_, ?_⟩, fun t v => datum?_eq_null⟩
  · rintro ⟨bytes, h⟩
    obtain ⟨n, stands, held, -⟩ := (encode_integer (present_of_encode h)).mp h
    exact ⟨n, stands, held⟩
  · rintro ⟨n, stands, held⟩
    have present : v.isNull = false := by
      cases v with
      | null => cases stands
      | _ => rfl
    exact ⟨_, (encode_integer present).mpr ⟨n, stands, held, rfl⟩⟩
  · exact encode_array_succeeds_iff (v.null_or_present.resolve_left hv)
  · intro out h
    obtain ⟨items, rfl⟩ := exists_list_of_encode_array (v.null_or_present.resolve_left hv) h
    obtain ⟨d, stands, read⟩ := exists_datum ht sized h
    obtain ⟨data, standing, rfl⟩ := Option.map_eq_some_iff.mp stands
    exact ⟨items, data, rfl, standing, read⟩

/-- The wire type of lists of lists of short integers. -/
def shortLists : ParamType := .array "_int2vector" 1006 1 int2vector

/-- A list of an integer, a text and a null, then a null, then an empty list. -/
def nestedShorts : List Value := [.list [.int 1, .text "-2", .null], .null, .list []]

theorem encode_integers_exact_nested :
    ∃ bytes, encode shortLists (.list nestedShorts) = .ok (some bytes) ∧
      shortLists.decode? (some bytes) = some (.array true
        [.array true [.integer 1, .integer (-2), .null], .null, .array false []]) := by
  have integers : shortLists.OverIntegers :=
    ⟨by decide, by decide, by decide, by decide, .two, rfl⟩
  have encoded : ∃ bytes, encode shortLists (.list nestedShorts) = .ok (some bytes) := ⟨_, rfl⟩
  have sized : shortLists.Sized (.list nestedShorts) := by
    refine ⟨by decide, fun item hmem => ?_⟩
    simp only [nestedShorts, List.mem_cons, List.not_mem_nil, or_false] at hmem
    rcases hmem with rfl | rfl | rfl
    · refine ⟨sized_integers (by decide), fun bytes h => ?_⟩
      cases h
      decide
    · exact ⟨trivial, nofun⟩
    · refine ⟨sized_integers (by decide), fun bytes h => ?_⟩
      cases h
      decide
  obtain ⟨bytes, h⟩ := encoded
  obtain ⟨items, data, ⟨⟩, standing, read⟩ :=
    (encode_integers_exact.2.2.1 _ _ _ _ _ integers sized nofun).2 _ h
  refine ⟨bytes, h, read.trans ?_⟩
  cases standing
  rfl

end Wire

end BoundQuery
