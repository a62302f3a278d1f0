import BoundQuery.Wire.Encoding
import BoundQuery.Proofs.CommaLists
import BoundQuery.Proofs.Likeness

/-!
# Integers and their decimal texts

A machine integer is read back from its canonical decimal, which is neither empty nor a list with
commas nor any word. A value that has texts for integers, at any depth of its lists, is therefore
read like the value with the integers, and encoded like it for every type that tells neither JSON
documents nor floats.
-/
namespace BoundQuery

namespace Decimal

/-- The decimal of a positive number starts with a digit other than zero. -/
lemma toDigits_pos {n : Nat} (h : 0 < n) :
    ∃ c cs, Nat.toDigits 10 n = c :: cs ∧ c ≠ '0' := by
  induction n using Nat.strongRecOn with
  | ind n ih =>
    rw [Nat.toDigits_eq_if (by decide)]
    by_cases small : n < 10
    · have digit : ∀ m < 10, 0 < m → Nat.digitChar m ≠ '0' := by decide
      exact ⟨_, [], if_pos small, digit n small h⟩
    · obtain ⟨c, cs, hcs, hc⟩ := ih (n / 10) (by omega) (by omega)
      exact ⟨c, cs ++ [Nat.digitChar (n % 10)], by rw [if_neg small, hcs, List.cons_append], hc⟩

lemma isDigit_of_mem_toDigits {n : Nat} {c : Char} (h : c ∈ Nat.toDigits 10 n) :
    c.isDigit = true := Nat.isDigit_of_mem_toDigits (by decide) (by decide) h

lemma natural?_toDigits (n : Nat) : natural? (Nat.toDigits 10 n) = some n := by
  rcases Nat.eq_zero_or_pos n with rfl | pos
  · rfl
  · have denoted : valueOf (Nat.toDigits 10 n) = n := Nat.ofDigitChars_ten_toDigits
    have digits : (Nat.toDigits 10 n).all Char.isDigit = true :=
      List.all_eq_true.mpr fun c hc => isDigit_of_mem_toDigits hc
    obtain ⟨c, cs, hcs, hc⟩ := toDigits_pos pos
    rw [hcs] at denoted digits ⊢
    unfold natural?
    split
    next heq => cases heq
    next heq =>
      cases heq
      exact absurd rfl hc
    next heq =>
      cases heq
      rw [if_pos ⟨hc, digits⟩, denoted]

lemma toList_ofNat (n : Nat) : (toString (Int.ofNat n)).toList = Nat.toDigits 10 n :=
  Nat.toList_repr

lemma toList_negSucc (n : Nat) :
    (toString (Int.negSucc n)).toList = '-' :: Nat.toDigits 10 (n + 1) := by
  have printed : toString (Int.negSucc n) = "-" ++ Nat.repr (n + 1) := rfl
  rw [printed, String.toList_append, Nat.toList_repr]
  rfl

/-- An integer is read back from its decimal. -/
theorem integer?_toString (z : Int) : integer? (toString z).toList = some z := by
  cases z with
  | ofNat n =>
    rw [toList_ofNat]
    unfold integer?
    split
    next digits heq =>
      have dash : '-' ∈ Nat.toDigits 10 n := heq ▸ List.mem_cons_self
      exact absurd (isDigit_of_mem_toDigits dash) (by decide)
    next => rw [natural?_toDigits]; rfl
  | negSucc n =>
    rw [toList_negSucc]
    simp only [integer?, natural?_toDigits]

theorem int64?_ofInt64 (n : Int64) : int64? (ofInt64 n) = some n := by
  rw [int64?, ofInt64, integer?_toString, Option.bind_some, toInt64?_eq_some]

/-- A text that is no decimal is not the decimal of an integer. -/
lemma ofInt64_ne {s : String} (h : int64? s = none) (n : Int64) : ofInt64 n ≠ s := by
  rintro rfl
  rw [int64?_ofInt64] at h
  cases h

/-- Decimals are equal when their integers are. -/
lemma ofInt64_eq_iff {n m : Int64} : ofInt64 n = ofInt64 m ↔ n = m := by
  constructor
  · intro h
    have read := int64?_ofInt64 n
    rw [h, int64?_ofInt64] at read
    exact (Option.some.inj read).symm
  · rintro rfl
    rfl

/-- The decimal of an integer is written with digits and a minus. -/
lemma mem_ofInt64 {n : Int64} {c : Char} (h : c ∈ (ofInt64 n).toList) :
    c.isDigit = true ∨ c = '-' := by
  rw [ofInt64] at h
  cases hn : n.toInt with
  | ofNat m =>
    rw [hn, toList_ofNat] at h
    exact .inl (isDigit_of_mem_toDigits h)
  | negSucc m =>
    rw [hn, toList_negSucc, List.mem_cons] at h
    exact h.symm.imp_left isDigit_of_mem_toDigits

lemma comma_not_mem_ofInt64 (n : Int64) : ',' ∉ (ofInt64 n).toList := fun h =>
  absurd (mem_ofInt64 h) (by decide)

end Decimal

/-- The same value but for integers that are written as decimal texts, at any depth of lists. -/
inductive Value.Restates : Value → Value → Prop
  | same (v : Value) : Restates v v
  | digits (n : Int64) : Restates (.int n) (.text (Decimal.ofInt64 n))
  | items {vs ws : List Value} (h : List.Forall₂ Restates vs ws) : Restates (.list vs) (.list ws)

namespace Value.Restates

variable {v w : Value}

/-! ### Lookups -/

lemma asInt?_eq (h : Restates v w) : v.asInt? = w.asInt? := by
  cases h with
  | same => rfl
  | digits n => exact (Decimal.int64?_ofInt64 n).symm
  | items _ => rfl

lemma asBool?_eq (h : Restates v w) : v.asBool? = w.asBool? := by
  cases h with
  | same => rfl
  | digits n =>
    have yes : Decimal.ofInt64 n = "1" ↔ n = 1 := Decimal.ofInt64_eq_iff (m := 1)
    have no : Decimal.ofInt64 n = "0" ↔ n = 0 := Decimal.ofInt64_eq_iff (m := 0)
    have word := Decimal.ofInt64_ne (s := "true") (by decide +kernel) n
    have word' := Decimal.ofInt64_ne (s := "false") (by decide +kernel) n
    simp only [asBool?, yes, no, word, word', false_or]
    by_cases zero : n = 0
    · subst zero
      rfl
    · rw [if_neg zero, if_neg zero]
  | items _ => rfl

lemma toText?_eq (h : Restates v w) : v.toText? = w.toText? := by
  cases h <;> rfl

mutual

theorem hasNaN_eq {v w : Value} (h : Restates v w) : v.hasNaN = w.hasNaN := by
  cases h with
  | same => rfl
  | digits => rfl
  | items h => exact anyNaN_eq h

theorem anyNaN_eq {vs ws : List Value} (h : List.Forall₂ Restates vs ws) :
    anyNaN vs = anyNaN ws := by
  cases h with
  | nil => rfl
  | cons hv hvs => rw [anyNaN_cons, anyNaN_cons, hasNaN_eq hv, anyNaN_eq hvs]

end

/-- Filters choose the same texts for integers and their decimals. -/
theorem congruence : Congruence Restates where
  refl := .same
  list := .items
  isIntegerLike_eq h := by rw [isIntegerLike, isIntegerLike, h.asInt?_eq]
  hasNaN_eq := hasNaN_eq

/-- A value that counts as absent does so in either form. -/
lemma present? (h : Restates v w) :
    Option.Rel Restates (Arguments.present? v) (Arguments.present? w) := by
  cases h with
  | same =>
    cases Arguments.present? v with
    | none => exact .none
    | some v => exact .some (.same v)
  | digits n =>
    have filled := Decimal.ofInt64_ne (s := "") (by decide +kernel) n
    rw [Arguments.present?, Arguments.present?, if_neg filled]
    · exact .some (.digits n)
    · exact nofun
    · exact nofun
  | items h => exact .some (.items h)

/-- Decimals are not split, as there is no comma in them. -/
lemma itemsOf (h : Restates v w) :
    List.Forall₂ Restates (Arguments.itemsOf v) (Arguments.itemsOf w) := by
  cases h with
  | same => exact congruence.refls _
  | digits n =>
    have unsplit : splitCommas (Decimal.ofInt64 n).toList = [(Decimal.ofInt64 n).toList] :=
      splitCommas_of_not_mem (Decimal.comma_not_mem_ofInt64 n)
    have filled : Decimal.ofInt64 n ≠ "" := Decimal.ofInt64_ne (by decide +kernel) n
    have single : Arguments.itemsOf (.text (Decimal.ofInt64 n)) = [.text (Decimal.ofInt64 n)] := by
      rw [Arguments.itemsOf_text, unsplit]
      simp [filled]
    rw [single]
    exact .cons (.digits n) .nil
  | items h => exact h

end Value.Restates

/-! ### Encoding -/

namespace Wire

/-- The formats that hold truth values, integers or texts. -/
def Format.Plain : Format → Prop
  | .boolean => True
  | .integer _ => True
  | .text => True
  | .versionedText => True
  | _ => False

/-- A type of truth values, integers or texts, or an array of such a type. -/
def ParamType.Plain : ParamType → Prop
  | .scalar _ _ format => format.Plain
  | .array _ _ _ element => element.Plain

/-- Values that are encoded to the same bytes, or both refused, for every plain type. -/
def EncodedAlike (v w : Value) : Prop :=
  ∀ t : ParamType, t.Plain → ∀ bytes, encode t v = .ok bytes ↔ encode t w = .ok bytes

lemma expect_eq_ok {type : String} {v : Value} {α : Type} {read : Option α} {a : α} :
    expect type v read = .ok a ↔ read = some a := by
  cases read <;> simp [expect, mismatch]

/-- A scalar is encoded from what is read of the value. -/
lemma encodeScalar_restated {v w : Value} (h : v.Restates w) {type : String} {format : Format}
    (hf : format.Plain) {bytes : List UInt8} :
    encodeScalar type format v = .ok bytes ↔ encodeScalar type format w = .ok bytes := by
  cases format with
  | boolean => simp only [encodeScalar, Outcome.map_eq_ok, expect_eq_ok, h.asBool?_eq]
  | integer width => simp only [encodeScalar, Outcome.andThen_eq_ok, expect_eq_ok, h.asInt?_eq]
  | text => simp only [encodeScalar, Outcome.map_eq_ok, expect_eq_ok, h.toText?_eq]
  | versionedText => simp only [encodeScalar, Outcome.map_eq_ok, expect_eq_ok, h.toText?_eq]
  | _ => exact hf.elim

mutual

theorem encodedAlike_of_restates {v w : Value} (h : v.Restates w) : EncodedAlike v w := by
  intro t ht bytes
  cases h with
  | same => exact Iff.rfl
  | digits n =>
    cases t with
    | scalar name oid format =>
      simp only [encode, Outcome.map_eq_ok, encodeScalar_restated (.digits n) ht]
    | array name oid lowerBound element => simp [encode, mismatch]
  | items h =>
    cases t with
    | scalar name oid format =>
      simp only [encode, Outcome.map_eq_ok, encodeScalar_restated (.items h) ht]
    | array name oid lowerBound element =>
      have plain : element.Plain := ht
      simp only [encode, Outcome.map_eq_ok, mapM_encode_of_restates h plain]

theorem mapM_encode_of_restates {vs ws : List Value} (h : List.Forall₂ Value.Restates vs ws)
    {t : ParamType} (ht : t.Plain) {found : List (Option (List UInt8))} :
    vs.mapM (encode t) = .ok found ↔ ws.mapM (encode t) = .ok found := by
  cases h with
  | nil => exact Iff.rfl
  | cons hv hvs =>
    simp only [List.mapM_cons, Outcome.bind_eq_ok, encodedAlike_of_restates hv t ht,
      mapM_encode_of_restates hvs ht]

end

end Wire

end BoundQuery
