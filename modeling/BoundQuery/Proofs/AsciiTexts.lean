import Mathlib.Tactic

/-!
# ASCII texts

The characters of an ASCII text are its bytes. What is asked of the characters of many fixed texts
is decided on their bytes, which are there already, where the characters have to be decoded first.
-/
namespace BoundQuery

/-- All bytes of a text are those of ASCII characters. -/
def isAscii (s : String) : Bool := s.toByteArray.data.toList.all fun b => decide (b < 128)

/-- The characters of an ASCII text, one for each byte. -/
def asciiChars (s : String) : List Char := s.toByteArray.data.toList.map fun b => .ofNat b.toNat

lemma utf8EncodeChar_of_lt {b : UInt8} (h : b < 128) :
    String.utf8EncodeChar (.ofNat b.toNat) = [b] := by
  have each : ∀ n : Fin 128, String.utf8EncodeChar (.ofNat n) = [.ofNat n] := by decide +kernel
  rw [each ⟨b.toNat, UInt8.lt_iff_toNat_lt.mp h⟩, UInt8.ofNat_toNat]

/-- ASCII characters are encoded as the bytes that they are read off. -/
lemma flatMap_utf8EncodeChar {bytes : List UInt8} (h : ∀ b ∈ bytes, b < 128) :
    (bytes.map fun b => Char.ofNat b.toNat).flatMap String.utf8EncodeChar = bytes := by
  induction bytes with
  | nil => rfl
  | cons b bytes ih =>
    obtain ⟨small, rest⟩ := List.forall_mem_cons.mp h
    rw [List.map_cons, List.flatMap_cons, utf8EncodeChar_of_lt small, ih rest,
      List.singleton_append]

theorem toList_eq_asciiChars {s : String} (h : isAscii s = true) : s.toList = asciiChars s := by
  have small : ∀ b ∈ s.toByteArray.data.toList, b < 128 := fun b hb =>
    of_decide_eq_true (List.all_eq_true.mp h b hb)
  have same : String.ofList (asciiChars s) = s := by
    rw [← String.toByteArray_inj, String.toByteArray_ofList, List.utf8Encode, asciiChars,
      flatMap_utf8EncodeChar small]
    exact ByteArray.ext (List.data_toByteArray)
  rw [← same, String.toList_ofList, same]

end BoundQuery
