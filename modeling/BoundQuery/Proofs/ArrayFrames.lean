import BoundQuery.Wire.Encoding
import Mathlib.Tactic

/-!
# Reading array frames

What a server reads from the bytes of a parameter: integers as big-endian two's complement, and
an array from its frame, which holds every element behind its length. A written frame is read back
as what it was written from. Main statement: `Wire.ArrayFrame.read?_frameArray`.
-/
namespace BoundQuery.Wire

/-! ### Numbers -/

/-- The number that bytes denote, the most significant first. -/
def unsigned (bytes : List UInt8) : ℕ := bytes.foldl (fun n b => 256 * n + b.toNat) 0

/-- The number that bytes denote in two's complement. -/
def signed (bytes : List UInt8) : ℤ :=
  if 2 * unsigned bytes < 256 ^ bytes.length then unsigned bytes
  else unsigned bytes - 256 ^ bytes.length

theorem unsigned_append_singleton (bytes : List UInt8) (b : UInt8) :
    unsigned (bytes ++ [b]) = 256 * unsigned bytes + b.toNat := by
  simp [unsigned]

theorem unsigned_bigEndian (width n : ℕ) : unsigned (bigEndian width n) = n % 256 ^ width := by
  induction width generalizing n with
  | zero => simp [bigEndian, unsigned, Nat.mod_one]
  | succ width ih =>
    calc unsigned (bigEndian (width + 1) n)
        = 256 * (n / 256 % 256 ^ width) + n % 256 := by
          rw [bigEndian, unsigned_append_singleton, ih]
          simp
      _ = n % 256 ^ (width + 1) := by rw [pow_succ', Nat.mod_mul, add_comm]

theorem signed_bigEndian {width n : ℕ} (h : 2 * n < 256 ^ width) :
    signed (bigEndian width n) = n := by
  have small : n % 256 ^ width = n := Nat.mod_eq_of_lt (by omega)
  rw [signed, unsigned_bigEndian, length_bigEndian, small, if_pos h]

/-- A two's complement is read as the number it was written from, where that is in the signed
range of the width. -/
theorem signed_twosComplement {width : ℕ} {n : ℤ} (pos : 0 < width)
    (lower : -2 ^ (8 * width - 1) ≤ n) (upper : n < 2 ^ (8 * width - 1)) :
    signed (twosComplement width n) = n := by
  have whole : (256 : ℤ) ^ width = 2 * 2 ^ (8 * width - 1) := by
    rw [← pow_succ', show 8 * width - 1 + 1 = 8 * width by omega, pow_mul]
    norm_num
  -- The powers of the definition are those of the core library, which are the same by unfolding.
  have written : twosComplement width n = bigEndian width (n % 256 ^ width).toNat := by
    rw [show (256 : ℤ) ^ width = 2 ^ (8 * width) by rw [pow_mul]; norm_num]
    rfl
  have modulus : ((256 ^ width : ℕ) : ℤ) = 256 ^ width := by push_cast; rfl
  have below : 0 ≤ n % 256 ^ width ∧ n % 256 ^ width < 256 ^ width :=
    ⟨Int.emod_nonneg _ (by positivity), Int.emod_lt_of_pos _ (by positivity)⟩
  have unsigned_eq : ((unsigned (twosComplement width n) : ℕ) : ℤ) = n % 256 ^ width := by
    rw [written, unsigned_bigEndian, Nat.mod_eq_of_lt (by omega), Int.toNat_of_nonneg below.1]
  have length_eq : (twosComplement width n).length = width := by rw [written, length_bigEndian]
  rw [signed, length_eq]
  rcases lt_or_ge n 0 with negative | natural
  · have shifted : n % 256 ^ width = n + 256 ^ width := by
      rw [← Int.add_emod_right, Int.emod_eq_of_lt (by omega) (by omega)]
    rw [if_neg (by omega)]
    omega
  · have kept : n % 256 ^ width = n := Int.emod_eq_of_lt natural (by omega)
    rw [if_pos (by omega), unsigned_eq, kept]

@[simp] theorem length_twosComplement (width : ℕ) (n : ℤ) :
    (twosComplement width n).length = width :=
  length_bigEndian _ _

/-! ### Elements -/

/-- The first bytes, and those after them. -/
def split? (count : ℕ) (bytes : List UInt8) : Option (List UInt8 × List UInt8) :=
  if count ≤ bytes.length then some (bytes.take count, bytes.drop count) else none

/-- A signed number of four bytes, and the bytes after it. -/
def word? (bytes : List UInt8) : Option (ℤ × List UInt8) :=
  (split? 4 bytes).map (Prod.map signed id)

/-- An element behind its length, where length minus one is a null. -/
def element? (bytes : List UInt8) : Option (Option (List UInt8) × List UInt8) := do
  let (length, rest) ← word? bytes
  if length = -1 then some (none, rest)
  else if length < 0 then none
  else (split? length.toNat rest).map (Prod.map some id)

def elements? : ℕ → List UInt8 → Option (List (Option (List UInt8)) × List UInt8)
  | 0, bytes => some ([], bytes)
  | count + 1, bytes => do
    let (element, rest) ← element? bytes
    let (elements, rest) ← elements? count rest
    some (element :: elements, rest)

variable {rest : List UInt8} {elements : List (Option (List UInt8))}

theorem split?_append {count : ℕ} {bytes : List UInt8} (h : bytes.length = count) :
    split? count (bytes ++ rest) = some (bytes, rest) := by
  subst h
  simp [split?]

theorem word?_bigEndian {n : ℕ} (h : n < 2 ^ 31) :
    word? (bigEndian 4 n ++ rest) = some (↑n, rest) := by
  rw [word?, split?_append (length_bigEndian 4 n), Option.map_some, Prod.map_apply,
    signed_bigEndian (by omega), id]

/-- The length of a null. -/
theorem word?_twosComplement : word? (twosComplement 4 (-1) ++ rest) = some (-1, rest) := by
  rw [word?, split?_append (length_twosComplement 4 _), Option.map_some, Prod.map_apply,
    signed_twosComplement (by decide) (by decide) (by decide), id]

/-- The length of each element fits a signed word. -/
def Framed (elements : List (Option (List UInt8))) : Prop :=
  ∀ bytes, some bytes ∈ elements → bytes.length < 2 ^ 31

theorem element?_frameElement {element : Option (List UInt8)}
    (h : ∀ bytes, element = some bytes → bytes.length < 2 ^ 31) :
    element? (frameElement element ++ rest) = some (element, rest) := by
  cases element with
  | none =>
    rw [element?, frameElement, word?_twosComplement]
    rfl
  | some bytes =>
    have natural : ¬ (bytes.length : ℤ) < 0 := by omega
    have present : ¬ (bytes.length : ℤ) = -1 := by omega
    rw [element?, frameElement, List.append_assoc, word?_bigEndian (h bytes rfl)]
    simp [present, natural, split?_append]

theorem elements?_frameElement (framed : Framed elements) :
    elements? elements.length (elements.flatMap frameElement ++ rest) = some (elements, rest) := by
  induction elements with
  | nil => rfl
  | cons element elements ih =>
    have tail := ih fun bytes h => framed bytes (List.mem_cons_of_mem _ h)
    rw [List.length_cons, elements?, List.flatMap_cons, List.append_assoc,
      element?_frameElement fun bytes h => framed bytes (h ▸ List.mem_cons_self)]
    simp [tail]

/-! ### Frames -/

/-- What the bytes of a one-dimensional array say. -/
structure ArrayFrame where
  hasNull : Bool
  elementOid : ℕ
  lowerBound : ℤ
  elements : List (Option (List UInt8))
  deriving DecidableEq

namespace ArrayFrame

/-- Reads the frame of an array of one dimension, with nothing after it. -/
def read? (bytes : List UInt8) : Option ArrayFrame := do
  let (dimensions, rest) ← word? bytes
  let (hasNull, rest) ← word? rest
  let (oid, rest) ← split? 4 rest
  let (length, rest) ← word? rest
  let (lowerBound, rest) ← word? rest
  let (elements, rest) ← elements? length.toNat rest
  if dimensions = 1 ∧ (hasNull = 0 ∨ hasNull = 1) ∧ 0 ≤ length ∧ rest = [] then
    some ⟨hasNull = 1, unsigned oid, lowerBound, elements⟩
  else none

/-- A written frame is read back: the elements in their order, a null where there was none, and
whether there is one. -/
theorem read?_frameArray {oid lowerBound : ℕ} (hoid : oid < 2 ^ 32) (hlower : lowerBound < 2 ^ 31)
    (short : elements.length < 2 ^ 31) (framed : Framed elements) :
    read? (frameArray oid lowerBound elements) =
      some ⟨elements.any Option.isNone, oid, lowerBound, elements⟩ := by
  have flag : (if elements.any Option.isNone then 1 else 0) < 2 ^ 31 := by split <;> decide
  have each : elements? elements.length (elements.flatMap frameElement) = some (elements, []) := by
    rw [← List.append_nil (elements.flatMap frameElement), elements?_frameElement framed]
  have number : unsigned (bigEndian 4 oid) = oid := by
    rw [unsigned_bigEndian, Nat.mod_eq_of_lt (by omega)]
  simp only [read?, frameArray, List.append_assoc, Option.bind_eq_bind, Option.bind_some,
    word?_bigEndian (show 1 < 2 ^ 31 by decide), word?_bigEndian flag,
    split?_append (length_bigEndian 4 oid), word?_bigEndian short, word?_bigEndian hlower,
    Int.toNat_natCast, each, number]
  cases elements.any Option.isNone <;> simp

end ArrayFrame

end BoundQuery.Wire
