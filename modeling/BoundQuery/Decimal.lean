/-!
# Decimal integers

A run of digits denotes a natural number. An integer has exactly one canonical
decimal: no sign but a minus, no leading zero, no negative zero. Reading accepts
only canonical decimals, so a text that is read as an integer is also its print.
-/
namespace BoundQuery.Decimal

-- Powers are those of the core library, whatever other instances are in scope.
attribute [local instance (high)] instPowNat

/-- The number a run of decimal digits denotes; no digits denote zero. -/
def valueOf (digits : List Char) : Nat :=
  digits.foldl (fun n c => 10 * n + (c.toNat - 48)) 0

@[simp] theorem valueOf_nil : valueOf [] = 0 := rfl

theorem valueOf_append_singleton (digits : List Char) (c : Char) :
    valueOf (digits ++ [c]) = 10 * valueOf digits + (c.toNat - 48) := by
  simp [valueOf]

/-- Reads `0`, or a run of digits that does not start with `0`. -/
def natural? : List Char → Option Nat
  | [] => none
  | ['0'] => some 0
  | c :: cs =>
    if c ≠ '0' ∧ (c :: cs).all Char.isDigit then some (valueOf (c :: cs)) else none

/-- Reads a canonical decimal: a natural, or a minus before a positive one. -/
def integer? : List Char → Option Int
  | '-' :: digits =>
    match natural? digits with
    | some (n + 1) => some (Int.negSucc n)
    | _ => none
  | digits => (natural? digits).map Int.ofNat

/-- The machine integer of that value, when it is in range. -/
def toInt64? (n : Int) : Option Int64 :=
  if -2 ^ (63 : Nat) ≤ n ∧ n < 2 ^ (63 : Nat) then some (Int64.ofInt n) else none

/-- Every machine integer is the one of its value, and of no other number. -/
theorem toInt64?_eq_some {n : Int} {m : Int64} : toInt64? n = some m ↔ m.toInt = n := by
  unfold toInt64?
  split
  next fits =>
    constructor
    · intro h
      cases h
      exact Int64.toInt_ofInt_of_le fits.1 fits.2
    · rintro rfl
      rw [Int64.ofInt_toInt]
  next beyond =>
    constructor
    · nofun
    · rintro rfl
      exact absurd ⟨m.le_toInt, m.toInt_lt⟩ beyond

/-- Reads the canonical decimal of a machine integer. -/
def int64? (text : String) : Option Int64 :=
  (integer? text.toList).bind toInt64?

/-- Writes a machine integer as its canonical decimal. -/
def ofInt64 (n : Int64) : String :=
  toString n.toInt

end BoundQuery.Decimal
