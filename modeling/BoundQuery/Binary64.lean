import BoundQuery.FloatFormat

/-!
# Double-precision numbers

A number is its 64-bit word, so that equality of words is decidable and every
operation is exact integer arithmetic on the word followed by one rounding. The
comparison of numbers is `same`, for which a NaN differs from itself and the two
zeros agree.
-/
namespace BoundQuery

-- Powers are those of the core library, whatever other instances are in scope.
attribute [local instance (high)] instPowNat

structure Binary64 where
  bits : UInt64
  deriving DecidableEq

namespace Binary64

open FloatFormat

def isNegative (x : Binary64) : Bool :=
  decide (2 ^ (63 : Nat) ≤ x.bits.toNat)

/-- The word without its sign. -/
def pattern (x : Binary64) : Nat :=
  x.bits.toNat % 2 ^ (63 : Nat)

def ofPattern (negative : Bool) (pattern : Nat) : Binary64 :=
  ⟨UInt64.ofNat (if negative then 2 ^ (63 : Nat) + pattern else pattern)⟩

def isFinite (x : Binary64) : Bool :=
  decide (x.pattern < binary64.infinity)

def isNaN (x : Binary64) : Bool :=
  decide (binary64.infinity < x.pattern)

def isZero (x : Binary64) : Bool :=
  decide (x.pattern = 0)

def zero (negative : Bool) : Binary64 := ofPattern negative 0

def infinite (negative : Bool) : Binary64 := ofPattern negative binary64.infinity

/-- The quiet NaN with an empty payload. -/
def nan (negative : Bool) : Binary64 := ofPattern negative (binary64.infinity + 2 ^ (51 : Nat))

/-- The magnitude of a finite number in units. -/
def units (x : Binary64) : Nat := binary64.units x.pattern

/-- The number nearest to `num / den`, with the given sign. -/
def ofRatio (negative : Bool) (num den : Nat) : Binary64 :=
  ofPattern negative (binary64.nearest (num * 2 ^ binary64.scale) den)

/-- The number nearest to an integer. -/
def ofInt (n : Int) : Binary64 :=
  ofRatio (decide (n < 0)) n.natAbs 1

/-- The number nearest to a decimal significand times a power of ten. Far beyond both ends of
the range no power is computed: the outcome there is infinity or zero. -/
def ofDecimal (negative : Bool) (significand : Nat) (exponent : Int) : Binary64 :=
  if significand = 0 then zero negative
  else if 400 < exponent then infinite negative
  else if exponent + (significand.log2 / 3 + 1 : Nat) < -400 then zero negative
  else if 0 ≤ exponent then ofRatio negative (significand * 10 ^ exponent.toNat) 1
  else ofRatio negative significand (10 ^ (-exponent).toNat)

/-- Equality of numbers: zeros agree whatever their sign, a NaN equals nothing. -/
def same (x y : Binary64) : Bool :=
  !x.isNaN && !y.isNaN && (x.bits == y.bits || (x.isZero && y.isZero))

/-- The integer a finite number without fractional part is. -/
def toInt? (x : Binary64) : Option Int :=
  if x.isFinite ∧ x.units % 2 ^ binary64.scale = 0 then
    let magnitude : Int := (x.units / 2 ^ binary64.scale : Nat)
    some (if x.isNegative then -magnitude else magnitude)
  else none

/-- The rounded product of two finite numbers. -/
def mul (x y : Binary64) : Binary64 :=
  ofPattern (x.isNegative != y.isNegative)
    (binary64.nearest (x.units * y.units) (2 ^ binary64.scale))

/-- The rounded quotient of two finite numbers, the second not zero. -/
def div (x y : Binary64) : Binary64 :=
  ofRatio (x.isNegative != y.isNegative) x.units y.units

/-- The single-precision word nearest to a number. -/
def toBinary32 (x : Binary64) : UInt32 :=
  let magnitude :=
    if x.isNaN then binary32.infinity + 2 ^ (22 : Nat)
    else if x.isFinite then binary32.nearest x.units (2 ^ (binary64.scale - binary32.scale))
    else binary32.infinity
  UInt32.ofNat (if x.isNegative then 2 ^ (31 : Nat) + magnitude else magnitude)

theorem same_self_iff (x : Binary64) : x.same x = true ↔ x.isNaN = false := by
  simp [same]

end Binary64

end BoundQuery
