import BoundQuery.Binary64

/-!
# Scaling by powers of ten

A short significand is rounded to a number and then multiplied or divided by one
power of ten, which rounds again. Below the table of powers the division goes in
steps of the largest power. The outcome can differ from the nearest number in its
last place, and this is the rule for numbers inside JSON documents.
-/
namespace BoundQuery.Binary64

-- Powers are those of the core library, whatever other instances are in scope.
attribute [local instance (high)] instPowNat

/-- The greatest power of ten that is finite. -/
def largestPower : Nat := 308

/-- The number nearest to a power of ten. -/
def powerOfTen (k : Nat) : Binary64 := ofRatio false (10 ^ k) 1

/-- Divides by ten to the power `k`, in steps of the largest power. -/
def divideByPower (x : Binary64) (k : Nat) : Binary64 :=
  if k ≤ largestPower then x.div (powerOfTen k)
  else if x.isZero then x
  else divideByPower (x.div (powerOfTen largestPower)) (k - largestPower)
termination_by k
decreasing_by simp [largestPower] at *; omega

def withSign (negative : Bool) (x : Binary64) : Binary64 := ofPattern negative x.pattern

/-- The scaled number, or nothing when it overflows. -/
def ofScaled? (negative : Bool) (significand : Nat) (exponent : Int) : Option Binary64 :=
  let x := ofInt significand
  if exponent < 0 then some (withSign negative (x.divideByPower (-exponent).toNat))
  else if exponent ≤ largestPower then
    let product := x.mul (powerOfTen exponent.toNat)
    if product.isFinite then some (withSign negative product) else none
  else if x.isZero then some (zero negative)
  else none

end BoundQuery.Binary64
