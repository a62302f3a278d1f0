/-!
# Binary floating-point formats

Every finite number of a format is a whole multiple of its smallest positive
number, here called a unit. Magnitudes are natural numbers of units, so rounding
a ratio to the format is integer arithmetic: no rounding happens before the one
the format asks for. A bit pattern is the word without its sign bit, and patterns
are ordered as the magnitudes they stand for.
-/
namespace BoundQuery

-- Powers are those of the core library, whatever other instances are in scope.
attribute [local instance (high)] instPowNat

/-- A format is given by its bits of significand, the hidden one included, and of exponent. -/
structure FloatFormat where
  precision : Nat
  exponentBits : Nat

namespace FloatFormat

def binary64 : FloatFormat := ⟨53, 11⟩

def binary32 : FloatFormat := ⟨24, 8⟩

/-- The unit of a format is two to the power `-scale`. -/
def scale (f : FloatFormat) : Nat :=
  2 ^ (f.exponentBits - 1) + f.precision - 3

/-- The pattern of infinity; the patterns below it are the finite magnitudes. -/
def infinity (f : FloatFormat) : Nat :=
  (2 ^ f.exponentBits - 1) * 2 ^ (f.precision - 1)

/-- The magnitude of a finite pattern in units. -/
def units (f : FloatFormat) (pattern : Nat) : Nat :=
  let exponent := pattern / 2 ^ (f.precision - 1)
  let fraction := pattern % 2 ^ (f.precision - 1)
  if exponent = 0 then fraction
  else (2 ^ (f.precision - 1) + fraction) * 2 ^ (exponent - 1)

/-- The whole number nearest to `num / den`; a half goes to the even neighbour. -/
def roundHalfEven (num den : Nat) : Nat :=
  let floor := num / den
  let rest := 2 * (num % den)
  if rest < den ∨ (rest = den ∧ floor % 2 = 0) then floor else floor + 1

/-- The pattern of the number nearest to `num / den` units. The significand that rounding
carries into the next binade moves the exponent field by itself. -/
def nearest (f : FloatFormat) (num den : Nat) : Nat :=
  let shift := (num / den).log2 + 1 - f.precision
  min f.infinity (shift * 2 ^ (f.precision - 1) + roundHalfEven num (den * 2 ^ shift))

example : binary64.scale = 1074 := by decide
example : binary32.scale = 149 := by decide
example : binary64.infinity = 0x7ff0000000000000 := by decide
example : binary32.infinity = 0x7f800000 := by decide

end FloatFormat

end BoundQuery
