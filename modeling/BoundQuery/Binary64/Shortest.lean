import BoundQuery.Binary64

/-!
# Shortest decimals

The decimals that read back as a number form an interval around it, its ends
included exactly when the significand is even. The shortest of them lie on the
coarsest grid of multiples of a power of ten that meets the interval, and of those
the nearest to the number is taken.
-/
namespace BoundQuery.Binary64

-- Powers are those of the core library, whatever other instances are in scope.
attribute [local instance (high)] instPowNat

open FloatFormat

/-- Which way a number goes that lies halfway between two shortest decimals. -/
inductive Tie where
  | up
  | toEven

/-- A positive decimal, `significand` times ten to the power `exponent`. -/
structure ShortDecimal where
  significand : Nat
  exponent : Int

/-- The decimals that read back as a number, in quarters of a unit. -/
structure Interval where
  low : Nat
  value : Nat
  high : Nat
  closed : Bool

/-- The neighbours of a number are one step away, half a step below the number when it starts a
binade; the interval reaches halfway to them. -/
def interval (x : Binary64) : Interval :=
  let exponent := x.pattern / 2 ^ (52 : Nat)
  let step := 2 ^ (exponent - 1)
  let below := if x.pattern % 2 ^ (52 : Nat) = 0 ∧ 1 < exponent then step else 2 * step
  { low := 4 * x.units - below
    value := 4 * x.units
    high := 4 * x.units + 2 * step
    closed := x.pattern % 2 = 0 }

/-- Whether the decimal `n / den`, in quarters of a unit, reads back. -/
def Interval.contains (i : Interval) (n den : Nat) : Bool :=
  if i.closed then decide (i.low * den ≤ n ∧ n ≤ i.high * den)
  else decide (i.low * den < n ∧ n < i.high * den)

/-- The nearest multiple of ten to the power `exponent` that reads back, if one does. A point of
the grid in quarters of a unit is `k * num / den`. -/
def Interval.onGrid? (i : Interval) (tie : Tie) (exponent : Int) : Option ShortDecimal :=
  let num := 2 ^ (binary64.scale + 2) * 10 ^ exponent.toNat
  let den := 10 ^ (-exponent).toNat
  let floor := i.value * den / num
  let rest := i.value * den - floor * num
  let upper :=
    if num < 2 * rest then true
    else if 2 * rest = num then
      match tie with
      | .up => true
      | .toEven => floor % 2 = 1
    else false
  let nearer := if upper then floor + 1 else floor
  let farther := if upper then floor else floor + 1
  if i.contains (nearer * num) den then some ⟨nearer, exponent⟩
  else if i.contains (farther * num) den then some ⟨farther, exponent⟩
  else none

/-- Looks for the coarsest grid that meets the interval, from a given exponent downward. -/
def Interval.coarsest (i : Interval) (tie : Tie) : Nat → Int → ShortDecimal
  | 0, exponent => ⟨0, exponent⟩
  | steps + 1, exponent =>
    match i.onGrid? tie exponent with
    | some decimal => decimal
    | none => i.coarsest tie steps (exponent - 1)

/-- An exponent of ten that is above the number's first digit, from its binary exponent. -/
def exponentBound (x : Binary64) : Int :=
  let binary : Int := (x.units.log2 : Int) + 1 - binary64.scale
  if 0 ≤ binary then binary * 31 / 100 + 1 else binary * 3 / 10 + 1

/-- The shortest decimal that reads back as a positive finite number. -/
def shortest (tie : Tie) (x : Binary64) : ShortDecimal :=
  (interval x).coarsest tie 400 (exponentBound x)

end BoundQuery.Binary64
