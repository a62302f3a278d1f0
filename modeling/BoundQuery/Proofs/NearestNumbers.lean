import BoundQuery.Binary64
import Mathlib.Tactic

/-!
# Rounding to the nearest number

Rounding a ratio to a format gives the nearest magnitude, and of two that are equally near the one
whose pattern is even. In the binade of the ratio and above it all magnitudes are multiples of one
power of two; those below that binade are farther off than its least one. Main result: an integer
of the 64-bit ranges becomes the finite number nearest to it (`Binary64.isNearest_ofInt`).
-/
namespace BoundQuery

attribute [local instance (high)] instPowNat

namespace FloatFormat

/-! ### Rounding to a whole number -/

/-- How far apart two magnitudes are. -/
def distance (m n : Nat) : Nat := m - n + (n - m)

/-- A magnitude is preferred to another if it is nearer, or as near and even. -/
def Preferred (goal m n : Nat) (even : Prop) : Prop :=
  distance m goal < distance n goal ∨ distance m goal = distance n goal ∧ even

lemma roundHalfEven_cases (num den : Nat) :
    (roundHalfEven num den = num / den ∧
        (2 * (num % den) < den ∨ 2 * (num % den) = den ∧ num / den % 2 = 0)) ∨
      (roundHalfEven num den = num / den + 1 ∧
        (den < 2 * (num % den) ∨ 2 * (num % den) = den ∧ (num / den + 1) % 2 = 0)) := by
  unfold roundHalfEven
  dsimp only
  split
  next low => exact .inl ⟨rfl, low⟩
  next high => exact .inr ⟨rfl, by omega⟩

/-- A multiple is one of the two around a number, or it lies a whole step beyond one of them. -/
lemma multiple_side (k floor den : Nat) :
    k = floor ∨ k = floor + 1 ∨ k * den + den ≤ floor * den ∨
      floor * den + den + den ≤ k * den := by
  rcases Nat.lt_trichotomy k floor with below | at_floor | above
  · right; right; left
    rw [← Nat.succ_mul]
    exact Nat.mul_le_mul_right den below
  · exact .inl at_floor
  · rcases Nat.eq_or_lt_of_le (Nat.succ_le_of_lt above) with next_one | beyond
    · exact .inr (.inl next_one.symm)
    · right; right; right
      rw [← Nat.succ_mul, ← Nat.succ_mul]
      exact Nat.mul_le_mul_right den beyond

/-- The multiple of the denominator that a ratio is rounded to is preferred to every other. -/
theorem preferred_roundHalfEven {num den k : Nat} (hden : 0 < den)
    (other : k ≠ roundHalfEven num den) :
    Preferred num (roundHalfEven num den * den) (k * den) (roundHalfEven num den % 2 = 0) := by
  have parts : num / den * den + num % den = num := Nat.div_add_mod' num den
  have rest : num % den < den := Nat.mod_lt num hden
  have side := multiple_side k (num / den) den
  have next_one : (num / den + 1) * den = num / den * den + den := Nat.succ_mul _ _
  unfold Preferred distance
  rcases roundHalfEven_cases num den with ⟨rounded, half⟩ | ⟨rounded, half⟩
  · rw [rounded] at other ⊢
    rcases side with rfl | rfl | below | above
    · exact absurd rfl other
    · rw [next_one]
      omega
    · omega
    · omega
  · rw [rounded] at other ⊢
    rw [next_one]
    rcases side with rfl | rfl | below | above
    · omega
    · exact absurd rfl other
    · omega
    · omega

/-- A multiple that does not exceed a number is preferred to all below it, and so is the one that
the ratio is rounded to. -/
lemma preferred_roundHalfEven_of_lt {num den k m : Nat} (hden : 0 < den) (bottom : k * den ≤ num)
    (under : m < k * den) :
    Preferred num (roundHalfEven num den * den) m (roundHalfEven num den % 2 = 0) := by
  left
  by_cases same : k = roundHalfEven num den
  · rw [← same]
    unfold distance
    omega
  · have near := preferred_roundHalfEven hden same
    unfold Preferred at near
    unfold distance at near ⊢
    omega

/-! ### Rounding to a magnitude -/

variable (f : FloatFormat)

/-- A magnitude is a multiple of a power of two, or it lies below the binade that begins with that
power's full significand. -/
lemma units_multiple_or_lt (pattern shift : Nat) :
    (∃ k, f.units pattern = k * 2 ^ shift) ∨
      f.units pattern < 2 ^ (f.precision - 1) * 2 ^ shift := by
  have fraction : pattern % 2 ^ (f.precision - 1) < 2 ^ (f.precision - 1) :=
    Nat.mod_lt _ (Nat.two_pow_pos _)
  unfold units
  dsimp only
  split
  next small =>
    right
    exact fraction.trans_le (Nat.le_mul_of_pos_right _ (Nat.two_pow_pos shift))
  next large =>
    generalize pattern / 2 ^ (f.precision - 1) = exponent at large
    generalize pattern % 2 ^ (f.precision - 1) = rest at fraction
    rcases Nat.lt_or_ge (exponent - 1) shift with coarse | fine
    · right
      calc (2 ^ (f.precision - 1) + rest) * 2 ^ (exponent - 1)
          < 2 ^ (f.precision - 1) * 2 * 2 ^ (exponent - 1) :=
            Nat.mul_lt_mul_of_pos_right (by omega) (Nat.two_pow_pos _)
        _ = 2 ^ (f.precision - 1) * 2 ^ (exponent - 1 + 1) := by
            rw [pow_succ, mul_assoc, mul_comm 2]
        _ ≤ 2 ^ (f.precision - 1) * 2 ^ shift :=
            Nat.mul_le_mul_left _ (Nat.pow_le_pow_right (by decide) coarse)
    · left
      refine ⟨(2 ^ (f.precision - 1) + rest) * 2 ^ (exponent - 1 - shift), ?_⟩
      rw [mul_assoc, ← pow_add, Nat.sub_add_cancel fine]

/-- The pattern of a rounded significand, which may have been carried into the next binade. -/
lemma units_pattern {shift significand : Nat} (upper : significand ≤ 2 * 2 ^ (f.precision - 1))
    (lower : shift = 0 ∨ 2 ^ (f.precision - 1) ≤ significand) :
    f.units (shift * 2 ^ (f.precision - 1) + significand) = significand * 2 ^ shift := by
  have hidden : 0 < 2 ^ (f.precision - 1) := Nat.two_pow_pos _
  unfold units
  generalize 2 ^ (f.precision - 1) = h at *
  rcases Nat.lt_or_ge significand h with below | above
  · obtain rfl : shift = 0 := by omega
    simp [Nat.mod_eq_of_lt below, Nat.div_eq_of_lt below]
  · rcases Nat.lt_or_ge significand (2 * h) with within | carried
    · have split : shift * h + significand = significand - h + (shift + 1) * h := by
        rw [Nat.succ_mul]
        omega
      have rest : significand - h < h := by omega
      rw [split, Nat.add_mul_mod_self_right, Nat.mod_eq_of_lt rest,
        Nat.add_mul_div_right _ _ hidden, Nat.div_eq_of_lt rest]
      dsimp only
      rw [if_neg (by omega), Nat.add_sub_cancel' above]
      congr 2
      omega
    · obtain rfl : significand = 2 * h := by omega
      have split : shift * h + 2 * h = 0 + (shift + 2) * h := by rw [Nat.zero_add, ← Nat.add_mul]
      rw [split, Nat.add_mul_mod_self_right, Nat.zero_mod, Nat.add_mul_div_right _ _ hidden,
        Nat.zero_div]
      dsimp only
      rw [if_neg (by omega)]
      have : 0 + (shift + 2) - 1 = shift + 1 := by omega
      rw [this, pow_succ]
      ring

/-- The last bit of a pattern is that of its significand. -/
lemma pattern_mod_two (hp : 1 < f.precision) (shift significand : Nat) :
    (shift * 2 ^ (f.precision - 1) + significand) % 2 = significand % 2 := by
  obtain ⟨p, hp⟩ : ∃ p, f.precision - 1 = p + 1 := ⟨f.precision - 2, by omega⟩
  rw [hp, pow_succ, ← mul_assoc, Nat.mul_add_mod_self_right]

/-- What is rounded to a power of two is a full significand, unless the unit is the smallest. -/
lemma quotient_bounds (num den : Nat) (hp : 0 < f.precision) :
    let shift := (num / den).log2 + 1 - f.precision
    num / (den * 2 ^ shift) < 2 * 2 ^ (f.precision - 1) ∧
      (shift = 0 ∨ 2 ^ (f.precision - 1) ≤ num / (den * 2 ^ shift)) := by
  intro shift
  rw [← Nat.div_div_eq_div_mul]
  have full : 2 * 2 ^ (f.precision - 1) = 2 ^ f.precision := by
    rw [← pow_succ', Nat.sub_add_cancel hp]
  constructor
  · rw [full, Nat.div_lt_iff_lt_mul (Nat.two_pow_pos _), ← pow_add]
    calc num / den < 2 ^ ((num / den).log2 + 1) := Nat.lt_log2_self
      _ ≤ 2 ^ (f.precision + shift) := Nat.pow_le_pow_right (by decide) (by omega)
  · by_cases smallest : shift = 0
    · exact .inl smallest
    · right
      have some : num / den ≠ 0 := by
        intro none
        simp only [shift, none, Nat.log2_zero] at smallest
        omega
      rw [Nat.le_div_iff_mul_le (Nat.two_pow_pos _), ← pow_add]
      calc 2 ^ (f.precision - 1 + shift) ≤ 2 ^ (num / den).log2 :=
            Nat.pow_le_pow_right (by decide) (by omega)
        _ ≤ num / den := Nat.log2_self_le some

/-- The magnitude that a ratio is rounded to, if it is finite, is preferred to every other. -/
theorem preferred_nearest {num den pattern : Nat} (hp : 1 < f.precision) (hden : 0 < den)
    (finite : f.nearest num den < f.infinity)
    (other : f.units pattern ≠ f.units (f.nearest num den)) :
    Preferred num (f.units (f.nearest num den) * den) (f.units pattern * den)
      (f.nearest num den % 2 = 0) := by
  obtain ⟨upper, lower⟩ := f.quotient_bounds num den (by omega)
  unfold nearest at finite other ⊢
  dsimp only at finite other ⊢
  rw [min_lt_iff, or_iff_right (lt_irrefl _)] at finite
  rw [min_eq_right finite.le] at other ⊢
  generalize (num / den).log2 + 1 - f.precision = shift at *
  have step : 0 < den * 2 ^ shift := Nat.mul_pos hden (Nat.two_pow_pos _)
  have rounded := roundHalfEven_cases num (den * 2 ^ shift)
  rw [f.units_pattern (by omega) (by omega)] at other ⊢
  rw [f.pattern_mod_two hp]
  have scaled (k : Nat) : k * 2 ^ shift * den = k * (den * 2 ^ shift) := by
    rw [mul_assoc, mul_comm _ den]
  have on_grid (k : Nat) (hk : f.units pattern = k * 2 ^ shift) :
      Preferred num (roundHalfEven num (den * 2 ^ shift) * 2 ^ shift * den)
        (f.units pattern * den) (roundHalfEven num (den * 2 ^ shift) % 2 = 0) := by
    rw [hk] at other ⊢
    rw [scaled, scaled]
    exact preferred_roundHalfEven step fun same => other (by rw [same])
  rcases f.units_multiple_or_lt pattern shift with ⟨k, hk⟩ | below
  · exact on_grid k hk
  rcases lower with smallest | full
  · exact on_grid (f.units pattern) (by rw [smallest, pow_zero, mul_one])
  · -- the other magnitude lies below the binade of the ratio
    rw [scaled]
    apply preferred_roundHalfEven_of_lt step ((Nat.le_div_iff_mul_le step).mp full)
    rw [← scaled]
    exact Nat.mul_lt_mul_of_pos_right below hden

/-- A ratio is rounded to a pattern at most two binades above its own. -/
lemma nearest_le {num den bits : Nat} (hp : 0 < f.precision) (fits : f.precision ≤ bits)
    (h : num / den < 2 ^ bits) :
    f.nearest num den ≤ (bits - f.precision + 2) * 2 ^ (f.precision - 1) := by
  obtain ⟨upper, -⟩ := f.quotient_bounds num den hp
  have log : (num / den).log2 < bits := by
    by_cases none : num / den = 0
    · rw [none, Nat.log2_zero]
      omega
    · exact (Nat.log2_lt none).mpr h
  unfold nearest
  dsimp only
  apply (min_le_right _ _).trans
  have shift_le : (num / den).log2 + 1 - f.precision ≤ bits - f.precision := by omega
  generalize (num / den).log2 + 1 - f.precision = shift at *
  have rounded := roundHalfEven_cases num (den * 2 ^ shift)
  have binades : shift * 2 ^ (f.precision - 1) ≤ (bits - f.precision) * 2 ^ (f.precision - 1) :=
    Nat.mul_le_mul_right _ shift_le
  rw [Nat.add_mul]
  omega

end FloatFormat

namespace Binary64

open FloatFormat

/-! ### Rounding an integer -/

/-- A finite number in units, with its sign. -/
def signedUnits (x : Binary64) : Int := if x.isNegative then -x.units else x.units

/-- How far a finite number is from an integer, in units. -/
def error (x : Binary64) (n : Int) : Nat := (x.signedUnits - n * 2 ^ binary64.scale).natAbs

/-- A finite number is nearest to an integer if no finite number is nearer, and if its pattern is
even where another one is as near. -/
structure IsNearest (x : Binary64) (n : Int) : Prop where
  finite : x.isFinite = true
  nearest : ∀ y : Binary64, y.isFinite = true → x.error n ≤ y.error n
  even : ∀ y : Binary64, y.isFinite = true → y.error n = x.error n →
    y.signedUnits ≠ x.signedUnits → x.pattern % 2 = 0

lemma pattern_ofPattern {negative : Bool} {pattern : Nat} (h : pattern < 2 ^ (63 : Nat)) :
    (ofPattern negative pattern).pattern = pattern := by
  unfold Binary64.pattern ofPattern
  rw [UInt64.toNat_ofNat']
  cases negative <;> simp <;> omega

lemma isNegative_ofPattern {negative : Bool} {pattern : Nat} (h : pattern < 2 ^ (63 : Nat)) :
    (ofPattern negative pattern).isNegative = negative := by
  unfold isNegative ofPattern
  rw [UInt64.toNat_ofNat']
  cases negative <;> simp <;> omega

lemma infinity_lt : binary64.infinity < 2 ^ (63 : Nat) := by decide

/-- An integer of the 64-bit ranges is far from infinity. -/
lemma nearest_lt_infinity {n : Nat} (h : n < 2 ^ (64 : Nat)) :
    binary64.nearest (n * 2 ^ binary64.scale) 1 < binary64.infinity := by
  have small : n * 2 ^ binary64.scale / 1 < 2 ^ (64 + binary64.scale) := by
    have unit := Nat.two_pow_pos binary64.scale
    rw [Nat.div_one, pow_add]
    generalize 2 ^ binary64.scale = scaled at unit ⊢
    exact Nat.mul_lt_mul_of_pos_right h unit
  have bound := binary64.nearest_le (by decide) (by decide) small
  exact bound.trans_lt (by decide)

/-- An integer in units is its magnitude in units with its sign. -/
lemma scaled_eq (n : Int) : n * 2 ^ binary64.scale =
    if n < 0 then -((n.natAbs * 2 ^ binary64.scale : Nat) : Int)
    else (n.natAbs * 2 ^ binary64.scale : Nat) := by
  rw [Nat.cast_mul, Nat.cast_pow, Nat.cast_two, ← neg_mul, ← ite_mul]
  congr 1
  split <;> omega

/-- Between numbers of one sign the error is the distance of the magnitudes; a number of the other
sign is farther off than zero by its magnitude. -/
lemma error_eq (x : Binary64) (n : Int) :
    x.error n = if x.isNegative = decide (n < 0) then
        distance x.units (n.natAbs * 2 ^ binary64.scale)
      else x.units + n.natAbs * 2 ^ binary64.scale := by
  unfold error signedUnits distance
  rw [scaled_eq]
  generalize n.natAbs * 2 ^ binary64.scale = magnitude
  by_cases negative : n < 0
  · cases x.isNegative with
    | true =>
      simp only [negative, decide_true, if_true]
      omega
    | false =>
      simp only [negative, decide_true, if_true, Bool.false_eq_true, if_false]
      omega
  · cases x.isNegative with
    | true =>
      simp only [negative, decide_false, if_true, if_false, Bool.true_eq_false]
      omega
    | false =>
      simp only [negative, decide_false, if_true, if_false, Bool.false_eq_true]
      omega

lemma pattern_ofInt {n : Int} (h : n.natAbs < 2 ^ (64 : Nat)) :
    (ofInt n).pattern = binary64.nearest (n.natAbs * 2 ^ binary64.scale) 1 := by
  rw [ofInt, ofRatio, pattern_ofPattern ((nearest_lt_infinity h).trans infinity_lt)]

lemma isNegative_ofInt {n : Int} (h : n.natAbs < 2 ^ (64 : Nat)) :
    (ofInt n).isNegative = decide (n < 0) := by
  rw [ofInt, ofRatio, isNegative_ofPattern ((nearest_lt_infinity h).trans infinity_lt)]

lemma preferred_ofInt {n : Int} (h : n.natAbs < 2 ^ (64 : Nat)) {y : Binary64}
    (other : y.units ≠ (ofInt n).units) :
    Preferred (n.natAbs * 2 ^ binary64.scale) (ofInt n).units y.units
      ((ofInt n).pattern % 2 = 0) := by
  rw [Binary64.units, Binary64.units, pattern_ofInt h] at other
  have preferred := binary64.preferred_nearest (by decide) Nat.one_pos (nearest_lt_infinity h) other
  rw [Nat.mul_one, Nat.mul_one, ← pattern_ofInt h] at preferred
  exact preferred

/-- No number is nearer to an integer than the one it is rounded to; where a different one is as
near, the pattern it is rounded to is even. -/
lemma error_ofInt {n : Int} (h : n.natAbs < 2 ^ (64 : Nat)) (y : Binary64) :
    (ofInt n).error n ≤ y.error n ∧
      (y.error n = (ofInt n).error n → y.signedUnits ≠ (ofInt n).signedUnits →
        (ofInt n).pattern % 2 = 0) := by
  -- zero stands for every number of the other sign: those are no nearer than it
  have below := @preferred_ofInt n h (zero false)
  rw [show (zero false).units = 0 by decide] at below
  have near := @preferred_ofInt n h y
  rw [error_eq, error_eq, isNegative_ofInt h, if_pos rfl, signedUnits, signedUnits,
    isNegative_ofInt h]
  unfold Preferred distance at *
  generalize n.natAbs * 2 ^ binary64.scale = magnitude at *
  generalize (ofInt n).units = rounded at *
  generalize y.units = candidate at *
  by_cases sign : y.isNegative = decide (n < 0)
  · rw [if_pos sign, sign]
    by_cases same : candidate = rounded
    · subst same
      exact ⟨le_rfl, fun _ differ => absurd rfl differ⟩
    · have near := near same
      omega
  · rw [if_neg sign]
    by_cases none : rounded = 0
    · subst none
      refine ⟨by omega, fun tie differ => absurd ?_ differ⟩
      obtain rfl : candidate = 0 := by omega
      simp
    · have below := below (Ne.symm none)
      omega

/-- An integer is rounded to the nearest finite number. -/
theorem isNearest_ofInt {n : Int} (h : n.natAbs < 2 ^ (64 : Nat)) : (ofInt n).IsNearest n := by
  refine ⟨?_, fun y _ => (error_ofInt h y).1, fun y _ => (error_ofInt h y).2⟩
  rw [isFinite, pattern_ofInt h]
  exact decide_eq_true (nearest_lt_infinity h)

end Binary64

end BoundQuery
