import Manuscript.Number.Double
import Mathlib.Algebra.Order.Field.Rat
import Mathlib.Algebra.Order.Field.Power
import Mathlib.Data.Nat.Cast.Order.Field
import Mathlib.Tactic.FieldSimp
import Mathlib.Tactic.GCongr
import Mathlib.Tactic.Linarith
import Mathlib.Tactic.NormNum
import Mathlib.Tactic.Positivity
import Mathlib.Tactic.Ring

/-!
How near a floating point number is to the fraction that it was rounded from. Every rounding is off
by no more than the last bit allows, so that errors are counted in roundings.
-/

namespace Manuscript.Double

/-- The number that is meant. -/
def value (x : Double) : ℚ := x.mantissa * 2 ^ x.exponent

/-- How much a rounding can be off, as a part of the number. -/
def roundoff : ℚ := 1 / 2 ^ 53

theorem roundoff_pos : 0 < roundoff := by norm_num [roundoff]

theorem one_sub_roundoff_nonneg : 0 ≤ 1 - roundoff := by norm_num [roundoff]

theorem one_add_roundoff_nonneg : 0 ≤ 1 + roundoff := by norm_num [roundoff]

/-- A number is as near to an exact one as a number of roundings leaves it. -/
def Near (roundings : Nat) (exact rounded : ℚ) : Prop :=
  exact * (1 - roundoff) ^ roundings ≤ rounded ∧ rounded ≤ exact * (1 + roundoff) ^ roundings

namespace Near

variable {a b : Nat} {p q x y : ℚ}

/-- What is rounded again is off by both roundings. -/
theorem trans (first : Near a p x) (second : Near b x y) : Near (a + b) p y := by
  constructor
  -- The bounds below and above are multiplied one after another.
  · calc p * (1 - roundoff) ^ (a + b)
      _ = p * (1 - roundoff) ^ a * (1 - roundoff) ^ b := by rw [pow_add, mul_assoc]
      _ ≤ x * (1 - roundoff) ^ b :=
        mul_le_mul_of_nonneg_right first.1 (pow_nonneg one_sub_roundoff_nonneg b)
      _ ≤ y := second.1
  · calc y
      _ ≤ x * (1 + roundoff) ^ b := second.2
      _ ≤ p * (1 + roundoff) ^ a * (1 + roundoff) ^ b :=
        mul_le_mul_of_nonneg_right first.2 (pow_nonneg one_add_roundoff_nonneg b)
      _ = p * (1 + roundoff) ^ (a + b) := by rw [pow_add, mul_assoc]

/-- A number that is near to one that is not negative is not negative either. -/
theorem nonneg (near : Near a p x) (exact : 0 ≤ p) : 0 ≤ x :=
  (mul_nonneg exact (pow_nonneg one_sub_roundoff_nonneg a)).trans near.1

/-- A product is off by the roundings of both factors. -/
theorem mul (left : Near a p x) (right : Near b q y) (leftExact : 0 ≤ p) (rightExact : 0 ≤ q) :
    Near (a + b) (p * q) (x * y) := by
  have leftMost := mul_nonneg leftExact (pow_nonneg one_add_roundoff_nonneg a)
  have rightLeast := mul_nonneg rightExact (pow_nonneg one_sub_roundoff_nonneg b)
  constructor
  -- Factors that are not negative may be bounded each by itself.
  · calc p * q * (1 - roundoff) ^ (a + b)
      _ = p * (1 - roundoff) ^ a * (q * (1 - roundoff) ^ b) := by rw [pow_add]; ring
      _ ≤ x * y := mul_le_mul left.1 right.1 rightLeast (left.nonneg leftExact)
  · calc x * y
      _ ≤ p * (1 + roundoff) ^ a * (q * (1 + roundoff) ^ b) :=
        mul_le_mul left.2 right.2 (right.nonneg rightExact) leftMost
      _ = p * q * (1 + roundoff) ^ (a + b) := by rw [pow_add]; ring

/-- What is off by a part that a rounding allows is as near as after one. -/
theorem of_abs_sub_le (off : |x - p| ≤ p * roundoff) : Near 1 p x := by
  obtain ⟨below, above⟩ := abs_le.mp off
  rw [Near, pow_one, pow_one]
  constructor <;> linarith

end Near

/-- A power of two with a natural exponent is the same among fractions. -/
theorem natCast_pow_toNat {power : Int} (nonneg : 0 ≤ power) :
    ((Nat.pow 2 power.toNat : Nat) : ℚ) = 2 ^ power := by
  rw [Nat.pow_eq, Nat.cast_pow, Nat.cast_ofNat, ← zpow_natCast, Int.toNat_of_nonneg nonneg]

theorem two_zpow_pos (power : Int) : (0 : ℚ) < 2 ^ power := zpow_pos two_pos power

/-- The divisor of a fraction stays positive in units of a power of two. -/
theorem scale_pos {den : Nat} (pos : 0 < den) (num : Nat) (power : Int) :
    0 < (scale num den power).2 := by
  unfold scale
  -- The divisor is multiplied by a power of two, or stays.
  split
  · exact Nat.mul_pos pos (Nat.pow_pos (by decide))
  · exact pos

/-- In units of a power of two a fraction is divided by this power. -/
theorem scale_ratio (num den : Nat) (power : Int) :
    ((scale num den power).1 : ℚ) / (scale num den power).2 = num / den / 2 ^ power := by
  unfold scale
  -- For a negative power the other part of the fraction is multiplied.
  split
  · rename_i nonneg
    rw [Nat.cast_mul, natCast_pow_toNat nonneg, div_div]
  · rename_i negative
    rw [Nat.cast_mul, natCast_pow_toNat (by omega), zpow_neg, mul_div_right_comm]
    exact (div_eq_mul_inv _ _).symm

/-- A number is not zero as a divisor of its fraction. -/
theorem toFraction_pos (x : Double) : 0 < x.toFraction.2 := by
  unfold toFraction
  split
  · exact Nat.one_pos
  · exact Nat.pow_pos (by decide)

/-- A number as a fraction is the number that is meant. -/
theorem toFraction_ratio (x : Double) : (x.toFraction.1 : ℚ) / x.toFraction.2 = x.value := by
  unfold toFraction value
  -- A power that is not negative goes to the upper number, and any other to the lower one.
  split
  · rename_i nonneg
    rw [Nat.cast_mul, natCast_pow_toNat nonneg, Nat.cast_one, div_one]
  · rename_i negative
    rw [natCast_pow_toNat (by omega), zpow_neg, div_inv_eq_mul]

/-- The integer part is the greatest natural number up to the number. -/
theorem le_floor_iff {k : Nat} {x : Double} : k ≤ x.floor ↔ (k : ℚ) ≤ x.value := by
  have pos : (0 : ℚ) < x.toFraction.2 := Nat.cast_pos.mpr x.toFraction_pos
  rw [floor, Nat.le_div_iff_mul_le x.toFraction_pos, ← toFraction_ratio, le_div_iff₀ pos]
  exact_mod_cast Iff.rfl

/-- The nearest quotient is off by a half at most. -/
theorem abs_nearestQuotient_sub_le (num : Nat) {den : Nat} (pos : 0 < den) :
    |(nearestQuotient num den : ℚ) - num / den| ≤ 1 / 2 := by
  have divisor : (0 : ℚ) < den := Nat.cast_pos.mpr pos
  -- The quotient is a whole number and the part that the remainder makes.
  have whole : (num : ℚ) = den * (num / den : Nat) + (num % den : Nat) := by
    exact_mod_cast (Nat.div_add_mod num den).symm
  have below : ((num % den : Nat) : ℚ) < den := Nat.cast_lt.mpr (Nat.mod_lt num pos)
  have exact : (num : ℚ) / den = (num / den : Nat) + (num % den : Nat) / den := by
    rw [div_eq_iff divisor.ne', add_mul, div_mul_cancel₀ _ divisor.ne', mul_comm _ (den : ℚ)]
    exact whole
  have part : (0 : ℚ) ≤ (num % den : Nat) / den := by positivity
  rw [exact, abs_le]
  unfold nearestQuotient
  dsimp only
  split
  -- Up to half of the divisor the remainder is left out, and from there on one more is counted.
  · rename_i low
    have half : 2 * (num % den) ≤ den := by omega
    have half : ((num % den : Nat) : ℚ) / den ≤ 1 / 2 := by
      rw [div_le_iff₀ divisor]
      have cast : (2 : ℚ) * (num % den : Nat) ≤ den := by exact_mod_cast half
      linarith
    constructor <;> linarith
  · rename_i high
    have half : den ≤ 2 * (num % den) := by omega
    have half : 1 / 2 ≤ ((num % den : Nat) : ℚ) / den := by
      rw [le_div_iff₀ divisor]
      have cast : (den : ℚ) ≤ 2 * (num % den : Nat) := by exact_mod_cast half
      linarith
    -- The remainder makes less than one, so that one more is not too much.
    have one : ((num % den : Nat) : ℚ) / den ≤ 1 := (div_le_one divisor).mpr below.le
    push_cast
    constructor <;> linarith

/-- A power of two is at most a fraction when in units of it the fraction is at least one. -/
theorem scale_le_iff {num den : Nat} (pos : 0 < den) (power : Int) :
    (scale num den power).2 ≤ (scale num den power).1 ↔ (2 : ℚ) ^ power ≤ num / den := by
  have divisor : (0 : ℚ) < (scale num den power).2 := Nat.cast_pos.mpr (scale_pos pos num power)
  rw [← one_le_div (two_zpow_pos power), ← scale_ratio, one_le_div divisor, Nat.cast_le]

/-- A positive natural number lies between the power of two of its order and the next one. -/
theorem log2_bounds {n : Nat} (pos : 0 < n) :
    (2 : ℚ) ^ (n.log2 : Int) ≤ n ∧ (n : ℚ) < 2 ^ (n.log2 + 1 : Int) := by
  have below : (2 : ℚ) ^ n.log2 ≤ n := by exact_mod_cast Nat.log2_self_le pos.ne'
  have above : (n : ℚ) < 2 ^ (n.log2 + 1) := by exact_mod_cast (Nat.lt_log2_self : n < _)
  exact ⟨by rwa [zpow_natCast], by exact_mod_cast above⟩

/-- The order of a positive fraction: it lies between this power of two and the next one. -/
theorem binaryOrder_bounds {num den : Nat} (numPos : 0 < num) (denPos : 0 < den) :
    (2 : ℚ) ^ binaryOrder num den ≤ num / den ∧
      (num : ℚ) / den < 2 ^ (binaryOrder num den + 1) := by
  obtain ⟨numBelow, numAbove⟩ := log2_bounds numPos
  obtain ⟨denBelow, denAbove⟩ := log2_bounds denPos
  have divisor : (0 : ℚ) < den := Nat.cast_pos.mpr denPos
  -- The orders of both leave two powers of two for the quotient, and one comparison decides.
  have above : (num : ℚ) / den < 2 ^ ((num.log2 : Int) - den.log2 + 1) := by
    rw [div_lt_iff₀ divisor]
    calc (num : ℚ)
      _ < 2 ^ (num.log2 + 1 : Int) := numAbove
      _ = 2 ^ ((num.log2 : Int) - den.log2 + 1) * 2 ^ (den.log2 : Int) := by
        rw [← zpow_add₀ two_ne_zero]
        congr 1
        omega
      _ ≤ 2 ^ ((num.log2 : Int) - den.log2 + 1) * den :=
        mul_le_mul_of_nonneg_left denBelow (two_zpow_pos _).le
  -- From below it is the other way round: a small number by a large divisor.
  have below : (2 : ℚ) ^ ((num.log2 : Int) - den.log2 - 1) ≤ num / den := by
    rw [le_div_iff₀ divisor]
    calc (2 : ℚ) ^ ((num.log2 : Int) - den.log2 - 1) * den
      _ ≤ 2 ^ ((num.log2 : Int) - den.log2 - 1) * 2 ^ (den.log2 + 1 : Int) :=
        mul_le_mul_of_nonneg_left denAbove.le (two_zpow_pos _).le
      _ = 2 ^ (num.log2 : Int) := by
        rw [← zpow_add₀ two_ne_zero]
        congr 1
        omega
      _ ≤ num := numBelow
  unfold binaryOrder
  dsimp only
  split
  · rename_i atGuess
    exact ⟨(scale_le_iff denPos _).mp atGuess, above⟩
  · rename_i underGuess
    -- The guess was one too high.
    rw [scale_le_iff denPos, not_le] at underGuess
    exact ⟨below, by rwa [Int.sub_add_cancel]⟩

/-- A fraction from one up is not zero. -/
theorem num_pos_of_one_le {num den : Nat} (one : (1 : ℚ) ≤ num / den) : 0 < num := by
  rcases Nat.eq_zero_or_pos num with rfl | pos
  · norm_num at one
  · exact pos

/-- A fraction from one up is of no negative order. -/
theorem binaryOrder_nonneg {num den : Nat} (pos : 0 < den) (one : (1 : ℚ) ≤ num / den) :
    0 ≤ binaryOrder num den := by
  obtain ⟨-, above⟩ := binaryOrder_bounds (num_pos_of_one_le one) pos
  by_contra negative
  -- Otherwise the next power of two would be one at most.
  have small : (2 : ℚ) ^ (binaryOrder num den + 1) ≤ 2 ^ (0 : Int) :=
    zpow_le_zpow_right₀ one_le_two (by omega)
  rw [zpow_zero] at small
  linarith

/-- The value of the largest number. -/
theorem value_greatest : greatest.value = (2 ^ 53 - 1) * 2 ^ (971 : Int) := by
  norm_num [value, greatest, greatestExponent]

/-- A mantissa that takes one bit more is the same number with half the mantissa. -/
theorem value_carry (mantissa : Nat) (power : Int) :
    (if mantissa = 0x20000000000000 then (⟨0x10000000000000, power + 1⟩ : Double)
      else ⟨mantissa, power⟩).value = mantissa * 2 ^ power := by
  split
  · rename_i full
    subst full
    -- The full mantissa is halved, and the power raised by one.
    rw [value, zpow_add_one₀ two_ne_zero]
    push_cast
    ring
  · rfl

/-- What is not larger than the largest number is rounded to no larger exponent. -/
theorem exponent_carry_le {mantissa : Nat} {scaled : ℚ} {power : Int} (least : 2 ^ 52 ≤ scaled)
    (near : |(mantissa : ℚ) - scaled| ≤ 1 / 2) (bounded : scaled * 2 ^ power ≤ greatest.value) :
    (if mantissa = 0x20000000000000 then (⟨0x10000000000000, power + 1⟩ : Double)
      else ⟨mantissa, power⟩).exponent ≤ greatestExponent := by
  -- In smaller units the number is no more of them.
  have units (lower : Int) (le : lower ≤ power) : scaled * 2 ^ lower ≤ greatest.value :=
    (mul_le_mul_of_nonneg_left (zpow_le_zpow_right₀ one_le_two le) (by linarith)).trans bounded
  have unit := two_zpow_pos 971
  rw [value_greatest] at units
  by_contra above
  unfold greatestExponent at above
  split at above
  · -- The bit that rounding up takes more is not needed below the largest mantissa.
    rename_i full
    subst full
    dsimp only at above
    have most := units 971 (by omega)
    have most : scaled ≤ 2 ^ 53 - 1 := le_of_mul_le_mul_right most unit
    have close := (abs_le.mp near).2
    push_cast at close
    linarith only [most, close]
  · dsimp only at above
    -- A larger exponent would double a mantissa that has all its bits already.
    have most := units 972 (by omega)
    have double : (2 : ℚ) ^ (972 : Int) = 2 * 2 ^ (971 : Int) := by
      rw [mul_comm, ← zpow_add_one₀ two_ne_zero]
      rfl
    rw [double, ← mul_assoc] at most
    have most : scaled * 2 ≤ 2 ^ 53 - 1 := le_of_mul_le_mul_right most unit
    linarith only [most, least]

/-- A fraction from one up to the largest number is rounded to a number that is near it. -/
theorem exists_ofFraction? {num den : Nat} (pos : 0 < den) (one : (1 : ℚ) ≤ num / den)
    (bounded : (num : ℚ) / den ≤ greatest.value) :
    ∃ x, ofFraction? num den = some x ∧ Near 1 (num / den) x.value := by
  have numPos := num_pos_of_one_le one
  have below := (binaryOrder_bounds numPos pos).1
  have order := binaryOrder_nonneg pos one
  -- At this size the last bit is 52 places behind the first one.
  have power : max (binaryOrder num den - 52) leastExponent = binaryOrder num den - 52 := by
    unfold leastExponent
    omega
  unfold ofFraction?
  rw [if_neg numPos.ne', power]
  generalize binaryOrder num den = first at below order
  obtain ⟨power, rfl⟩ : ∃ power, first = power + 52 := ⟨first - 52, by omega⟩
  rw [Int.add_sub_cancel]
  have near := abs_nearestQuotient_sub_le (scale num den power).1 (scale_pos pos num power)
  rw [scale_ratio] at near
  dsimp only
  generalize nearestQuotient (scale num den power).1 (scale num den power).2 = mantissa at near
  have unit := two_zpow_pos power
  have scaled : (num : ℚ) / den / 2 ^ power * 2 ^ power = num / den := div_mul_cancel₀ _ unit.ne'
  -- The number has all its places in front of the last bit.
  have least : (2 : ℚ) ^ 52 * 2 ^ power ≤ num / den := by
    rw [← zpow_natCast, ← zpow_add₀ two_ne_zero, add_comm]
    exact below
  rw [if_pos (exponent_carry_le ((le_div_iff₀ unit).mpr least) near (scaled.symm ▸ bounded))]
  -- Half of the last bit is the most that rounding loses.
  refine ⟨_, rfl, .of_abs_sub_le ?_⟩
  rw [value_carry]
  calc |(mantissa : ℚ) * 2 ^ power - num / den|
    _ = |(mantissa : ℚ) - num / den / 2 ^ power| * 2 ^ power := by
      rw [← abs_of_pos unit, ← abs_mul, abs_of_pos unit, sub_mul, scaled]
    _ ≤ 1 / 2 * 2 ^ power := mul_le_mul_of_nonneg_right near unit.le
    _ = 2 ^ 52 * 2 ^ power * roundoff := by rw [roundoff]; ring
    _ ≤ num / den * roundoff := mul_le_mul_of_nonneg_right least roundoff_pos.le

/-- A natural number up to the largest number has one near it. -/
theorem near_ofNat {n : Nat} (pos : 0 < n) (bounded : (n : ℚ) ≤ greatest.value) :
    Near 1 n (ofNat n).value := by
  -- A whole number is a fraction over one, and as such it is rounded.
  have whole : (n : ℚ) / (1 : Nat) = n := by rw [Nat.cast_one, div_one]
  have one : (1 : ℚ) ≤ n := by exact_mod_cast pos
  obtain ⟨x, rounded, near⟩ :=
    exists_ofFraction? Nat.one_pos (whole.symm ▸ one) (whole.symm ▸ bounded)
  rw [ofNat, rounded]
  rwa [whole] at near

/-- A product from one up to the largest number is rounded to a number that is near it. -/
theorem exists_mul? {x y : Double} (one : 1 ≤ x.value * y.value)
    (bounded : x.value * y.value ≤ greatest.value) :
    ∃ z, x.mul? y = some z ∧ Near 1 (x.value * y.value) z.value := by
  -- The product of two fractions is the fraction of their products.
  have ratio : ((x.toFraction.1 * y.toFraction.1 : Nat) : ℚ) /
      (x.toFraction.2 * y.toFraction.2 : Nat) = x.value * y.value := by
    rw [← toFraction_ratio, ← toFraction_ratio, Nat.cast_mul, Nat.cast_mul, div_mul_div_comm]
  have rounded := exists_ofFraction? (Nat.mul_pos x.toFraction_pos y.toFraction_pos)
    (ratio.symm ▸ one) (ratio.symm ▸ bounded)
  rwa [ratio] at rounded

end Manuscript.Double
