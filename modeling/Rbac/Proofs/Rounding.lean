import Mathlib.Algebra.Order.Floor.Semifield
import Mathlib.Data.Rat.Floor
import Mathlib.Tactic.FieldSimp
import Mathlib.Tactic.Linarith
import Mathlib.Tactic.Qify
import Rbac.Number.Binary

namespace Rbac.Number

theorem twoTo_eq (exponent : Nat) : twoTo exponent = 2 ^ exponent := rfl

/-- What a fraction is rounded to is at most half away from it. -/
theorem roundEven_error (numerator : Nat) {denominator : Nat} (hpositive : 0 < denominator) :
    2 * numerator ≤ 2 * (roundEven numerator denominator * denominator) + denominator ∧
      2 * (roundEven numerator denominator * denominator) ≤ 2 * numerator + denominator := by
  have hparts := Nat.div_add_mod' numerator denominator
  have hrest := Nat.mod_lt numerator hpositive
  have hnear : (roundEven numerator denominator = numerator / denominator ∧
      2 * (numerator % denominator) ≤ denominator) ∨
      (roundEven numerator denominator = numerator / denominator + 1 ∧
        denominator ≤ 2 * (numerator % denominator)) := by
    grind [roundEven]
  rcases hnear with ⟨heq, hdown⟩ | ⟨heq, hup⟩
  · rw [heq]
    omega
  · rw [heq, Nat.add_mul, Nat.one_mul]
    omega

namespace Binary

variable {numerator denominator : Nat}

theorem overPower_neg (numerator denominator places : Nat) :
    overPower numerator denominator (-(places : Int)) =
      (numerator * 2 ^ places, denominator) := by
  by_cases hzero : (0 : Int) ≤ -(places : Int)
  · obtain rfl : places = 0 := by omega
    simp [overPower, twoTo_eq]
  · simp only [overPower, if_neg hzero, neg_neg, Int.toNat_natCast, twoTo_eq]

theorem overPower_nonneg (numerator denominator places : Nat) :
    overPower numerator denominator (places : Int) = (numerator, denominator * 2 ^ places) := by
  simp [overPower, twoTo_eq]

theorem overPower_value (numerator : Nat) (hdenominator : 0 < denominator) (exponent : Int) :
    ∃ upper lower : Nat, overPower numerator denominator exponent = (upper, lower) ∧ 0 < lower ∧
      (upper : ℚ) / lower = numerator / denominator * 2 ^ (-exponent) := by
  have hpower : ∀ places : Nat, (2 : ℚ) ^ places ≠ 0 := fun places => by positivity
  have hcast : (denominator : ℚ) ≠ 0 := by positivity
  obtain ⟨places, rfl | rfl⟩ := exponent.eq_nat_or_neg
  · refine ⟨_, _, overPower_nonneg numerator denominator places, by positivity, ?_⟩
    rw [zpow_neg, zpow_natCast]
    push_cast
    field_simp
  · refine ⟨_, _, overPower_neg numerator denominator places, hdenominator, ?_⟩
    rw [neg_neg, zpow_natCast]
    push_cast
    field_simp

theorem scaled_lt (numerator : Nat) (hdenominator : 0 < denominator) {places bits : Nat}
    (h : numerator.log2 + 1 + places ≤ bits + denominator.log2) :
    numerator * 2 ^ places < 2 ^ bits * denominator := by
  calc numerator * 2 ^ places
      < 2 ^ (numerator.log2 + 1) * 2 ^ places := by gcongr; exact Nat.lt_log2_self
    _ = 2 ^ (numerator.log2 + 1 + places) := by rw [Nat.pow_add _ (numerator.log2 + 1)]
    _ ≤ 2 ^ (bits + denominator.log2) := Nat.pow_le_pow_right (by decide) h
    _ = 2 ^ bits * 2 ^ denominator.log2 := Nat.pow_add _ _ _
    _ ≤ 2 ^ bits * denominator := Nat.mul_le_mul_left _ (Nat.log2_self_le hdenominator.ne')

theorem lt_scaled (denominator : Nat) (hnumerator : 0 < numerator) {places bits : Nat}
    (h : bits + (denominator.log2 + 1) ≤ numerator.log2 + places) :
    2 ^ bits * denominator < numerator * 2 ^ places := by
  calc 2 ^ bits * denominator
      < 2 ^ bits * 2 ^ (denominator.log2 + 1) := by gcongr; exact Nat.lt_log2_self
    _ = 2 ^ (bits + (denominator.log2 + 1)) := (Nat.pow_add _ _ _).symm
    _ ≤ 2 ^ (numerator.log2 + places) := Nat.pow_le_pow_right (by decide) h
    _ = 2 ^ numerator.log2 * 2 ^ places := Nat.pow_add _ _ _
    _ ≤ numerator * 2 ^ places := Nat.mul_le_mul_right _ (Nat.log2_self_le hnumerator.ne')

/-- A fraction below 2^53 is rounded to a number of binary places. With them it has at most 53 bits,
and no fewer if it is at least a half. -/
theorem exponentOf_places (hnumerator : 0 < numerator) (hdenominator : 0 < denominator)
    (hbelow : numerator < 2 ^ 53 * denominator) :
    ∃ places : Nat, exponentOf numerator denominator = -(places : Int) ∧
      numerator * 2 ^ places < 2 ^ 53 * denominator ∧
      (denominator ≤ 2 * numerator → 2 ^ 52 * denominator ≤ numerator * 2 ^ places) := by
  have hlogs : numerator.log2 < denominator.log2 + 54 := by
    by_contra hlarge
    have hscaled : 2 ^ 53 * denominator < numerator * 2 ^ 0 :=
      lt_scaled denominator hnumerator (by omega)
    omega
  obtain ⟨guess, hguess⟩ :
      ∃ guess : Nat, guess = min (denominator.log2 + 53 - numerator.log2) 1074 := ⟨_, rfl⟩
  have hexponent : max ((numerator.log2 : Int) - denominator.log2 - 53) minExponent =
      -(guess : Int) := by
    simp only [minExponent]
    omega
  simp only [exponentOf, hexponent, overPower_neg, twoTo_eq, Nat.le_div_iff_mul_le hdenominator]
  split
  case isTrue hfull =>
    -- The guess has a place too many. It has one at all, since the fraction is below 2^53.
    cases guess with
    | zero => omega
    | succ places =>
      have hupper : numerator * 2 ^ (places + 1) < 2 ^ 54 * denominator :=
        scaled_lt numerator hdenominator (by omega)
      have hdouble : numerator * 2 ^ (places + 1) = 2 * (numerator * 2 ^ places) := by ring
      rw [hdouble] at hupper hfull
      exact ⟨places, by omega, by omega, fun _ => by omega⟩
  case isFalse hlower =>
    refine ⟨guess, rfl, Nat.not_le.mp hlower, fun hhalf => ?_⟩
    have hlogs' : denominator.log2 ≤ numerator.log2 + 1 := by
      by_contra hlarge
      have hscaled : numerator * 2 ^ 1 < 2 ^ 0 * denominator :=
        scaled_lt numerator hdenominator (by omega)
      omega
    exact (lt_scaled denominator hnumerator (by omega)).le

/-- An exact number is rounded to a number of binary places, and counted in units of the last one.
-/
structure Rounds (exact : ℚ) (places units : Nat) : Prop where
  near : |(units : ℚ) - exact * 2 ^ places| ≤ 1 / 2
  below : exact * 2 ^ places < 2 ^ 53
  full : 1 / 2 ≤ exact → 2 ^ 52 ≤ exact * 2 ^ places

def RoundsTo (exact : ℚ) (number : Binary) : Prop :=
  ∃ (mantissa : Nat) (exponent : Int) (places units : Nat),
    number = .finite false mantissa exponent ∧ (mantissa : ℚ) * 2 ^ exponent = units / 2 ^ places ∧
      Rounds exact places units

theorem roundEven_rounds {places : Nat} (hdenominator : 0 < denominator)
    (hbelow : numerator * 2 ^ places < 2 ^ 53 * denominator)
    (hfull : denominator ≤ 2 * numerator → 2 ^ 52 * denominator ≤ numerator * 2 ^ places) :
    Rounds (numerator / denominator) places (roundEven (numerator * 2 ^ places) denominator) := by
  have hcast : (0 : ℚ) < denominator := by positivity
  have hscaled : (numerator : ℚ) / denominator * 2 ^ places * denominator =
      (numerator * 2 ^ places : Nat) := by
    push_cast
    field_simp
  refine ⟨?_, ?_, ?_⟩
  · obtain ⟨hlow, hhigh⟩ := roundEven_error (numerator * 2 ^ places) hdenominator
    generalize roundEven (numerator * 2 ^ places) denominator = units at *
    rw [← mul_le_mul_iff_left₀ hcast, ← abs_of_pos hcast, ← abs_mul, sub_mul, abs_of_pos hcast,
      hscaled, abs_le]
    qify at hlow hhigh
    constructor
    · push_cast
      linarith
    · push_cast
      linarith
  · rw [← mul_lt_mul_iff_left₀ hcast, hscaled]
    exact_mod_cast hbelow
  · intro hhalf
    rw [div_le_div_iff₀ two_pos hcast] at hhalf
    rw [← mul_le_mul_iff_left₀ hcast, hscaled]
    have hhalf' : denominator ≤ 2 * numerator := by
      qify
      linarith
    exact_mod_cast hfull hhalf'

theorem ofFraction_rounds (hdenominator : 0 < denominator)
    (hbelow : (numerator : ℚ) / denominator < 2 ^ 53) :
    RoundsTo (numerator / denominator) (ofFraction false numerator denominator) := by
  rcases Nat.eq_zero_or_pos numerator with rfl | hnumerator
  · exact ⟨0, 0, 0, 0, rfl, by simp, by simp, by simp, by simp⟩
  have hbelow' : numerator < 2 ^ 53 * denominator := by
    rw [div_lt_iff₀ (by positivity)] at hbelow
    exact_mod_cast hbelow
  obtain ⟨places, hexponent, hscaled, hfull⟩ :=
    exponentOf_places hnumerator hdenominator hbelow'
  have hrounds := roundEven_rounds hdenominator hscaled hfull
  have hzero : (numerator == 0 || denominator == 0) = false := by
    simp [hnumerator.ne', hdenominator.ne']
  have hrange : ∀ exponent : Int, exponent ≤ 1 → ¬ maxExponent < exponent := by
    intro exponent hle
    simp only [maxExponent]
    omega
  simp only [ofFraction, hzero, hexponent, overPower_neg, twoTo_eq]
  cases hcarry : roundEven (numerator * 2 ^ places) denominator == 2 ^ 53 with
  | true =>
    -- A mantissa of 54 bits is halved, which leaves the number as it is.
    refine ⟨2 ^ 52, -(places : Int) + 1, places, _, ?_, ?_, hrounds⟩
    · simp only [Bool.false_eq_true, if_false, if_true,
        if_neg (hrange (-(places : Int) + 1) (by omega))]
    · rw [eq_of_beq hcarry, zpow_add₀ two_ne_zero, zpow_neg, zpow_natCast]
      push_cast
      ring
  | false =>
    refine ⟨roundEven (numerator * 2 ^ places) denominator, -(places : Int), places, _, ?_, ?_,
      hrounds⟩
    · simp only [Bool.false_eq_true, if_false, if_neg (hrange (-(places : Int)) (by omega))]
    · rw [zpow_neg, zpow_natCast]
      ring

namespace Rounds

variable {exact : ℚ} {places units whole : Nat}

theorem lt_places (h : Rounds exact places units) {bits : Nat} (hhalf : 1 / 2 ≤ exact)
    (hbits : exact < 2 ^ bits) : 52 < bits + places := by
  apply (pow_lt_pow_iff_right₀ (one_lt_two : (1 : ℚ) < 2)).mp
  calc (2 : ℚ) ^ 52
      ≤ exact * 2 ^ places := h.full hhalf
    _ < 2 ^ bits * 2 ^ places := by gcongr
    _ = 2 ^ (bits + places) := (pow_add 2 bits places).symm

theorem le_div (h : Rounds exact places units)
    (hnear : whole * 2 ^ places < exact * 2 ^ places + 1 / 2) :
    (whole : ℚ) ≤ units / 2 ^ places := by
  have hunits : ((whole * 2 ^ places : Nat) : ℚ) < (units + 1 : Nat) := by
    have hlow := (abs_le.mp h.near).1
    push_cast
    linarith
  rw [le_div_iff₀ (by positivity)]
  exact_mod_cast Nat.le_of_lt_succ (Nat.cast_lt.mp hunits)

theorem div_le (h : Rounds exact places units)
    (hnear : exact * 2 ^ places < whole * 2 ^ places + 1 / 2) :
    (units : ℚ) / 2 ^ places ≤ whole := by
  have hunits : (units : ℚ) < (whole * 2 ^ places + 1 : Nat) := by
    have hhigh := (abs_le.mp h.near).2
    push_cast
    linarith
  rw [div_le_iff₀ (by positivity)]
  exact_mod_cast Nat.le_of_lt_succ (Nat.cast_lt.mp hunits)

theorem div_lt (h : Rounds exact places units)
    (hfar : exact * 2 ^ places + 1 / 2 < whole * 2 ^ places) :
    (units : ℚ) / 2 ^ places < whole := by
  have hhigh := (abs_le.mp h.near).2
  rw [div_lt_iff₀ (by positivity)]
  linarith

theorem floor_le (h : Rounds exact places units) (hpositive : 0 ≤ exact) :
    ⌊exact⌋₊ ≤ ⌊(units : ℚ) / 2 ^ places⌋₊ := by
  have hscaled : ⌊exact⌋₊ * 2 ^ places ≤ exact * 2 ^ places := by
    gcongr
    exact Nat.floor_le hpositive
  exact Nat.le_floor (h.le_div (by linarith))

theorem le_ceil (h : Rounds exact places units) : ⌊(units : ℚ) / 2 ^ places⌋₊ ≤ ⌈exact⌉₊ := by
  have hscaled : exact * 2 ^ places ≤ ⌈exact⌉₊ * 2 ^ places := by
    gcongr
    exact Nat.le_ceil exact
  exact Nat.floor_le_of_le (h.div_le (by linarith))

theorem div_eq (h : Rounds whole places units) : (units : ℚ) / 2 ^ places = whole :=
  le_antisymm (h.div_le (by linarith)) (h.le_div (by linarith))

end Rounds

theorem truncate_eq_floor (mantissa : Nat) (exponent : Int) :
    (Binary.finite false mantissa exponent).truncate =
      (⌊(mantissa : ℚ) * 2 ^ exponent⌋₊ : Int) := by
  by_cases hwhole : 0 ≤ exponent
  · lift exponent to Nat using hwhole
    have hvalue : (mantissa : ℚ) * 2 ^ (exponent : Int) = (mantissa * 2 ^ exponent : Nat) := by
      rw [zpow_natCast]
      push_cast
      rfl
    rw [hvalue, Nat.floor_natCast]
    simp [truncate, twoTo_eq]
  · obtain ⟨places, rfl⟩ : ∃ places : Nat, exponent = -(places : Int) :=
      ⟨(-exponent).toNat, by omega⟩
    have hvalue : (mantissa : ℚ) * 2 ^ (-(places : Int)) = mantissa / (2 ^ places : Nat) := by
      rw [zpow_neg, zpow_natCast]
      push_cast
      rfl
    rw [hvalue, Nat.floor_div_eq_div]
    simp only [truncate, if_neg hwhole, neg_neg, Int.toNat_natCast, twoTo_eq, Bool.false_eq_true,
      if_false]

theorem ofInt_value {whole : Nat} (hbelow : whole < 2 ^ 53) :
    ∃ (mantissa : Nat) (exponent : Int), ofInt whole = .finite false mantissa exponent ∧
      (mantissa : ℚ) * 2 ^ exponent = whole := by
  have hnegative : decide ((whole : Int) < 0) = false := by simp
  rw [ofInt, hnegative, Int.natAbs_natCast]
  have hbelow' : (whole : ℚ) / (1 : Nat) < 2 ^ 53 := by
    rw [Nat.cast_one, div_one]
    exact_mod_cast hbelow
  obtain ⟨mantissa, exponent, places, units, hvalue, hunits, hrounds⟩ :=
    ofFraction_rounds one_pos hbelow'
  rw [Nat.cast_one, div_one] at hrounds
  exact ⟨mantissa, exponent, hvalue, hunits.trans hrounds.div_eq⟩

theorem mul_rounds {mantissa factor : Nat} {exponent power : Int}
    (hbelow : (mantissa : ℚ) * 2 ^ exponent * (factor * 2 ^ power) < 2 ^ 53) :
    RoundsTo (mantissa * 2 ^ exponent * (factor * 2 ^ power))
      ((Binary.finite false mantissa exponent).mul (.finite false factor power)) := by
  obtain ⟨upper, lower, hparts, hlower, hvalue⟩ :=
    overPower_value (mantissa * factor) one_pos (-(exponent + power))
  have hproduct : (upper : ℚ) / lower = mantissa * 2 ^ exponent * (factor * 2 ^ power) := by
    rw [hvalue, neg_neg, zpow_add₀ two_ne_zero]
    push_cast
    ring
  rw [← hproduct] at hbelow ⊢
  simpa only [mul, isNegative, hparts, bne_self_eq_false] using ofFraction_rounds hlower hbelow

end Binary
end Rbac.Number
