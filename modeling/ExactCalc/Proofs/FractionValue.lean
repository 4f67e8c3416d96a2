import ExactCalc.Fraction
import Mathlib

/-!
# The value of a fraction

A fraction stands for a rational number, whatever the sign of its denominator and
whatever could still be cancelled. Every operation on fractions is the operation
on their values, a fraction has no reciprocal exactly when its value is zero, and
the integer part depends on the value alone.
-/

namespace ExactCalc

/-- The integer next to a rational number on the side of zero. -/
def towardZero (q : ℚ) : ℤ := if 0 ≤ q then ⌊q⌋ else ⌈q⌉

theorem towardZero_neg (q : ℚ) : towardZero (-q) = -towardZero q := by
  rcases lt_trichotomy q 0 with h | rfl | h
  · rw [towardZero, towardZero, if_pos (by linarith), if_neg (by linarith), Int.floor_neg]
  · simp [towardZero]
  · rw [towardZero, towardZero, if_neg (by linarith), if_pos h.le, Int.ceil_neg]

/-- Division of integers with the quotient rounded toward zero, as a rounded rational number. -/
theorem towardZero_div (n d : ℤ) : towardZero ((n : ℚ) / d) = n.tdiv d := by
  have natural : ∀ a b : ℕ, towardZero ((a : ℚ) / b) = ((a : ℤ).tdiv b : ℤ) := by
    intro a b
    rw [towardZero, if_pos (by positivity), Int.natCast_tdiv_eq_ediv]
    rw [← Int.cast_natCast (R := ℚ) a]
    exact Rat.floor_intCast_div_natCast a b
  -- Both sides change sign with either argument, so natural numbers suffice.
  obtain ⟨a, rfl | rfl⟩ := n.eq_nat_or_neg <;> obtain ⟨b, rfl | rfl⟩ := d.eq_nat_or_neg
  · simpa using natural a b
  · simpa [div_neg, towardZero_neg] using natural a b
  · simpa [neg_div, towardZero_neg] using natural a b
  · simpa [neg_div_neg_eq] using natural a b

namespace Fraction

/-- The rational number that a fraction stands for. -/
def value (a : Fraction) : ℚ := a.num / a.den

@[simp] theorem value_ofInt (n : ℤ) : (ofInt n).value = n := by simp [value, ofInt]

theorem value_eq_zero_iff (a : Fraction) : a.value = 0 ↔ a.num = 0 := by
  simp [value, a.den_ne_zero]

theorem dvd_commonDenominator (a b : ℤ) :
    a ∣ commonDenominator a b ∧ b ∣ commonDenominator a b := by
  by_cases h : (a.gcd b : ℤ) = 0
  · have hab : a = 0 ∧ b = 0 := Int.gcd_eq_zero_iff.mp (by exact_mod_cast h)
    simp [hab.1, hab.2, commonDenominator]
  have hm := commonDenominator_mul_gcd a b
  obtain ⟨s, hs⟩ := Int.gcd_dvd_left a b
  obtain ⟨t, ht⟩ := Int.gcd_dvd_right a b
  refine ⟨⟨t, mul_right_cancel₀ h ?_⟩, ⟨s, mul_right_cancel₀ h ?_⟩⟩
  · calc
      commonDenominator a b * a.gcd b = a * b := hm
      _ = a * (a.gcd b * t) := by rw [← ht]
      _ = a * t * a.gcd b := by ring
  · calc
      commonDenominator a b * a.gcd b = a * b := hm
      _ = a.gcd b * s * b := by rw [← hs]
      _ = b * s * a.gcd b := by ring

/-- Bringing one numerator over a multiple of its denominator keeps the value. -/
theorem scaled_div {den : ℤ} (a : Fraction) (hden : den ≠ 0) (h : a.den ∣ den) :
    ((a.num * den.fdiv a.den : ℤ) : ℚ) / den = a.value := by
  obtain ⟨k, rfl⟩ := h
  have hk : k ≠ 0 := right_ne_zero_of_mul hden
  rw [Int.mul_fdiv_cancel_left k a.den_ne_zero, value]
  push_cast
  rw [mul_div_mul_right _ _ (Int.cast_ne_zero.mpr hk)]

@[simp] theorem value_add (a b : Fraction) : (a.add b).value = a.value + b.value := by
  have hden := commonDenominator_ne_zero a.den_ne_zero b.den_ne_zero
  obtain ⟨ha, hb⟩ := dvd_commonDenominator a.den b.den
  calc
    (a.add b).value =
        ((a.num * (commonDenominator a.den b.den).fdiv a.den : ℤ) : ℚ) /
            commonDenominator a.den b.den +
          ((b.num * (commonDenominator a.den b.den).fdiv b.den : ℤ) : ℚ) /
            commonDenominator a.den b.den := by
      rw [value, add, Int.cast_add, add_div]
    _ = a.value + b.value := by rw [scaled_div a hden ha, scaled_div b hden hb]

@[simp] theorem value_neg (a : Fraction) : a.neg.value = -a.value := by
  simp [value, neg, neg_div]

@[simp] theorem value_sub (a b : Fraction) : (a.sub b).value = a.value - b.value := by
  rw [sub, value_add, value_neg, sub_eq_add_neg]

@[simp] theorem value_mul (a b : Fraction) : (a.mul b).value = a.value * b.value := by
  simp [value, mul, mul_div_mul_comm]

theorem div?_eq_none_iff (a b : Fraction) : a.div? b = none ↔ b.value = 0 := by
  simp [div?, value_eq_zero_iff]

theorem value_of_div? {a b c : Fraction} (h : a.div? b = some c) :
    c.value = a.value / b.value := by
  unfold div? at h
  split_ifs at h with hb
  cases h
  rw [value_mul, div_eq_mul_inv]
  simp [value]

/-- The integer part is taken from the value: cancelling first would change nothing. -/
theorem truncate_eq (a : Fraction) : a.truncate = towardZero a.value :=
  (towardZero_div a.num a.den).symm

end Fraction

end ExactCalc
