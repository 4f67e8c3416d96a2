import ExactCalc.Proofs.DivisionFree
import ExactCalc.Proofs.EnclosingLets

/-!
# The estimated number of digits

An integer that is too long to be shown in full is shown by an estimate of the number of
its decimal digits. The estimate is the number of its binary digits times a logarithm,
both of them rounded, and it is off by one digit at most for every integer of up to
`2 ^ 36` binary digits.

The argument stays with whole numbers. The logarithm of two to base ten lies between two
fractions, which two comparisons of powers show, and rounding changes a number by its
`2 ^ 53`rd part at most; for that many digits both errors together stay below one.
-/

namespace ExactCalc

/-! ## Rounding -/

/-- The nearest whole number is half a unit away at most. -/
theorem nearestEven_bounds (num den : ℕ) (hden : 0 < den) :
    2 * num ≤ 2 * (nearestEven num den * den) + den ∧
      2 * (nearestEven num den * den) ≤ 2 * num + den := by
  have hsplit : num / den * den + num % den = num := Nat.div_add_mod' num den
  have hrest : num % den < den := Nat.mod_lt num hden
  unfold nearestEven
  dsimp only
  split_ifs with hlow hhigh
  · omega
  · rw [Nat.add_mul, Nat.one_mul]
    omega
  · rcases Nat.mod_two_eq_zero_or_one (num / den) with heven | hodd
    · rw [heven, Nat.add_zero]
      omega
    · rw [hodd, Nat.add_mul, Nat.one_mul]
      omega

theorem pow_pred_bitLength_le {n : ℕ} (h : n ≠ 0) : 2 ^ (bitLength n - 1) ≤ n := by
  by_contra hlt
  have hshort : bitLength n ≤ bitLength n - 1 := bitLength_le_iff.mpr (not_le.mp hlt)
  have hpos : bitLength n ≠ 0 := by
    intro hzero
    have hone : n < 2 ^ 0 := bitLength_le_iff.mp hzero.le
    omega
  omega

/-- Keeping `width` binary digits changes a number by its `2 ^ width`th part at most. -/
theorem roundToWidth_bounds {width : ℕ} (hwidth : 0 < width) (n : ℕ) :
    2 ^ width * n ≤ 2 ^ width * roundToWidth width n + n ∧
      2 ^ width * roundToWidth width n ≤ 2 ^ width * n + n := by
  obtain ⟨unit, hunit⟩ : ∃ unit, 2 ^ (bitLength n - width) = unit := ⟨_, rfl⟩
  have hround : roundToWidth width n = nearestEven n unit * unit := by
    rw [← hunit]
    rfl
  obtain ⟨hlow, hhigh⟩ := nearestEven_bounds n unit (hunit ▸ Nat.two_pow_pos _)
  rw [← hround] at hlow hhigh
  by_cases hshort : bitLength n ≤ width
  · -- The unit is one, so that nothing changes.
    rw [Nat.sub_eq_zero_of_le hshort, pow_zero] at hunit
    have hsame : roundToWidth width n = n := by omega
    rw [hsame]
    omega
  · have hn : n ≠ 0 := by
      rintro rfl
      exact hshort (Nat.zero_le width)
    have hpart : 2 ^ width * unit ≤ 2 * n := by
      calc
        2 ^ width * unit = 2 * 2 ^ (bitLength n - 1) := by
          rw [← hunit, ← pow_add, ← pow_succ']
          congr 1
          omega
        _ ≤ 2 * n := Nat.mul_le_mul_left 2 (pow_pred_bitLength_le hn)
    have hbelow := Nat.mul_le_mul_left (2 ^ width) hlow
    have habove := Nat.mul_le_mul_left (2 ^ width) hhigh
    simp only [Nat.mul_add, Nat.mul_left_comm (2 ^ width) 2] at hbelow habove
    omega

/-! ## The logarithm between two fractions -/

/-- A comparison of two powers carries over to all powers with exponents in that ratio. -/
theorem pow_le_pow_of_ratio {x y p q k m : ℕ} (hp : p ≠ 0) (hy : 0 < y) (h : x ^ p ≤ y ^ q)
    (hratio : k * q ≤ m * p) : x ^ k ≤ y ^ m := by
  rw [← Nat.pow_le_pow_iff_left hp]
  calc
    (x ^ k) ^ p = (x ^ p) ^ k := by rw [← pow_mul, ← pow_mul, mul_comm]
    _ ≤ (y ^ q) ^ k := Nat.pow_le_pow_left h k
    _ = y ^ (k * q) := by rw [← pow_mul, mul_comm]
    _ ≤ y ^ (m * p) := Nat.pow_le_pow_right hy hratio
    _ = (y ^ m) ^ p := pow_mul y m p

/-- The logarithm of two to base ten is not less than `97879 / 325147`. -/
theorem le_logarithm : 10 ^ 97879 ≤ 2 ^ 325147 := by decide +kernel

/-- The logarithm of two to base ten is not more than `76573 / 254370`. -/
theorem logarithm_le : 2 ^ 254370 ≤ 10 ^ 76573 := by decide +kernel

namespace Numeral

theorem pow_pred_digitCount_le {n : ℤ} (hn : n ≠ 0) : 10 ^ (digitCount n - 1) ≤ n.natAbs := by
  by_contra hlt
  have hpos : 0 < digitCount n := List.length_pos_iff.mpr Nat.toDigits_ne_nil
  by_cases hone : digitCount n - 1 = 0
  · rw [hone, pow_zero] at hlt
    omega
  · have hle : digitCount n ≤ digitCount n - 1 :=
      (digitCount_le_iff (Nat.pos_of_ne_zero hone)).mpr (not_le.mp hlt)
    omega

/-- The numbers of binary and of decimal digits are in the ratio of the logarithm. -/
theorem digitCount_bounds {n : ℤ} (hn : n ≠ 0) :
    (bitLength n.natAbs - 1) * 97879 < digitCount n * 325147 ∧
      (digitCount n - 1) * 254370 < bitLength n.natAbs * 76573 := by
  have hpos : 0 < digitCount n := List.length_pos_iff.mpr Nat.toDigits_ne_nil
  have hbelow : 2 ^ (bitLength n.natAbs - 1) ≤ n.natAbs :=
    pow_pred_bitLength_le (Int.natAbs_ne_zero.mpr hn)
  have habove : n.natAbs < 2 ^ bitLength n.natAbs := bitLength_le_iff.mp le_rfl
  have hhigh : n.natAbs < 10 ^ digitCount n := (digitCount_le_iff hpos).mp le_rfl
  have hlow : 10 ^ (digitCount n - 1) ≤ n.natAbs := pow_pred_digitCount_le hn
  constructor
  · by_contra h
    have hpow : 10 ^ digitCount n ≤ 2 ^ (bitLength n.natAbs - 1) :=
      pow_le_pow_of_ratio (by decide) (by decide) le_logarithm (not_lt.mp h)
    exact absurd (hhigh.trans_le (hpow.trans hbelow)) (lt_irrefl _)
  · by_contra h
    have hpow : 2 ^ bitLength n.natAbs ≤ 10 ^ (digitCount n - 1) :=
      pow_le_pow_of_ratio (by decide) (by decide) logarithm_le (not_lt.mp h)
    exact absurd (habove.trans_le (hpow.trans hlow)) (lt_irrefl _)

/-- The estimate is off by one digit at most. -/
theorem digitEstimate_near {n : ℤ} (h : bitLength n.natAbs ≤ 2 ^ 36) :
    digitEstimate (bitLength n.natAbs) ≤ digitCount n + 1 ∧
      digitCount n ≤ digitEstimate (bitLength n.natAbs) + 1 := by
  by_cases hn : n = 0
  · subst hn
    decide
  obtain ⟨hlow, hhigh⟩ := digitCount_bounds hn
  obtain ⟨bits, hbits⟩ : ∃ bits, bitLength n.natAbs = bits := ⟨_, rfl⟩
  rw [hbits] at h hlow hhigh ⊢
  have hestimate : digitEstimate bits = roundToWidth 53 (bits * logTenOfTwo) / 2 ^ 54 + 1 := rfl
  obtain ⟨hbelow, habove⟩ := roundToWidth_bounds (show 0 < 53 by decide) (bits * logTenOfTwo)
  -- All that is left is linear in the numbers of digits and in the rounded product.
  rw [hestimate]
  rw [logTenOfTwo] at hbelow habove ⊢
  omega

/-- What is shown in place of a long integer is its number of digits, give or take one. -/
theorem display_near {n : ℤ} (hlong : 10000 < bitLength n.natAbs)
    (h : bitLength n.natAbs ≤ 2 ^ 36) :
    ∃ digits : ℕ, display n = (if n < 0 then "-" else "") ++ "<~" ++ digits.repr ++ " digits>" ∧
      digits ≤ digitCount n + 1 ∧ digitCount n ≤ digits + 1 :=
  ⟨_, display_of_lt hlong, digitEstimate_near h⟩

end Numeral

end ExactCalc
