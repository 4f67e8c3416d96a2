import ExactCalc.Proofs.FractionValue

/-!
# Laws of uncancelled fractions

Addition and multiplication of fractions are commutative and associative, with
zero and one as units, in both parts and not only in value, although nothing is
ever cancelled. Two fractions of one value are equal as soon as they have the same
denominator, so each law comes down to one about denominators: the common
denominator is given by its sign, the product of the two signs, and by its
absolute value, the least common multiple.
-/

namespace ExactCalc.Fraction

/-! ## The common denominator -/

theorem sign_commonDenominator (a b : ℤ) : (commonDenominator a b).sign = a.sign * b.sign := by
  by_cases hgcd : a.gcd b = 0
  · obtain ⟨rfl, rfl⟩ := Int.gcd_eq_zero_iff.mp hgcd
    rfl
  · have hpositive : ((a.gcd b : ℕ) : ℤ).sign = 1 := Int.sign_eq_one_of_pos (by omega)
    calc
      (commonDenominator a b).sign = (commonDenominator a b).sign * ((a.gcd b : ℕ) : ℤ).sign := by
        rw [hpositive, mul_one]
      _ = (a * b).sign := by rw [← Int.sign_mul, commonDenominator_mul_gcd]
      _ = a.sign * b.sign := Int.sign_mul a b

theorem natAbs_commonDenominator (a b : ℤ) : (commonDenominator a b).natAbs = a.lcm b := by
  by_cases hgcd : a.gcd b = 0
  · obtain ⟨rfl, rfl⟩ := Int.gcd_eq_zero_iff.mp hgcd
    rfl
  · have hproduct := congrArg Int.natAbs (commonDenominator_mul_gcd a b)
    rw [Int.natAbs_mul, Int.natAbs_mul, Int.natAbs_natCast] at hproduct
    apply Nat.eq_of_mul_eq_mul_left (Nat.pos_of_ne_zero hgcd)
    rw [Int.gcd_mul_lcm, ← hproduct, mul_comm]

/-- An integer is known by its sign and its absolute value. -/
theorem eq_of_sign_of_natAbs {m n : ℤ} (hsign : m.sign = n.sign) (habs : m.natAbs = n.natAbs) :
    m = n := by
  rw [← Int.sign_mul_natAbs m, hsign, habs, Int.sign_mul_natAbs]

theorem commonDenominator_comm (a b : ℤ) : commonDenominator a b = commonDenominator b a := by
  rw [commonDenominator, commonDenominator, mul_comm, Int.gcd_comm]

theorem commonDenominator_assoc (a b c : ℤ) :
    commonDenominator (commonDenominator a b) c = commonDenominator a (commonDenominator b c) := by
  apply eq_of_sign_of_natAbs
  · simp only [sign_commonDenominator, mul_assoc]
  · rw [natAbs_commonDenominator, natAbs_commonDenominator, Int.lcm, Int.lcm,
      natAbs_commonDenominator, natAbs_commonDenominator]
    exact Nat.lcm_assoc a.natAbs b.natAbs c.natAbs

@[simp] theorem commonDenominator_one (a : ℤ) : commonDenominator a 1 = a := by
  simp [commonDenominator]

/-! ## Equality of both parts -/

theorem eq_of_value_of_den {a b : Fraction} (hvalue : a.value = b.value) (hden : a.den = b.den) :
    a = b := by
  obtain ⟨n, d, hd⟩ := a
  obtain ⟨m, e, he⟩ := b
  obtain rfl : d = e := hden
  have hd' : (d : ℚ) ≠ 0 := Int.cast_ne_zero.mpr hd
  have hnum : n = m := by
    rw [value, value, div_left_inj' hd'] at hvalue
    exact_mod_cast hvalue
  subst hnum
  rfl

section Laws

variable (a b c : Fraction)

protected theorem add_comm : a.add b = b.add a := by
  apply eq_of_value_of_den
  · rw [value_add, value_add]
    ring
  · exact commonDenominator_comm a.den b.den

protected theorem add_assoc : (a.add b).add c = a.add (b.add c) := by
  apply eq_of_value_of_den
  · simp only [value_add]
    ring
  · exact commonDenominator_assoc a.den b.den c.den

protected theorem mul_comm : a.mul b = b.mul a := by
  apply eq_of_value_of_den
  · rw [value_mul, value_mul]
    ring
  · change a.den * b.den = b.den * a.den
    ring

protected theorem mul_assoc : (a.mul b).mul c = a.mul (b.mul c) := by
  apply eq_of_value_of_den
  · simp only [value_mul]
    ring
  · change a.den * b.den * c.den = a.den * (b.den * c.den)
    ring

protected theorem add_zero : a.add (ofInt 0) = a := by
  apply eq_of_value_of_den
  · simp
  · exact commonDenominator_one a.den

protected theorem sub_zero : a.sub (ofInt 0) = a := a.add_zero

protected theorem mul_one : a.mul (ofInt 1) = a := by
  apply eq_of_value_of_den
  · simp
  · change a.den * 1 = a.den
    ring

protected theorem div_one : a.div? (ofInt 1) = some a := congrArg some a.mul_one

end Laws

end ExactCalc.Fraction
