import ExactCalc.Draft
import Mathlib

/-!
# Guarded arithmetic

The operations on fractions once more, with a guard wherever an operation could
have no result: a division tests its divisor, and a fraction is put together only
after its denominator was tested. A guarded operation ends where a guard is not
met; here it is shown that none of them ever does, and that each gives the result
of the operation without guards.
-/

namespace ExactCalc

/-- What a calculation could break off with beside the failures that it reports. -/
inductive Hazard
  | zeroDivisor
  | zeroDenominator
  | noCharacter (place : ℕ)
  | noArgument (index : ℕ)
  | badTree (problems : List Draft.Problem)
  | unknownOperator (op : String)
  | unnamedBinding
  | noExpression
  | longNumeral (digits : ℕ)
  deriving DecidableEq, Repr

/-- Why a guarded calculation ends early. -/
inductive Break
  | failure (failure : Failure)
  | hazard (hazard : Hazard)
  deriving DecidableEq, Repr

abbrev Guarded (α : Type) := Except Break α

namespace Guarded

@[simp] theorem ok_bind {α β : Type} (a : α) (next : α → Guarded β) :
    (Except.ok a : Guarded α) >>= next = next a := rfl

/-! ## Integers -/

/-- The quotient rounded down, for a divisor other than zero. -/
def divide (a b : ℤ) : Guarded ℤ :=
  if b = 0 then .error (.hazard .zeroDivisor) else .ok (a.fdiv b)

/-- The remainder of `divide`. -/
def remainder (a b : ℤ) : Guarded ℤ :=
  if b = 0 then .error (.hazard .zeroDivisor) else .ok (a.fmod b)

def commonDenominator (a b : ℤ) : Guarded ℤ := divide (a * b) (a.gcd b)

theorem divide_of_ne_zero {b : ℤ} (hb : b ≠ 0) (a : ℤ) : divide a b = .ok (a.fdiv b) :=
  if_neg hb

theorem remainder_of_ne_zero {b : ℤ} (hb : b ≠ 0) (a : ℤ) : remainder a b = .ok (a.fmod b) :=
  if_neg hb

theorem commonDenominator_eq {a : ℤ} (ha : a ≠ 0) (b : ℤ) :
    commonDenominator a b = .ok (Fraction.commonDenominator a b) := by
  have hgcd : (a.gcd b : ℤ) ≠ 0 := by
    intro h
    exact ha (Int.gcd_eq_zero_iff.mp (Int.natCast_eq_zero.mp h)).1
  exact divide_of_ne_zero hgcd (a * b)

/-! ## Fractions -/

/-- The fraction with the given parts, for a denominator other than zero. -/
def fraction (num den : ℤ) : Guarded Fraction :=
  (Fraction.make? num den).elim (.error (.hazard .zeroDenominator)) .ok

def add (a b : Fraction) : Guarded Fraction := do
  let den ← commonDenominator a.den b.den
  let left ← divide den a.den
  let right ← divide den b.den
  fraction (a.num * left + b.num * right) den

def neg (a : Fraction) : Guarded Fraction := fraction (-a.num) a.den

def sub (a b : Fraction) : Guarded Fraction := do add a (← neg b)

def mul (a b : Fraction) : Guarded Fraction := fraction (a.num * b.num) (a.den * b.den)

/-- Division by a fraction of value zero is a failure that is reported. -/
def div (a b : Fraction) : Guarded Fraction :=
  if b.num = 0 then .error (.failure (.fault .divisionByZero))
  else do mul a (← fraction b.den b.num)

/-- The integer part, found from the sizes of both parts and from their signs. -/
def truncate (a : Fraction) : Guarded ℤ := do
  let quotient ← divide |a.num| |a.den|
  return if decide (a.num < 0) != decide (a.den < 0) then -quotient else quotient

def isInteger (a : Fraction) : Guarded Bool := do
  return (← remainder a.num a.den) == 0

theorem fraction_of_ne_zero {den : ℤ} (h : den ≠ 0) (num : ℤ) :
    fraction num den = .ok ⟨num, den, h⟩ := by
  rw [fraction, Fraction.make?, dif_pos h]
  rfl

theorem add_eq (a b : Fraction) : add a b = .ok (a.add b) := by
  have hden := Fraction.commonDenominator_ne_zero a.den_ne_zero b.den_ne_zero
  rw [add, commonDenominator_eq a.den_ne_zero, ok_bind, divide_of_ne_zero a.den_ne_zero, ok_bind,
    divide_of_ne_zero b.den_ne_zero, ok_bind, fraction_of_ne_zero hden]
  rfl

theorem neg_eq (a : Fraction) : neg a = .ok a.neg := fraction_of_ne_zero a.den_ne_zero _

theorem mul_eq (a b : Fraction) : mul a b = .ok (a.mul b) :=
  fraction_of_ne_zero (mul_ne_zero a.den_ne_zero b.den_ne_zero) _

/-- A result as a guarded one; that there is none means a division by zero. -/
def orFault (result : Option Fraction) : Guarded Fraction :=
  result.elim (.error (.failure (.fault .divisionByZero))) .ok

theorem div_eq (a b : Fraction) : div a b = orFault (a.div? b) := by
  by_cases h : b.num = 0
  · simp [div, orFault, Fraction.div?, h]
  · rw [div, if_neg h, fraction_of_ne_zero h, ok_bind, mul_eq, Fraction.div?, dif_pos h]
    rfl

/-- Rounding down the sizes and giving the result its sign rounds toward zero. -/
theorem truncate_eq (a : Fraction) : truncate a = .ok a.truncate := by
  rw [truncate, divide_of_ne_zero (abs_ne_zero.mpr a.den_ne_zero), ok_bind,
    Int.fdiv_eq_ediv_of_nonneg _ (abs_nonneg a.den),
    ← Int.tdiv_eq_ediv_of_nonneg (abs_nonneg a.num), Fraction.truncate]
  refine congrArg Except.ok ?_
  rcases lt_or_ge a.num 0 with hnum | hnum
  · rcases lt_or_ge a.den 0 with hden | hden
    · simp [hnum, hden, abs_of_neg, Int.neg_tdiv, Int.tdiv_neg]
    · simp [hnum, hden, abs_of_neg, abs_of_nonneg, Int.neg_tdiv]
  · rcases lt_or_ge a.den 0 with hden | hden
    · simp [hnum, hden, abs_of_neg, abs_of_nonneg, Int.tdiv_neg]
    · simp [hnum, hden, abs_of_nonneg, hnum.not_gt, hden.not_gt]

theorem isInteger_eq (a : Fraction) : isInteger a = .ok a.isInteger := by
  rw [isInteger, remainder_of_ne_zero a.den_ne_zero, ok_bind, Fraction.isInteger]
  refine congrArg Except.ok ?_
  rw [Bool.eq_iff_iff, beq_iff_eq, beq_iff_eq, ← Int.dvd_iff_fmod_eq_zero,
    Int.dvd_iff_emod_eq_zero]

end Guarded

end ExactCalc
