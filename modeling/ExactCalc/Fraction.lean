import ExactCalc.Numeral.Display

/-!
# Uncancelled fractions

A fraction keeps the numerator and the denominator that its history gave it: no
operation cancels, and a denominator may be negative after a division. Equality
is therefore equality of both parts, and `2/4` differs from `1/2`.
-/

namespace ExactCalc

structure Fraction where
  num : Int
  den : Int
  den_ne_zero : den ≠ 0 := by decide
  deriving DecidableEq, Repr

namespace Fraction

/-- The fraction with the given parts, unless the denominator is zero. -/
def make? (num den : Int) : Option Fraction :=
  if h : den ≠ 0 then some ⟨num, den, h⟩ else none

def ofInt (n : Int) : Fraction := ⟨n, 1, by decide⟩

/-- The least common multiple of two denominators, with the sign of their product. -/
def commonDenominator (a b : Int) : Int := (a * b).fdiv (a.gcd b)

/-- As `commonDenominator`; two zeros have no least common multiple here. -/
def commonDenominator? (a b : Int) : Option Int :=
  if a.gcd b = 0 then none else some (commonDenominator a b)

theorem commonDenominator_mul_gcd (a b : Int) : commonDenominator a b * a.gcd b = a * b := by
  have h : (a.gcd b : Int) ∣ a * b := Int.dvd_trans (Int.gcd_dvd_left a b) (Int.dvd_mul_right a b)
  rw [commonDenominator, Int.fdiv_eq_ediv_of_dvd h, Int.ediv_mul_cancel h]

theorem commonDenominator_ne_zero {a b : Int} (ha : a ≠ 0) (hb : b ≠ 0) :
    commonDenominator a b ≠ 0 := by
  intro h
  have := commonDenominator_mul_gcd a b
  rw [h, Int.zero_mul] at this
  exact Int.mul_ne_zero ha hb this.symm

/-- Addition over the common denominator. -/
def add (a b : Fraction) : Fraction :=
  let den := commonDenominator a.den b.den
  ⟨a.num * den.fdiv a.den + b.num * den.fdiv b.den, den,
    commonDenominator_ne_zero a.den_ne_zero b.den_ne_zero⟩

def neg (a : Fraction) : Fraction := ⟨-a.num, a.den, a.den_ne_zero⟩

def sub (a b : Fraction) : Fraction := a.add b.neg

def mul (a b : Fraction) : Fraction :=
  ⟨a.num * b.num, a.den * b.den, Int.mul_ne_zero a.den_ne_zero b.den_ne_zero⟩

/-- Multiplication by the reciprocal; a divisor with numerator zero has none. -/
def div? (a b : Fraction) : Option Fraction :=
  if h : b.num ≠ 0 then some (a.mul ⟨b.den, b.num, h⟩) else none

/-- The integer part: the quotient rounded toward zero. -/
def truncate (a : Fraction) : Int := a.num.tdiv a.den

def isInteger (a : Fraction) : Bool := a.num % a.den == 0

/-- A denominator of one is left out. -/
def text (a : Fraction) : String :=
  if a.den = 1 then Numeral.display a.num
  else Numeral.display a.num ++ "/" ++ Numeral.display a.den

end Fraction

end ExactCalc
