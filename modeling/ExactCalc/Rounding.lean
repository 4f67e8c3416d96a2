/-!
# Rounding a quotient

Division of natural numbers to the nearest whole number, a half going to the
even neighbour, and rounding to a given number of significant binary digits.
-/

namespace ExactCalc

/-- The number of binary digits; zero has none. -/
def bitLength (n : Nat) : Nat :=
  if n = 0 then 0 else n.log2 + 1

/-- The whole number nearest to `num / den`; of two equally near ones, the even one. -/
def nearestEven (num den : Nat) : Nat :=
  let low := num / den
  let excess := 2 * (num % den)
  if excess < den then low
  else if den < excess then low + 1
  else low + low % 2

/-- Keeps the leading `width` binary digits of a number, rounded. -/
def roundToWidth (width n : Nat) : Nat :=
  let unit := Nat.pow 2 (bitLength n - width)
  nearestEven n unit * unit

end ExactCalc
