import ExactCalc.Numeral
import ExactCalc.Rounding

/-!
# Display of integers

An integer of at most ten thousand binary digits is shown in full. A longer one
is shown by its sign and an estimate of the number of its decimal digits, in
angle brackets, which no numeral contains.
-/

namespace ExactCalc.Numeral

/-- The longest integer shown in full, in binary digits. -/
def fullDisplayBits : Nat := 10000

/-- The logarithm of two to base ten with fifty-three significant binary digits, in
units of `2 ^ (-54)`. -/
def logTenOfTwo : Nat := 5422874305198591

/-- About how many decimal digits a number of `bits` binary digits has. The product is
rounded to fifty-three significant binary digits before its fraction is dropped. -/
def digitEstimate (bits : Nat) : Nat :=
  roundToWidth 53 (bits * logTenOfTwo) / Nat.pow 2 54 + 1

def display (n : Int) : String :=
  if bitLength n.natAbs ≤ fullDisplayBits then ofInt n
  else
    let sign := if n < 0 then "-" else ""
    sign ++ "<~" ++ (digitEstimate (bitLength n.natAbs)).repr ++ " digits>"

end ExactCalc.Numeral
