/-!
# Decimal numerals

Reading and writing of integers in decimal. A literal of the calculator is an
optional minus sign and at least one ASCII digit, and denotes a number of
thirty-two bits; a literal with more significant digits than such a number can
have is refused before any conversion is tried.
-/

namespace ExactCalc.Numeral

/-- The number that a run of digits denotes. -/
def value (digits : List Char) : Nat :=
  Nat.ofDigitChars 10 digits 0

def withSign (negative : Bool) (n : Nat) : Int :=
  if negative then -n else n

/-- Splits a text of the shape `-?[0-9]+` into its sign and its digits. -/
def split? (text : List Char) : Option (Bool × List Char) :=
  let negative := text.head? == some '-'
  let digits := if negative then text.tail else text
  if !digits.isEmpty && digits.all Char.isDigit then some (negative, digits) else none

/-- The integer that a text of the shape `-?[0-9]+` denotes, however long it is. -/
def toInt? (text : List Char) : Option Int :=
  (split? text).map fun (negative, digits) => withSign negative (value digits)

def word32Min : Int := -2147483648
def word32Max : Int := 2147483647

/-- How many digits the largest number of thirty-two bits has. -/
def word32Digits : Nat := 10

def significant (digits : List Char) : List Char :=
  digits.dropWhile (· == '0')

/-- The literal's value if it fits thirty-two bits. Significant digits are counted first,
so that a literal of any length costs one pass and no large conversion. -/
def word32? (negative : Bool) (digits : List Char) : Option Int :=
  let digits := significant digits
  if digits.length ≤ word32Digits then
    let n := withSign negative (value digits)
    if word32Min ≤ n ∧ n ≤ word32Max then some n else none
  else none

/-- The complete decimal numeral of an integer. -/
def ofInt : Int → String
  | .ofNat n => n.repr
  | .negSucc n => "-" ++ (n + 1).repr

end ExactCalc.Numeral
