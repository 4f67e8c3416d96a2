import ExactCalc.Proofs.FaithfulDisplay
import ExactCalc.Proofs.GuardedArithmetic

/-!
# Guarded conversions

The effort of converting between a large integer and its decimal numeral grows faster
than the numeral does, so that programs set a cap on the digits of a conversion, and one
with more digits has no result. Here every conversion is made once more with a guard for
such a cap. Integers in the steps of an evaluation are shown by an estimate before their
numerals get long: no cap that leaves room for 3011 digits is ever met there.
-/

namespace ExactCalc.Guarded

/-- The most digits that a conversion between an integer and its numeral may have. There may also
be no such bound. -/
abbrev Cap := Option ℕ

/-- A cap leaves room for a number of digits. -/
def Cap.Allows (cap : Cap) (digits : ℕ) : Prop := ∀ most ∈ cap, digits ≤ most

instance (cap : Cap) (digits : ℕ) : Decidable (cap.Allows digits) :=
  inferInstanceAs (Decidable (∀ most ∈ cap, digits ≤ most))

namespace Cap

theorem allows_none (digits : ℕ) : Allows none digits := by
  intro most h
  cases h

theorem Allows.of_le {cap : Cap} {digits fewer : ℕ} (h : cap.Allows digits)
    (hle : fewer ≤ digits) : cap.Allows fewer := by
  intro most hmost
  exact hle.trans (h most hmost)

end Cap

/-- The integer with the given sign and digits. -/
def integer (cap : Cap) (negative : Bool) (digits : List Char) : Guarded ℤ :=
  if cap.Allows digits.length then .ok (Numeral.withSign negative (Numeral.value digits))
  else .error (.hazard (.longNumeral digits.length))

/-- The complete numeral of an integer. -/
def numeral (cap : Cap) (n : ℤ) : Guarded String :=
  if cap.Allows (Numeral.digitCount n) then .ok (Numeral.ofInt n)
  else .error (.hazard (.longNumeral (Numeral.digitCount n)))

/-- Shows an integer. An estimate is shown without a guard: the number of binary digits of an
integer is never long itself. -/
def display (cap : Cap) (n : ℤ) : Guarded String :=
  if bitLength n.natAbs ≤ Numeral.fullDisplayBits then numeral cap n
  else
    let sign := if n < 0 then "-" else ""
    return sign ++ "<~" ++ (Numeral.digitEstimate (bitLength n.natAbs)).repr ++ " digits>"

/-- Shows a fraction. -/
def text (cap : Cap) (a : Fraction) : Guarded String := do
  let num ← display cap a.num
  if a.den = 1 then return num
  let den ← display cap a.den
  return num ++ "/" ++ den

def stepText (cap : Cap) : Step → Guarded String
  | .read name value => do
    let value ← text cap value
    return s!"{name} = {value}"
  | .computed op left right result => do
    let left ← text cap left
    let right ← text cap right
    let result ← text cap result
    return s!"{op.keyword}({left}, {right}) = {result}"
  | .bound name value => do
    let value ← text cap value
    return s!"let {name} = {value}"

/-! ## Agreement with the conversions without guards -/

variable {cap : Cap}

theorem integer_of_allows {digits : List Char} (h : cap.Allows digits.length) (negative : Bool) :
    integer cap negative digits = .ok (Numeral.withSign negative (Numeral.value digits)) :=
  if_pos h

theorem numeral_of_allows {n : ℤ} (h : cap.Allows (Numeral.digitCount n)) :
    numeral cap n = .ok (Numeral.ofInt n) := if_pos h

end ExactCalc.Guarded
