import ExactCalc.Rounding

/-!
# Binary numbers of sixty-four bits

Numbers with a fraction or an exponent are held with fifty-three significant
binary digits. Reading takes the nearest such number; writing takes the fewest
decimal digits that read back to the same number and, among those, the nearest.
All of it is exact arithmetic on natural numbers.
-/

namespace ExactCalc

/-- A finite number is `± significand * 2 ^ exponent`. The significand has fifty-three
binary digits unless the exponent is the least one. -/
inductive Binary64
  | finite (negative : Bool) (significand : Nat) (exponent : Int)
  | infinite (negative : Bool)
  | notANumber
  deriving DecidableEq, Repr

namespace Binary64

def width : Nat := 53
def leastExponent : Int := -1074
def topExponent : Int := 1024

/-- Multiplies a quotient of natural numbers by a power, up or down. -/
def scale (base : Nat) (exponent : Int) (quotient : Nat × Nat) : Nat × Nat :=
  if 0 ≤ exponent then (quotient.1 * Nat.pow base exponent.toNat, quotient.2)
  else (quotient.1, quotient.2 * Nat.pow base (-exponent).toNat)

/-- The number nearest to a quotient. -/
def ofQuotient (negative : Bool) (quotient : Nat × Nat) : Binary64 :=
  let magnitude : Int := bitLength quotient.1 - bitLength quotient.2
  let guess := max (magnitude - width) leastExponent
  let (n, d) := scale 2 (-guess) quotient
  let exponent := if width < bitLength (n / d) then guess + 1 else guess
  let (n, d) := scale 2 (-exponent) quotient
  let significand := nearestEven n d
  let (significand, exponent) :=
    if significand = Nat.pow 2 width then (Nat.pow 2 (width - 1), exponent + 1)
    else (significand, exponent)
  if topExponent < exponent + bitLength significand then infinite negative
  else finite negative significand exponent

/-- The number nearest to `± digits * 10 ^ exponent`. Exponents far out of range are settled
without forming the power. -/
def ofDecimal (negative : Bool) (digits : Nat) (exponent : Int) : Binary64 :=
  let magnitude := exponent + digits.repr.length
  if digits = 0 ∨ magnitude < -330 then finite negative 0 leastExponent
  else if 310 < magnitude then infinite negative
  else ofQuotient negative (scale 10 exponent (digits, 1))

/-- The number as an integer, if it is one. -/
def toInt? : Binary64 → Option Int
  | finite negative significand exponent =>
    let (n, d) := scale 2 exponent (significand, 1)
    if n % d = 0 then some (if negative then -(n / d : Nat) else (n / d : Nat)) else none
  | _ => none

/-- The place of the decimal point: the least `p` with `significand * 2 ^ exponent < 10 ^ p`. -/
def pointPlace (significand : Nat) (exponent : Int) : Int :=
  let below (p : Int) : Bool :=
    let (n, d) := scale 10 (-p) (scale 2 exponent (significand, 1))
    n < d
  ((List.range 640).map fun (i : Nat) => (i : Int) - 330).find? below |>.getD 310

/-- The whole number of units `10 ^ unit` that lies within rounding reach of a positive
number and nearest to it, if there is one. Quarters of the last binary place measure the
reach: half a place on each side, or a quarter below a power of two. -/
def nearestOnGrid (significand : Nat) (exponent unit : Int) : Option Nat :=
  let place := scale 10 (-unit) (scale 2 (exponent - 2) (1, 1))
  let value := 4 * significand * place.1
  let above := 2 * place.1
  let below :=
    if significand = Nat.pow 2 (width - 1) ∧ leastExponent < exponent then place.1 else 2 * place.1
  let closed := significand % 2 = 0
  let low := value / place.2
  let shortfall := value - low * place.2
  let surplus := (low + 1) * place.2 - value
  let lowFits := shortfall < below ∨ (closed ∧ shortfall = below)
  let highFits := surplus < above ∨ (closed ∧ surplus = above)
  let lowIsNearer := shortfall < surplus ∨ (shortfall = surplus ∧ low % 2 = 0)
  if lowFits ∧ (lowIsNearer ∨ ¬ highFits) then some low
  else if highFits then some (low + 1)
  else none

/-- The fewest decimal digits that read back, with the power of ten of the last one. -/
def shortest (significand : Nat) (exponent : Int) : Nat × Int :=
  let point := pointPlace significand exponent
  let candidates := (List.range 17).filterMap fun (i : Nat) =>
    let unit := point - (i + 1)
    (nearestOnGrid significand exponent unit).map fun digits => (digits, unit)
  candidates.headD (significand, exponent)

end Binary64

end ExactCalc
