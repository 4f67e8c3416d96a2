import ExactCalc.Fraction

/-!
# Calculating with one accumulator

Instructions act on a fraction one after another. An instruction that names a
fraction with denominator zero, or divides by a fraction of value zero, is refused
and leaves the accumulator as it was.
-/

namespace ExactCalc.Fraction

inductive Combination
  | add
  | mul
  | div
  deriving DecidableEq, Repr

inductive Instruction
  | load (num den : Int)
  | loadInt (n : Int)
  | combine (combination : Combination) (num den : Int)
  | combineSelf (combination : Combination)
  | negate
  deriving DecidableEq, Repr

inductive Refusal
  | zeroDenominator
  | divisionByZero
  deriving DecidableEq, Repr

def combine (a b : Fraction) : Combination → Except Refusal Fraction
  | .add => .ok (a.add b)
  | .mul => .ok (a.mul b)
  | .div => (a.div? b).elim (.error .divisionByZero) .ok

/-- The operand of an instruction is built before anything else happens. -/
def operand (num den : Int) : Except Refusal Fraction :=
  (make? num den).elim (.error .zeroDenominator) .ok

def Instruction.run (acc : Fraction) : Instruction → Except Refusal Fraction
  | load num den => operand num den
  | loadInt n => .ok (ofInt n)
  | combine combination num den => do acc.combine (← operand num den) combination
  | combineSelf combination => acc.combine acc combination
  | negate => .ok acc.neg

/-- The accumulator after an instruction, refused or not. -/
def Instruction.next (acc : Fraction) (instruction : Instruction) : Fraction :=
  match instruction.run acc with
  | .ok result => result
  | .error _ => acc

def runAll (acc : Fraction) (instructions : List Instruction) : Fraction :=
  instructions.foldl Instruction.next acc

end ExactCalc.Fraction
