import ExactCalc.Fraction.Accumulator
import ExactCalc.Proofs.FractionValue
import ExactCalc.Proofs.GuardedArithmetic

/-!
# Runs of the accumulator

Instructions may as well act on a rational number: there, one that names a
denominator zero or divides by zero has no result and is skipped. After any run,
however long and whatever the signs of its operands, the accumulator stands for the
rational number that the same instructions give. An instruction is refused exactly
where it has no result among the rational numbers, for one of two reasons, and no
division or denominator on the way to a result is ever bad.
-/

namespace ExactCalc

namespace Fraction

/-! ## Instructions on rational numbers -/

/-- The rational number with the given parts, unless the denominator is zero. -/
def quotient? (num den : ℤ) : Option ℚ := if den = 0 then none else some (num / den)

def Combination.rational? (p q : ℚ) : Combination → Option ℚ
  | add => some (p + q)
  | mul => some (p * q)
  | div => if q = 0 then none else some (p / q)

/-- What an instruction makes of a rational number. -/
def Instruction.rational? (q : ℚ) : Instruction → Option ℚ
  | load num den => quotient? num den
  | loadInt n => some n
  | combine combination num den => (quotient? num den).bind fun p => combination.rational? q p
  | combineSelf combination => combination.rational? q q
  | negate => some (-q)

/-- The rational number after the instructions, of which those without a result are skipped. -/
def rationalRun (q : ℚ) (instructions : List Instruction) : ℚ :=
  instructions.foldl (fun q instruction => (instruction.rational? q).getD q) q

/-! ## One instruction -/

theorem operand_of_ne_zero {den : ℤ} (h : den ≠ 0) (num : ℤ) :
    operand num den = .ok ⟨num, den, h⟩ := by
  rw [operand, make?, dif_pos h]
  rfl

section Values

variable (acc a b : Fraction)

@[simp] theorem run_load_zero (num : ℤ) :
    (Instruction.load num 0).run acc = .error .zeroDenominator := rfl

theorem run_load {den : ℤ} (h : den ≠ 0) (num : ℤ) :
    (Instruction.load num den).run acc = .ok ⟨num, den, h⟩ := operand_of_ne_zero h num

@[simp] theorem run_combine_zero (combination : Combination) (num : ℤ) :
    (Instruction.combine combination num 0).run acc = .error .zeroDenominator := rfl

theorem run_combine (combination : Combination) {den : ℤ} (h : den ≠ 0) (num : ℤ) :
    (Instruction.combine combination num den).run acc =
      acc.combine ⟨num, den, h⟩ combination := by
  rw [Instruction.run, operand_of_ne_zero h]
  rfl

theorem value?_combine (combination : Combination) :
    (a.combine b combination).toOption.map value = combination.rational? a.value b.value := by
  cases combination with
  | add => exact congrArg some (a.value_add b)
  | mul => exact congrArg some (a.value_mul b)
  | div =>
    rw [combine, Combination.rational?]
    by_cases hb : b.value = 0
    · rw [if_pos hb, (a.div?_eq_none_iff b).mpr hb]
      rfl
    · obtain ⟨c, hc⟩ := Option.ne_none_iff_exists'.mp (mt (a.div?_eq_none_iff b).mp hb)
      rw [if_neg hb, ← value_of_div? hc, hc]
      rfl

/-- An instruction has a result where it has one among the rational numbers, of the same value. -/
theorem value?_run (instruction : Instruction) :
    (instruction.run acc).toOption.map value = instruction.rational? acc.value := by
  cases instruction with
  | load num den =>
    rw [Instruction.rational?, quotient?]
    split_ifs with h
    · rw [h, run_load_zero]
      rfl
    · rw [run_load acc h]
      rfl
  | loadInt n => exact congrArg some (value_ofInt n)
  | combine combination num den =>
    rw [Instruction.rational?, quotient?]
    split_ifs with h
    · rw [h, run_combine_zero]
      rfl
    · rw [run_combine acc combination h]
      exact value?_combine acc ⟨num, den, h⟩ combination
  | combineSelf combination => exact value?_combine acc acc combination
  | negate => exact congrArg some acc.value_neg

theorem value_next (instruction : Instruction) :
    (instruction.next acc).value = (instruction.rational? acc.value).getD acc.value := by
  rw [← value?_run, Instruction.next]
  cases instruction.run acc with
  | ok result => rfl
  | error refusal => rfl

end Values

/-- The accumulator and the rational number go along with each other through any run. -/
theorem value_runAll (acc : Fraction) (instructions : List Instruction) :
    (acc.runAll instructions).value = rationalRun acc.value instructions := by
  induction instructions generalizing acc with
  | nil => rfl
  | cons instruction instructions ih =>
    have hrest := ih (instruction.next acc)
    rw [value_next] at hrest
    exact hrest

/-! ## Refusals -/

/-- The instruction names a fraction whose denominator is zero. -/
def Instruction.NamesZeroDenominator : Instruction → Prop
  | load _ den => den = 0
  | combine _ _ den => den = 0
  | _ => False

/-- The instruction divides by a fraction that is proper and whose numerator is zero. -/
def Instruction.DividesByZero (acc : Fraction) : Instruction → Prop
  | combine combination num den => combination = .div ∧ den ≠ 0 ∧ num = 0
  | combineSelf combination => combination = .div ∧ acc.num = 0
  | _ => False

section Refusals

variable {acc a b : Fraction} {refusal : Refusal}

theorem combine_eq_error_iff {combination : Combination} :
    a.combine b combination = .error refusal ↔
      refusal = .divisionByZero ∧ combination = .div ∧ b.num = 0 := by
  cases combination with
  | add => simp [combine]
  | mul => simp [combine]
  | div =>
    unfold combine div?
    by_cases h : b.num = 0
    · simp [h, eq_comm]
    · simp [h]

theorem run_eq_zeroDenominator_iff (instruction : Instruction) :
    instruction.run acc = .error .zeroDenominator ↔ instruction.NamesZeroDenominator := by
  cases instruction with
  | load num den =>
    by_cases h : den = 0
    · simp [Instruction.NamesZeroDenominator, h]
    · simp [Instruction.NamesZeroDenominator, h, run_load acc h]
  | loadInt n => simp [Instruction.run, Instruction.NamesZeroDenominator]
  | combine combination num den =>
    by_cases h : den = 0
    · simp [Instruction.NamesZeroDenominator, h]
    · simp [Instruction.NamesZeroDenominator, h, run_combine acc combination h,
        combine_eq_error_iff]
  | combineSelf combination =>
    simp [Instruction.run, Instruction.NamesZeroDenominator, combine_eq_error_iff]
  | negate => simp [Instruction.run, Instruction.NamesZeroDenominator]

theorem run_eq_divisionByZero_iff (instruction : Instruction) :
    instruction.run acc = .error .divisionByZero ↔ instruction.DividesByZero acc := by
  cases instruction with
  | load num den =>
    by_cases h : den = 0
    · simp [Instruction.DividesByZero, h]
    · simp [Instruction.DividesByZero, run_load acc h]
  | loadInt n => simp [Instruction.run, Instruction.DividesByZero]
  | combine combination num den =>
    by_cases h : den = 0
    · simp [Instruction.DividesByZero, h]
    · simp [Instruction.DividesByZero, h, run_combine acc combination h, combine_eq_error_iff]
  | combineSelf combination =>
    simp [Instruction.run, Instruction.DividesByZero, combine_eq_error_iff]
  | negate => simp [Instruction.run, Instruction.DividesByZero]

end Refusals

end Fraction

/-! ## Guarded instructions -/

namespace Guarded

open Fraction

/-- What a refused instruction breaks off with. -/
def ofRefusal : Refusal → Break
  | .zeroDenominator => .hazard .zeroDenominator
  | .divisionByZero => .failure (.fault .divisionByZero)

def combine (a b : Fraction) : Combination → Guarded Fraction
  | .add => add a b
  | .mul => mul a b
  | .div => div a b

/-- Carries out an instruction with guarded arithmetic. -/
def perform (acc : Fraction) : Instruction → Guarded Fraction
  | .load num den => fraction num den
  | .loadInt n => fraction n 1
  | .combine combination num den => do combine acc (← fraction num den) combination
  | .combineSelf combination => combine acc acc combination
  | .negate => neg acc

theorem combine_eq (a b : Fraction) (combination : Combination) :
    combine a b combination = (a.combine b combination).mapError ofRefusal := by
  cases combination with
  | add => exact add_eq a b
  | mul => exact mul_eq a b
  | div =>
    rw [combine, div_eq, Fraction.combine]
    cases a.div? b with
    | none => rfl
    | some c => rfl

/-- No guard is met but the one of the fraction that the instruction names. -/
theorem perform_eq (acc : Fraction) (instruction : Instruction) :
    perform acc instruction = (instruction.run acc).mapError ofRefusal := by
  cases instruction with
  | load num den =>
    by_cases h : den = 0
    · rw [h]
      rfl
    · rw [perform, fraction_of_ne_zero h, run_load acc h]
      rfl
  | loadInt n => exact fraction_of_ne_zero one_ne_zero n
  | combine combination num den =>
    by_cases h : den = 0
    · rw [h]
      rfl
    · rw [perform, fraction_of_ne_zero h, run_combine acc combination h]
      exact combine_eq acc ⟨num, den, h⟩ combination
  | combineSelf combination => exact combine_eq acc acc combination
  | negate => exact neg_eq acc

end Guarded

namespace Fraction

theorem runAll_append_singleton (start : Fraction) (done : List Instruction)
    (instruction : Instruction) :
    start.runAll (done ++ [instruction]) = instruction.next (start.runAll done) := by
  unfold runAll
  rw [List.foldl_append]
  rfl

/-- After any run the accumulator stands for the rational number that the same instructions give.
The next instruction, with every denominator and divisor tested, ends with a result or is refused:
for a denominator zero exactly when it names one, for a division by zero exactly when its proper
divisor has the numerator zero. A refused instruction changes neither the accumulator nor the
rational number. -/
theorem runAll_exact (start : Fraction) (done : List Instruction) (instruction : Instruction) :
    let acc := start.runAll done
    acc.den ≠ 0 ∧ (acc.num : ℚ) / acc.den = rationalRun start.value done ∧
      Guarded.perform acc instruction = (instruction.run acc).mapError Guarded.ofRefusal ∧
      (instruction.run acc = .error .zeroDenominator ↔ instruction.NamesZeroDenominator) ∧
      (instruction.run acc = .error .divisionByZero ↔ instruction.DividesByZero acc) ∧
      ∀ refusal, instruction.run acc = .error refusal →
        start.runAll (done ++ [instruction]) = acc ∧
          rationalRun start.value (done ++ [instruction]) = rationalRun start.value done := by
  intro acc
  refine ⟨acc.den_ne_zero, value_runAll start done, Guarded.perform_eq acc instruction,
    run_eq_zeroDenominator_iff instruction, run_eq_divisionByZero_iff instruction, ?_⟩
  intro refusal hrefused
  have hsame : start.runAll (done ++ [instruction]) = acc := by
    rw [runAll_append_singleton, Instruction.next, hrefused]
  refine ⟨hsame, ?_⟩
  rw [← value_runAll, ← value_runAll, hsame]

/-- A division makes the denominator negative, a sum keeps it so, and two instructions are
refused. -/
theorem runAll_exact_negative :
    let done : List Instruction :=
      [.load 1 2, .combine .div (-3) 4, .combine .add 5 0, .combine .add 1 6]
    (ofInt 0).runAll done = ⟨3, -6, by decide⟩ ∧
      ((3 : ℤ) : ℚ) / (-6 : ℤ) = rationalRun (0 : ℤ) done ∧
      (Instruction.combine .div 0 (-5)).run ⟨3, -6, by decide⟩ = .error .divisionByZero ∧
      (ofInt 0).runAll (done ++ [.combine .div 0 (-5)]) = ⟨3, -6, by decide⟩ := by
  intro done
  have hrun : (ofInt 0).runAll done = ⟨3, -6, by decide⟩ := by decide
  obtain ⟨-, hvalue, -, -, hdivision, hskipped⟩ :=
    runAll_exact (ofInt 0) done (.combine .div 0 (-5))
  rw [hrun] at hvalue hdivision hskipped
  rw [value_ofInt] at hvalue
  have hrefused := hdivision.mpr ⟨rfl, by decide, rfl⟩
  exact ⟨hrun, hvalue, hrefused, (hskipped _ hrefused).1⟩

end Fraction

end ExactCalc
