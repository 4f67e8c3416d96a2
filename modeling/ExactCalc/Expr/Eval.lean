import ExactCalc.Failure
import ExactCalc.Scope
import ExactCalc.Trace

/-!
# Evaluation

Operands are evaluated from left to right, on exact fractions. A `let` evaluates
its value in the enclosing scope and its body with the name bound. The first fault
ends the evaluation.
-/

namespace ExactCalc

/-- The result of an operation; dividing by a fraction of value zero has none. -/
def Operator.apply? (left right : Fraction) : Operator → Option Fraction
  | add => some (left.add right)
  | sub => some (left.sub right)
  | mult => some (left.mul right)
  | div => left.div? right

namespace Trace

/-- Reads a name, and records what it stands for. -/
def read (scope : Scope) (name : String) : Trace Fault Fraction :=
  match scope.lookup? name with
  | some value => ⟨[.read name value], .ok value⟩
  | none => stop (.unbound name)

/-- Carries out an operation, and records it with its result. -/
def compute (op : Operator) (left right : Fraction) : Trace Fault Fraction :=
  match op.apply? left right with
  | some result => ⟨[.computed op left right result], .ok result⟩
  | none => stop .divisionByZero

end Trace

def Expr.eval (scope : Scope) : Expr → Trace Fault Fraction
  | number n => pure (.ofInt n)
  | name x => Trace.read scope x
  | apply op left right => do
    let a ← left.eval scope
    let b ← right.eval scope
    Trace.compute op a b
  | letIn x value body => do
    let a ← value.eval scope
    Trace.record (.bound x a)
    body.eval (scope.bind x a)

end ExactCalc
