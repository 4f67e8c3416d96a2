import ExactCalc.Expr.Eval
import ExactCalc.Expr.Reader

/-!
# The calculator

Reads an expression, evaluates it with the given variables in scope, and rounds
the exact result toward zero once, at the end. A calculator holds a nesting limit
and nothing else, so calls do not influence each other.
-/

namespace ExactCalc

structure Calculator where
  limit : Int := defaultLimit
  deriving DecidableEq, Repr

/-- What came of one expression: the recorded steps, and the exact value or a failure. -/
structure Calculation where
  expression : String
  steps : List Step
  outcome : Except Failure Fraction

def Calculator.evaluate (calculator : Calculator) (bindings : Entries Int) (expression : String) :
    Calculation :=
  match Expr.ofText calculator.limit expression with
  | .error r => ⟨expression, [], .error (.rejected r)⟩
  | .ok expr =>
    let run := expr.eval (Scope.ofBindings bindings)
    ⟨expression, run.steps, run.outcome.mapError .fault⟩

/-- A calculation as shown to users. -/
structure Report where
  ok : Bool
  expression : String
  value : Option Int
  exact : Option Fraction
  steps : List String
  error : Option FailureReport
  deriving DecidableEq, Repr

def Calculation.report (c : Calculation) : Report :=
  match c.outcome with
  | .ok exact => ⟨true, c.expression, some exact.truncate, some exact, c.steps.map Step.text, none⟩
  | .error failure => ⟨false, c.expression, none, none, c.steps.map Step.text, some failure.report⟩

end ExactCalc
