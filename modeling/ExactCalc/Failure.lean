import ExactCalc.Expr
import ExactCalc.Numeral

/-!
# Why a calculation fails

A text may be rejected by the reader, or an expression may meet a fault while it
is evaluated. Both are kept as causes; their wording is given in one place, and a
report flattens them into the record that is shown to users.
-/

namespace ExactCalc

/-- The forms that take arguments: the arithmetic operations and `let`. -/
inductive Form
  | arithmetic (op : Operator)
  | binding
  deriving DecidableEq, Repr

namespace Form

def keyword : Form → String
  | arithmetic op => op.keyword
  | binding => "let"

def arity : Form → Nat
  | arithmetic _ => 2
  | binding => 3

end Form

/-- What is wrong with a rejected piece of text. -/
inductive Defect
  | tooDeep (limit : Int)
  | outOfRange
  | tooFewArguments (form : Form)
  | unnamedBinding
  | unreadable
  deriving DecidableEq, Repr

/-- A rejected piece of text and the place in the source where its defect shows. -/
structure Rejection where
  defect : Defect
  piece : String
  position : Int
  deriving DecidableEq, Repr

def Rejection.message (r : Rejection) : String :=
  match r.defect with
  | .tooDeep limit => s!"Expression nested deeper than {Numeral.ofInt limit} levels"
  | .outOfRange => s!"Integer literal out of 32-bit range: {r.piece}"
  | .tooFewArguments form => s!"Not enough arguments for {form.keyword}: {r.piece}"
  | .unnamedBinding => s!"let expects a variable name as its first argument: {r.piece}"
  | .unreadable => s!"Unable to parse the expression: {r.piece}"

/-- What can go wrong with an expression that was read. -/
inductive Fault
  | unbound (name : String)
  | divisionByZero
  deriving DecidableEq, Repr

def Fault.message : Fault → String
  | .unbound name => s!"Unbound variable: {name}"
  | .divisionByZero => "Division by zero"

inductive Failure
  | rejected (rejection : Rejection)
  | fault (fault : Fault)
  deriving DecidableEq, Repr

/-- A failure as shown to users. -/
structure FailureReport where
  kind : String
  message : String
  offendingText : Option String
  position : Option Int
  name : Option String
  deriving DecidableEq, Repr

def Rejection.report (r : Rejection) : FailureReport :=
  ⟨"parse_failure", r.message, some r.piece, some r.position, none⟩

def Fault.report (f : Fault) : FailureReport :=
  match f with
  | .unbound name => ⟨"unbound_variable", f.message, none, none, some name⟩
  | .divisionByZero => ⟨"division_by_zero", f.message, none, none, none⟩

def Failure.message : Failure → String
  | .rejected r => r.message
  | .fault f => f.message

def Failure.report : Failure → FailureReport
  | .rejected r => r.report
  | .fault f => f.report

end ExactCalc
