/-!
# Expressions

An expression is a number, a name, one of four arithmetic operations, or a
`let` that binds a name in its body. The measures here describe an expression by
its shape alone; the reader and the evaluator are defined apart from them.
-/

namespace ExactCalc

inductive Operator
  | add
  | sub
  | mult
  | div
  deriving DecidableEq, Repr

namespace Operator

def keyword : Operator → String
  | add => "add"
  | sub => "sub"
  | mult => "mult"
  | div => "div"

def ofKeyword? : String → Option Operator
  | "add" => some add
  | "sub" => some sub
  | "mult" => some mult
  | "div" => some div
  | _ => none

theorem ofKeyword?_keyword (op : Operator) : ofKeyword? op.keyword = some op := by
  cases op <;> rfl

end Operator

inductive Expr
  | number (value : Int)
  | name (name : String)
  | apply (op : Operator) (left right : Expr)
  | letIn (name : String) (value body : Expr)
  deriving DecidableEq, Repr

namespace Expr

/-- How many forms enclose the deepest part. -/
def height : Expr → Nat
  | number _ => 0
  | name _ => 0
  | apply _ left right => 1 + max left.height right.height
  | letIn _ value body => 1 + max value.height body.height

/-- The parts of an expression, the name that a `let` declares included. -/
def size : Expr → Nat
  | number _ => 1
  | name _ => 1
  | apply _ left right => 1 + left.size + right.size
  | letIn _ value body => 2 + value.size + body.size

/-- The names that an expression takes from outside, in the order of evaluation. -/
def freeNames : Expr → List String
  | number _ => []
  | name x => [x]
  | apply _ left right => left.freeNames ++ right.freeNames
  | letIn x value body => value.freeNames ++ body.freeNames.filter (· ≠ x)

end Expr

end ExactCalc
