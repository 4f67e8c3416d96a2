import ExactCalc.Draft.Record
import ExactCalc.Expr.Eval

/-!
# Drafts

A draft is a tree that was put together outside the reader and need not be an
expression: an operation may carry any word as its operator, a `let` may declare
anything, and any part may be a value that is no tree. Checking a draft builds the
expression from the inside out, from left to right, and ends at the first part that
cannot be built; a record that describes a tree stands for it. Evaluating a draft
unchecked meets a bad part only when it is reached, and takes no record for a tree.
-/

namespace ExactCalc

inductive Draft
  | number (value : Int)
  | name (name : String)
  | apply (op : String) (left right : Draft)
  | letIn (declared value body : Draft)
  | foreign (value : Json)

namespace Draft

open Checked

/-! ## Checking -/

/-- What checking makes of a part: an expression, or a value that is left as it was. -/
inductive Built
  | tree (expr : Expr)
  | foreign (value : Json)

namespace Built

def expr : Built → Checked Expr
  | tree e => .ok e
  | foreign value => (readTree value).map Reading.result

def declaredName : Built → Checked String
  | tree (.name x) => .ok x
  | tree _ => fail .noTree
  | foreign value => (readDeclared value).map Reading.result

end Built

/-- Builds an operation from its parts, naming every bad part. -/
def buildApply (op : String) (left right : Built) : Checked Expr :=
  let op := ((Operator.ofKeyword? op).elim (fail .unknownWord) .ok : Checked Operator)
  (both (op.under (.part .op))
    (both (left.expr.under (.part .left)) (right.expr.under (.part .right)))).map
    fun (op, left, right) => .apply op left right

/-- Builds a `let` from its parts, naming every bad part. -/
def buildLet (declared value body : Built) : Checked Expr :=
  (both (declared.declaredName.under (.part .declared))
    (both (value.expr.under (.part .value)) (body.expr.under (.part .body)))).map
    fun (x, value, body) => .letIn x value body

/-- The expression that a draft describes, or the value that stands in its place. -/
def check : Draft → Checked Built
  | number n => .ok (.tree (.number n))
  | name x => .ok (.tree (.name x))
  | apply op left right => do
    let built ← buildApply op (← left.check) (← right.check)
    return .tree built
  | letIn declared value body => do
    let built ← buildLet (← declared.check) (← value.check) (← body.check)
    return .tree built
  | foreign value => .ok (.foreign value)

/-! ## Evaluation -/

/-- What stands in a place. -/
inductive Found
  | tree (kind : Kind)
  | nothing
  | truth
  | integer
  | real
  | text
  | list
  | record
  deriving DecidableEq, Repr

def found : Draft → Found
  | number _ => .tree .number
  | name _ => .tree .name
  | apply .. => .tree .apply
  | letIn .. => .tree .letIn
  | foreign .null => .nothing
  | foreign (.bool _) => .truth
  | foreign (.integer _) => .integer
  | foreign (.real _) => .real
  | foreign (.string _) => .text
  | foreign (.array _) => .list
  | foreign (.object _) => .record

/-- Why an evaluation of a draft ends without a value. -/
inductive Interruption
  | fault (fault : Fault)
  | unknownOperator (op : String)
  | unnamedBinding (declared : Found)
  | noExpression
  deriving DecidableEq, Repr

/-- Evaluates a draft as it stands. An operator is looked at after both operands, and what a
`let` declares after its value. -/
def eval (scope : Scope) : Draft → Trace Interruption Fraction
  | number n => pure (.ofInt n)
  | name x => (Trace.read scope x).mapError .fault
  | apply op left right => do
    let a ← left.eval scope
    let b ← right.eval scope
    match Operator.ofKeyword? op with
    | some op => (Trace.compute op a b).mapError .fault
    | none => Trace.stop (.unknownOperator op)
  | letIn declared value body => do
    let a ← value.eval scope
    match declared with
    | name x =>
      Trace.record (.bound x a)
      body.eval (scope.bind x a)
    | declared => Trace.stop (.unnamedBinding declared.found)
  | foreign _ => Trace.stop .noExpression

/-- Checks a draft and then evaluates it. -/
def checkedEval (scope : Scope) (draft : Draft) : Checked (Trace Interruption Fraction) :=
  draft.check.map fun
    | .tree expr => (expr.eval scope).mapError .fault
    | .foreign _ => Trace.stop .noExpression

end Draft

end ExactCalc
