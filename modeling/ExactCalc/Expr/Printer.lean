import ExactCalc.Expr
import ExactCalc.Numeral

/-!
# Canonical text

The canonical text of an expression has no blanks, no leading zeros and no
arguments beyond those that a form needs.
-/

namespace ExactCalc.Expr

def print : Expr → List Char
  | number n => (Numeral.ofInt n).toList
  | name x => x.toList
  | apply op left right =>
    op.keyword.toList ++ '(' :: left.print ++ ',' :: right.print ++ [')']
  | letIn x value body =>
    'l' :: 'e' :: 't' :: '(' :: x.toList ++ ',' :: value.print ++ ',' :: body.print ++ [')']

/-- The canonical text as a string. -/
def text (expr : Expr) : String := .ofList expr.print

end ExactCalc.Expr
