/-!
# Usage texts

What the command says about itself: one line with every error in its arguments, a
page of help, and a description of expressions for a call without one and after a
failed calculation.
-/

namespace ExactCalc.Command

/-- Lines, each with its end. -/
def page (lines : List String) : String := .join (lines.map (· ++ "\n"))

def usageLine : String := "usage: letcalc [-h] [--steps] [--var NAME=VALUE] [expression]"

def helpPage : String := page
  [usageLine,
    "",
    "LetCalc — exact calculator for add/sub/mult/div/let expressions",
    "",
    "positional arguments:",
    "  expression        Expression to evaluate",
    "",
    "options:",
    "  -h, --help        show this help message and exit",
    "  --steps, -s       Show the evaluation steps",
    "  --var NAME=VALUE  Bind a variable around the whole expression"]

def usagePage : String := page
  ["Usage:",
    "letcalc <expression>",
    "",
    "  An expression is one of the following:",
    "    Numbers: integers between -2147483648 and 2147483647",
    "    Variables: strings of characters, where each character is one of a-z, A-Z",
    "    Arithmetic functions: add, sub, mult, div, each taking two arbitrary " ++
      "expressions as arguments. In other words, each argument may be any of the " ++
      "expressions on this list.",
    "    A \"let\" operator for assigning values to variables:",
    "      let(<variable name>, <value expression>, <expression where variable is used>)",
    "  As with arithmetic functions, the value expression and the expression where " ++
      "the variable is used may be an arbitrary expression from this list.",
    "",
    "Examples:",
    "  add(1, 2) --> 3",
    "  add(1, mult(2, 3)) --> 7",
    "  mult(add(2, 2), div(9, 3)) --> 12",
    "  let(a, 5, add(a, a)) --> 10",
    "  let(a, 5, let(b, mult(a, 10), add(b, a))) --> 55",
    "  let(a, let(b, 10, add(b, b)), let(b, 20, add(a, b))) --> 40"]

end ExactCalc.Command
