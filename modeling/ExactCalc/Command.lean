import ExactCalc.Command.Options
import ExactCalc.Command.StepTable
import ExactCalc.Command.Usage
import ExactCalc.Logging
import ExactCalc.Settings

/-!
# The command

Evaluates the expression of a command line and prints the integer part of its
value, on request followed by the table of steps. The options are read first, then
the settings, which may give rise to warnings, then the level of the log; only then is
it looked whether there is an expression at all.
-/

namespace ExactCalc.Command

structure Output where
  exitCode : Nat
  stdout : String
  stderr : String
  deriving DecidableEq, Repr

/-- Why the command ends without an output of its own. -/
inductive Abort
  | settings (problems : List Settings.Problem)
  | level (unknown : Level.Unknown)
  | variableMissing (index : Nat)
  deriving DecidableEq, Repr

def Abort.message : Abort → String
  | settings problems =>
    "invalid settings: " ++ ", ".intercalate (problems.map fun p => p.setting.name)
  | level unknown => unknown.message
  | variableMissing index =>
    s!"variable {(index + 1).repr} has no value"

def usageError (error : OptionError) : Output :=
  ⟨2, "", page [usageLine, s!"letcalc: error: {error.message}"]⟩

/-- The last row of the table tells whether anything was cut off. -/
def exactRow (exact : Fraction) : String :=
  if exact.isInteger then s!"exact: {exact.text}"
  else s!"exact: {exact.text} (truncated toward zero)"

def heading (expression : String) : Failure → String
  | .rejected _ => s!"Unable to parse the expression: {expression}"
  | .fault _ => s!"Unexpected error while evaluating the expression: {expression}"

/-- What a calculation prints. -/
def present (level : Level) (showSteps : Bool) (c : Calculation) : Output :=
  let log := if c.logLine.isShown level then page [c.logLine.text] else ""
  match c.outcome with
  | .ok exact =>
    let table := if showSteps then StepTable.lines (c.steps.map Step.text) (exactRow exact) else []
    ⟨0, page (Numeral.ofInt exact.truncate :: table), log⟩
  | .error failure =>
    ⟨1, "", log ++ page [heading c.expression failure, s!"  Error: {failure.message}"] ++ usagePage⟩

/-- The variables of an invocation, in order; a missing one is told by its index. -/
def collectVariables (bindings : List (Option (String × Int))) : Except Abort (Entries Int) :=
  match bindings.findIdx? Option.isNone with
  | some index => .error (.variableMissing index)
  | none => .ok (.ofPairs (bindings.filterMap id))

def perform (settings : Settings) (level : Level) (invocation : Invocation) : Except Abort Output :=
  match invocation.expression with
  | none => .ok ⟨0, usagePage, ""⟩
  | some expression => do
    let bindings ← collectVariables invocation.bindings
    return present level invocation.showSteps (settings.calculator.evaluate bindings expression)

/-- Puts warnings in front of what an output says of its own. -/
def Output.warned (warnings : List String) (output : Output) : Output :=
  { output with stderr := page warnings ++ output.stderr }

/-- Runs the command on its arguments. -/
def run (arguments : List String) (around : Settings.Surroundings) : Except Abort Output :=
  match readOptions arguments with
  | .error error => .ok (usageError error)
  | .ok none => .ok ⟨0, helpPage, ""⟩
  | .ok (some invocation) => do
    let settings ← (Settings.load [] around).mapError .settings
    let level ← (Level.ofSetting settings.logLevel).mapError .level
    return (← perform settings level invocation).warned around.file.warnings

end ExactCalc.Command
