import ExactCalc.Calculator
import ExactCalc.Text.Quoted
import ExactCalc.Text.Uppercase

/-!
# Log lines

A calculation may leave a line in the log. The level that is set decides whether
the line is shown.
-/

namespace ExactCalc

inductive Level
  | critical
  | error
  | warning
  | info
  | debug
  | notset
  deriving DecidableEq, Repr

namespace Level

def severity : Level → Nat
  | critical => 50
  | error => 40
  | warning => 30
  | info => 20
  | debug => 10
  | notset => 0

def label : Level → String
  | critical => "CRITICAL"
  | error => "ERROR"
  | warning => "WARNING"
  | info => "INFO"
  | debug => "DEBUG"
  | notset => "NOTSET"

def ofLabel? : String → Option Level
  | "CRITICAL" => some critical
  | "FATAL" => some critical
  | "ERROR" => some error
  | "WARN" => some warning
  | "WARNING" => some warning
  | "INFO" => some info
  | "DEBUG" => some debug
  | "NOTSET" => some notset
  | _ => none

/-- A level that does not exist, in capitals. -/
structure Unknown where
  label : String
  deriving DecidableEq, Repr

def Unknown.message (u : Unknown) : String := s!"Unknown level: {Text.quoted u.label}"

/-- Capitals do not matter in the name of a level. -/
def ofSetting (text : String) : Except Unknown Level :=
  let label := Text.uppercase text
  (ofLabel? label).elim (.error ⟨label⟩) .ok

end Level

structure LogLine where
  level : Level
  source : String
  message : String
  deriving DecidableEq, Repr

def LogLine.text (line : LogLine) : String :=
  s!"{line.level.label}:{line.source}:{line.message}"

def LogLine.isShown (line : LogLine) (threshold : Level) : Bool :=
  threshold.severity ≤ line.level.severity

/-- The line that a calculation leaves. -/
def Calculation.logLine (c : Calculation) : LogLine :=
  let source := Text.withoutBlanks c.expression
  match c.outcome with
  | .ok exact => ⟨.debug, "letcalc.calculator", s!"{source} = {exact.text}"⟩
  | .error (.rejected r) =>
    ⟨.info, "letcalc.parser", s!"Rejected expression {Text.quoted source}: {r.message}"⟩
  | .error (.fault f) => ⟨.debug, "letcalc.evaluator", s!"Evaluation failed: {f.message}"⟩

end ExactCalc
