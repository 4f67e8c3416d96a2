import ExactCalc.Calculator
import ExactCalc.Json.Coercion
import ExactCalc.Settings.File

/-!
# Settings

Each setting is taken from the first of four places that has it: the values given
outright, the environment, the settings file, the defaults. In the environment and
in the file its name carries the program's own beginning. Capitals in a name do not
matter, and names that are no setting are ignored everywhere.
-/

namespace ExactCalc

structure Settings where
  maxNestingDepth : Int := defaultLimit
  logLevel : String := "WARNING"
  appTitle : String := "LetCalc"
  appVersion : String := "0.1.0"
  deriving DecidableEq, Repr

inductive Setting
  | maxNestingDepth
  | logLevel
  | appTitle
  | appVersion
  deriving DecidableEq, Repr

def Setting.name : Setting → String
  | maxNestingDepth => "max_nesting_depth"
  | logLevel => "log_level"
  | appTitle => "app_title"
  | appVersion => "app_version"

namespace Settings

/-- A setting whose value is of the wrong kind. -/
structure Problem where
  mismatch : Mismatch
  setting : Setting
  deriving DecidableEq, Repr

/-- What surrounds the program: environment variables, in the order in which they were made,
and the settings file. -/
structure Surroundings where
  environment : Entries String := []
  file : File := {}
  deriving DecidableEq, Repr

/-- The surroundings with the text of a settings file, if there is one. -/
def Surroundings.ofText (environment : Entries String) (text : Option String) : Surroundings :=
  ⟨environment, text.elim {} (File.read environment)⟩

def variableName (setting : Setting) : String := "letcalc_" ++ setting.name

/-- The value under a name, whatever its capitals; the last of several spellings counts. -/
def lastSpelling? {α : Type} (bindings : Entries α) (name : String) : Option α :=
  (Entries.ofPairs (bindings.map fun (x, value) => (x.toLower, value))).lookup name

/-- The value under a name, whatever its capitals; the first of several spellings counts. -/
def firstSpelling? {α : Type} (bindings : Entries α) (name : String) : Option α :=
  (bindings.map fun (x, value) => (x.toLower, value)).lookup name

/-- The value of a setting before it is checked; `none` leaves the default. -/
def raw? (given : Entries Json) (around : Surroundings) (setting : Setting) : Option Json :=
  firstSpelling? given setting.name <|>
    ((lastSpelling? around.environment (variableName setting) <|>
      (lastSpelling? around.file.entries (variableName setting)).join).map .string)

def resolve {α : Type} (setting : Setting) (decode : Json → Except Mismatch α) (default : α)
    (value : Option Json) : Except Problem α :=
  match value with
  | none => .ok default
  | some value => (decode value).mapError (⟨·, setting⟩)

def problem? {α : Type} : Except Problem α → Option Problem
  | .ok _ => none
  | .error p => some p

/-- The settings, or every setting that is of the wrong kind. -/
def load (given : Entries Json) (around : Surroundings) : Except (List Problem) Settings :=
  let defaults : Settings := {}
  let raw := raw? given around
  let depth := resolve .maxNestingDepth Json.toInt defaults.maxNestingDepth (raw .maxNestingDepth)
  let level := resolve .logLevel Json.toText defaults.logLevel (raw .logLevel)
  let title := resolve .appTitle Json.toText defaults.appTitle (raw .appTitle)
  let version := resolve .appVersion Json.toText defaults.appVersion (raw .appVersion)
  match depth, level, title, version with
  | .ok depth, .ok level, .ok title, .ok version => .ok ⟨depth, level, title, version⟩
  | _, _, _, _ =>
    .error ([problem? depth, problem? level, problem? title, problem? version].filterMap id)

def calculator (settings : Settings) : Calculator := ⟨settings.maxNestingDepth⟩

end Settings

end ExactCalc
