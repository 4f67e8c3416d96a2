import ExactCalc.Command

/-!
# The program

Hands the arguments, the environment and the settings file of the current directory
to the command, and prints what it answers.
-/

namespace ExactCalc

/-- The text of the settings file; a directory may be without one. -/
def readSettingsFile : IO (Option String) := do
  try
    return some (← IO.FS.readFile ".env")
  catch _ => return none

/-- The environment variables that matter: those that spell a setting, in small letters or in
capitals, and those that the settings file refers to. -/
def readEnvironment (file : Option String) : IO (Entries String) := do
  let settings := [Setting.maxNestingDepth, .logLevel, .appTitle, .appVersion]
  let spellings := (settings.map Settings.variableName).flatMap fun name => [name, name.toUpper]
  let mut found : Entries String := []
  for name in spellings ++ file.elim [] Settings.File.references do
    if let some value ← IO.getEnv name then found := found.put name value
  return found

def runProgram (arguments : List String) : IO UInt32 := do
  let file ← readSettingsFile
  let environment ← readEnvironment file
  match Command.run arguments (.ofText environment file) with
  | .ok output =>
    IO.print output.stdout
    IO.eprint output.stderr
    return .ofNat output.exitCode
  | .error abort =>
    IO.eprintln abort.message
    return 1

end ExactCalc

def main (arguments : List String) : IO UInt32 := ExactCalc.runProgram arguments
