import ExactCalc.Command
import ExactCalc.Proofs.Grammar
import ExactCalc.Proofs.NamedEntries
import ExactCalc.Proofs.NumeralValue

/-!
# Command lines that assign variables

A command line can give any number of assignments, then the separator, then the
expression. Every such line is understood, whatever the expression looks like, and
the command calculates the expression with the last value that was given to each
name. At the level of warnings nothing of the log shows.
-/

namespace ExactCalc

namespace Command

/-- A name and a numeral of bounded length, as the variable option takes them. -/
structure Assignment where
  word : Word
  negative : Bool
  digits : List Char
  nonempty : digits ≠ []
  decimal : ∀ c ∈ digits, c.isDigit = true
  short : digits.length ≤ 4300

namespace Assignment

def numeral (a : Assignment) : List Char := if a.negative then '-' :: a.digits else a.digits

def text (a : Assignment) : String := .ofList (a.word.letters ++ '=' :: a.numeral)

def binding (a : Assignment) : String × ℤ :=
  (.ofList a.word.letters, Numeral.withSign a.negative (Numeral.value a.digits))

theorem readBinding_text (a : Assignment) : readBinding a.text = .ok a.binding := by
  have htake : (a.word.letters ++ '=' :: a.numeral).takeWhile Char.isAlpha = a.word.letters := by
    rw [List.takeWhile_append_of_pos a.word.alphabetic, List.takeWhile_cons_of_neg (by decide),
      List.append_nil]
  have hdrop : (a.word.letters ++ '=' :: a.numeral).dropWhile Char.isAlpha = '=' :: a.numeral := by
    rw [List.dropWhile_append_of_pos a.word.alphabetic, List.dropWhile_cons_of_neg (by decide)]
  have hsplit : Numeral.split? a.numeral = some (a.negative, a.digits) :=
    Numeral.split?_signed a.nonempty a.decimal a.negative
  have hname : a.word.letters.isEmpty = false := by simpa using a.word.nonempty
  have hshort : a.digits.length ≤ longestNumeral := a.short
  simp only [readBinding, text, String.toList_ofList, htake, hdrop, hsplit, hname, if_pos hshort,
    binding]

theorem classify_text (a : Assignment) : classify a.text = .ok (.word a.text) := by
  obtain ⟨c, rest, hw⟩ := List.exists_cons_of_ne_nil a.word.nonempty
  have hc : c ≠ '-' := by
    rintro rfl
    exact absurd (a.word.alphabetic '-' (by simp [hw])) (by decide)
  simp [classify, text, hw, hc]

theorem text_ne_separator (a : Assignment) : a.text ≠ "--" := by
  intro h
  have hmem : '=' ∈ a.text.toList := by simp [text]
  rw [h] at hmem
  exact absurd hmem (by decide)

end Assignment

/-- The command line with these assignments and this expression. -/
def arguments (assignments : List Assignment) (expression : String) : List String :=
  assignments.flatMap (fun a => ["--var", a.text]) ++ ["--", expression]

/-- The arguments of that line, told apart. -/
def classified (assignments : List Assignment) (expression : String) : List Argument :=
  assignments.flatMap (fun a => [Argument.option .var false none, .word a.text]) ++
    [Argument.separator, .word expression]

section Lines

variable (a : Assignment) (assignments : List Assignment) (expression : String)

theorem arguments_cons :
    arguments (a :: assignments) expression =
      "--var" :: a.text :: arguments assignments expression := rfl

theorem classified_cons :
    classified (a :: assignments) expression =
      .option .var false none :: .word a.text :: classified assignments expression := rfl

theorem classifyAll_arguments :
    classifyAll (arguments assignments expression) = .ok (classified assignments expression) := by
  induction assignments with
  | nil => rfl
  | cons a assignments ih =>
    have hvar : classify "--var" = .ok (.option .var false none) := by rfl
    rw [arguments_cons, classifyAll, if_neg (by decide), hvar, classifyAll,
      if_neg a.text_ne_separator, a.classify_text, ih, classified_cons]
    rfl

/-- A variable option with its value adds one binding. -/
theorem takeAll_variable {p : Progress} {text : String} {binding : String × ℤ}
    (h : readBinding text = .ok binding) (rest : List Argument) :
    takeAll p (.option .var false none :: .word text :: rest) =
      takeAll ⟨⟨p.invocation.expression, p.invocation.showSteps,
        p.invocation.bindings ++ [some binding]⟩, p.leftOver, false⟩ rest := by
  simp [takeAll, readVariable, h, Except.map, bind, Except.bind]

/-- The assignments are taken one after another, then the expression. -/
theorem takeAll_classified {p : Progress} (hexpression : p.invocation.expression = none)
    (hleft : p.leftOver = []) :
    takeAll p (classified assignments expression) =
      .ok (some ⟨some expression, p.invocation.showSteps,
        p.invocation.bindings ++ assignments.map fun a => some a.binding⟩) := by
  induction assignments generalizing p with
  | nil => simp [classified, takeAll, hexpression, hleft]
  | cons a assignments ih =>
    rw [classified_cons, takeAll_variable a.readBinding_text]
    refine (ih ?_ ?_).trans ?_
    · exact hexpression
    · exact hleft
    · simp

theorem readOptions_arguments :
    readOptions (arguments assignments expression) =
      .ok (some ⟨some expression, false, assignments.map fun a => some a.binding⟩) := by
  rw [readOptions, classifyAll_arguments]
  exact takeAll_classified assignments expression rfl rfl

theorem collectVariables_some :
    collectVariables (assignments.map fun a => some a.binding) =
      .ok (.ofPairs (assignments.map Assignment.binding)) := by
  have hnone : (assignments.map fun a => some a.binding).findIdx? Option.isNone = none := by
    simp [List.findIdx?_eq_none_iff]
  have hsome : (assignments.map fun a => some a.binding).filterMap id =
      assignments.map Assignment.binding := by
    simp [List.filterMap_map]
  rw [collectVariables, hnone, hsome]

theorem run_arguments {around : Settings.Surroundings} {settings : Settings} {level : Level}
    (hload : Settings.load [] around = .ok settings)
    (hlevel : Level.ofSetting settings.logLevel = .ok level) :
    run (arguments assignments expression) around =
      .ok ((present level false (settings.calculator.evaluate
        (.ofPairs (assignments.map Assignment.binding)) expression)).warned
          around.file.warnings) := by
  rw [run, readOptions_arguments]
  simp only [hload, hlevel, Except.mapError, perform, collectVariables_some, bind, Except.bind,
    pure, Except.pure]

end Lines

/-! ## What is printed -/

theorem logLine_hidden (c : Calculation) : c.logLine.isShown .warning = false := by
  unfold Calculation.logLine
  rcases c.outcome with (_ | _) | _ <;> rfl

theorem heading_eq (expression : String) (failure : Failure) :
    heading expression failure =
      (if failure.report.kind = "parse_failure" then "Unable to parse the expression: "
        else "Unexpected error while evaluating the expression: ") ++ expression := by
  rcases failure with r | (name | _) <;> rfl

theorem present_ok {c : Calculation} {exact : Fraction} (h : c.outcome = .ok exact) :
    present .warning false c = ⟨0, Numeral.ofInt exact.truncate ++ "\n", ""⟩ := by
  simp [present, h, logLine_hidden, page]

theorem present_error {c : Calculation} {failure : Failure} (h : c.outcome = .error failure) :
    present .warning false c =
      ⟨1, "", (if failure.report.kind = "parse_failure" then "Unable to parse the expression: "
        else "Unexpected error while evaluating the expression: ") ++ c.expression ++
          "\n  Error: " ++ failure.report.message ++ "\n" ++ usagePage⟩ := by
  have hmessage : failure.report.message = failure.message := by
    rcases failure with r | (name | _) <;> rfl
  rw [hmessage, ← heading_eq]
  simp [present, h, logLine_hidden, page, toString, ← String.toList_inj]

end Command

end ExactCalc
