import ExactCalc.Entries
import ExactCalc.Numeral
import ExactCalc.Text.Digit
import ExactCalc.Text.Quoted

/-!
# Command-line options

The arguments are first told apart one by one: words, options, unknown options, and
the separator after which everything is a word. Then they are taken from left to
right. The first word is the expression; what is left over at the end is an error,
unless an earlier option already asked for help or was wrong.
-/

namespace ExactCalc.Command

inductive Flag
  | help
  | steps
  | var
  deriving DecidableEq, Repr

/-- All spellings of a flag, as messages name it. -/
def Flag.title : Flag → String
  | help => "-h/--help"
  | steps => "--steps/-s"
  | var => "--var"

/-- The spellings in the order in which they are tried. -/
def spellings : List (String × Flag) :=
  [("-h", .help), ("--help", .help), ("--steps", .steps), ("-s", .steps), ("--var", .var)]

/-- A spelling with a single dash can be followed by further letters. -/
def isShort (spelling : String) : Bool := spelling.toList[1]? != some '-'

inductive Argument
  | word (text : String)
  | option (flag : Flag) (short : Bool) (attached : Option String)
  | unknown (text : String)
  | separator
  deriving DecidableEq, Repr

inductive OptionError
  | ambiguous (text : String) (candidates : List String)
  | valueMissing
  | noBinding (text : String)
  | numeralTooLong (text : String)
  | valueUnused (flag : Flag) (value : String)
  | unrecognized (texts : List String)
  deriving DecidableEq, Repr

def OptionError.message : OptionError → String
  | ambiguous text candidates =>
    s!"ambiguous option: {text} could match " ++ ", ".intercalate candidates
  | valueMissing => "argument --var: expected one argument"
  | noBinding text => s!"argument --var: expected NAME=INTEGER, got {Text.quoted text}"
  | numeralTooLong text => s!"argument --var: invalid _variable value: {Text.quoted text}"
  | valueUnused flag value =>
    s!"argument {flag.title}: ignored explicit argument {Text.quoted value}"
  | unrecognized texts => "unrecognized arguments: " ++ " ".intercalate texts

/-! ## Telling arguments apart -/

/-- Splits at the first equals sign. -/
def splitValue (text : String) : String × Option String :=
  let chars := text.toList
  match chars.dropWhile (· ≠ '=') with
  | [] => (text, none)
  | _ :: value => (.ofList (chars.takeWhile (· ≠ '=')), some (.ofList value))

/-- A minus sign and a whole number or a number with a point, in digits of any script. A line
end may follow. -/
def isNegativeNumber (text : String) : Bool :=
  match text.toList with
  | '-' :: rest =>
    let body := if rest.getLast? == some '\n' then rest.dropLast else rest
    let after := body.dropWhile Text.isDecimalDigit
    match after with
    | [] => !body.isEmpty
    | '.' :: fraction => !fraction.isEmpty && fraction.all Text.isDecimalDigit
    | _ => false
  | _ => false

/-- The options that a text abbreviates or begins with, with their attached values. -/
def candidates (text : String) : List (String × Flag × Option String) :=
  if "--".toList.isPrefixOf text.toList then
    let (stem, value) := splitValue text
    (spellings.filter fun (spelling, _) => stem.toList.isPrefixOf spelling.toList).map
      fun (spelling, flag) => (spelling, flag, value)
  else
    (spellings.filter fun (spelling, _) => spelling.toList == text.toList.take 2).map
      fun (spelling, flag) => (spelling, flag, some (.ofList (text.toList.drop 2)))

/-- An option that is spelled out, with a value after an equals sign or without. -/
def spelledOut? (text : String) : Option Argument :=
  match spellings.lookup text with
  | some flag => some (.option flag (isShort text) none)
  | none =>
    let (stem, value) := splitValue text
    (spellings.lookup stem).map fun flag => .option flag (isShort stem) value

/-- A text that does not begin with a dash, or is only a dash, is a word; so is one that
looks like a negative number or contains a space, unless it can be an option. -/
def classify (text : String) : Except OptionError Argument :=
  if text.toList.head? != some '-' || text == "-" then .ok (.word text)
  else match spelledOut? text with
    | some argument => .ok argument
    | none =>
      match candidates text with
      | [(spelling, flag, value)] => .ok (.option flag (isShort spelling) value)
      | [] =>
        if isNegativeNumber text || text.toList.contains ' ' then .ok (.word text)
        else .ok (.unknown text)
      | several => .error (.ambiguous text (several.map (·.1)))

/-- Tells all arguments apart. After the first separator everything is a word. -/
def classifyAll : List String → Except OptionError (List Argument)
  | [] => .ok []
  | text :: rest =>
    if text = "--" then .ok (.separator :: rest.map .word)
    else do
      let argument ← classify text
      let others ← classifyAll rest
      return argument :: others

/-! ## Taking arguments -/

/-- The longest numeral that is accepted as the value of a variable, in digits. -/
def longestNumeral : Nat := 4300

/-- Reads a binding `NAME=INTEGER`. -/
def readBinding (text : String) : Except OptionError (String × Int) :=
  let chars := text.toList
  let name := chars.takeWhile Char.isAlpha
  match chars.dropWhile Char.isAlpha with
  | '=' :: rest =>
    match name.isEmpty, Numeral.split? rest with
    | false, some (negative, digits) =>
      if digits.length ≤ longestNumeral then
        .ok (.ofList name, Numeral.withSign negative (Numeral.value digits))
      else .error (.numeralTooLong text)
    | _, _ => .error (.noBinding text)
  | _ => .error (.noBinding text)

/-- What the command line asks for. A variable is `none` where a bare separator was attached
to the option in place of a binding. -/
structure Invocation where
  expression : Option String := none
  showSteps : Bool := false
  bindings : List (Option (String × Int)) := []
  deriving DecidableEq, Repr

/-- Reads the value of the variable option. -/
def readVariable (attached : Bool) (text : String) : Except OptionError (Option (String × Int)) :=
  if attached && text == "--" then .ok none else (readBinding text).map some

/-- The flags that a flag and the letters after it stand for. -/
def expandLetters (flag : Flag) : List Char → Except OptionError (List Flag)
  | [] => .ok [flag]
  | c :: rest =>
    match spellings.lookup (.ofList ['-', c]) with
    | some next => do
      let others ← expandLetters next rest
      return flag :: others
    | none => .error (.valueUnused flag (.ofList (c :: rest)))

/-- The flags that an option without a value stands for. Only after a single dash can more of
them be attached. -/
def expand (flag : Flag) (short : Bool) (attached : Option String) :
    Except OptionError (List Flag) :=
  match attached with
  | none => .ok [flag]
  | some value =>
    if short && !value.isEmpty then expandLetters flag value.toList
    else .error (.valueUnused flag value)

/-- What is known while arguments are taken: what is left over, and whether the expression was
the last thing taken, in which case a separator belongs to it. -/
structure Progress where
  invocation : Invocation := {}
  leftOver : List String := []
  atExpression : Bool := false

/-- Takes the arguments from left to right; `none` is a call for help. -/
def takeAll (p : Progress) : List Argument → Except OptionError (Option Invocation)
  | [] => if p.leftOver.isEmpty then .ok (some p.invocation) else .error (.unrecognized p.leftOver)
  | .word text :: rest =>
    if p.invocation.expression.isNone then
      let invocation := { p.invocation with expression := some text }
      takeAll { p with invocation, atExpression := true } rest
    else takeAll { p with leftOver := p.leftOver ++ [text], atExpression := false } rest
  | .unknown text :: rest =>
    takeAll { p with leftOver := p.leftOver ++ [text], atExpression := false } rest
  | .separator :: rest =>
    if p.invocation.expression.isNone || p.atExpression then
      takeAll { p with atExpression := false } rest
    else takeAll { p with leftOver := p.leftOver ++ ["--"] } rest
  | .option .var _ (some text) :: rest => do
    let binding ← readVariable true text
    let invocation := { p.invocation with bindings := p.invocation.bindings ++ [binding] }
    takeAll { p with invocation, atExpression := false } rest
  | .option .var _ none :: .word text :: rest => do
    let binding ← readVariable false text
    let invocation := { p.invocation with bindings := p.invocation.bindings ++ [binding] }
    takeAll { p with invocation, atExpression := false } rest
  | .option .var _ none :: _ => .error .valueMissing
  | .option flag short attached :: rest => do
    let flags ← expand flag short attached
    if flags.contains .help then return none
    let invocation := { p.invocation with showSteps := true }
    takeAll { p with invocation, atExpression := false } rest

/-- Reads a command line; `none` is a call for help. -/
def readOptions (arguments : List String) : Except OptionError (Option Invocation) := do
  takeAll {} (← classifyAll arguments)

end ExactCalc.Command
