import ExactCalc.Settings.Interpolation
import ExactCalc.Text.Blank
import ExactCalc.Text.Encoding

/-!
# The settings file

A settings file holds statements `NAME=VALUE`. A value may stand in quotes, and then
may contain line ends and escapes; without quotes it ends with the line, or before a
comment that follows a blank. A name may also stand alone, which hides the values
that it had before. The word `export` in front is passed over. A line that fits none
of this is skipped, and its number is kept.
-/

namespace ExactCalc.Settings

/-- What a settings file says: its entries, and the lines at which something stands that
cannot be read. -/
structure File where
  entries : Entries (Option String) := []
  unreadable : List Nat := []
  deriving DecidableEq, Repr

namespace File

/-! ## Lines -/

/-- Every line ends in a line feed, and in nothing else. -/
def normalizeLineEnds : List Char → List Char
  | '\r' :: '\n' :: rest => '\n' :: normalizeLineEnds rest
  | '\r' :: rest => '\n' :: normalizeLineEnds rest
  | c :: rest => c :: normalizeLineEnds rest
  | [] => []

def inLine (c : Char) : Bool := c ≠ '\n'

/-- A blank that does not end the line. -/
def isInlineBlank (c : Char) : Bool := Text.isBlank c && inLine c

def skipInline (text : List Char) : List Char := text.dropWhile isInlineBlank

/-- Drops the rest of the current line. -/
def skipLine (text : List Char) : List Char := (text.dropWhile inLine).drop 1

/-- The text after the end of the line, if only a comment stands before it. -/
def lineEnd? (text : List Char) : Option (List Char) :=
  match skipInline text with
  | [] => some []
  | '\n' :: rest => some rest
  | '#' :: rest => some (skipLine rest)
  | _ => none

/-! ## Values -/

/-- Splits at the closing quote. A backslash and the character after it belong together. -/
def closing? (q : Char) : List Char → Option (List Char × List Char)
  | [] => none
  | '\\' :: c :: rest =>
    (closing? q rest).map fun (inner, rest) => ('\\' :: c :: inner, rest)
  | c :: rest =>
    if c = q then some ([], rest)
    else (closing? q rest).map fun (inner, rest) => (c :: inner, rest)

/-- What an escape inside quotes stands for: in single quotes only the backslash and the
quote can be escaped. -/
def escaped? (q c : Char) : Option Char :=
  if c = '\\' ∨ c = '\x27' then some c
  else if q = '\x27' then none
  else match c with
    | '"' => some '"'
    | 'a' => some '\x07'
    | 'b' => some '\x08'
    | 'f' => some '\x0c'
    | 'n' => some '\n'
    | 'r' => some '\r'
    | 't' => some '\t'
    | 'v' => some '\x0b'
    | _ => none

def unescape (q : Char) : List Char → List Char
  | '\\' :: c :: rest =>
    match escaped? q c with
    | some d => d :: unescape q rest
    | none => '\\' :: unescape q (c :: rest)
  | c :: rest => c :: unescape q rest
  | [] => []

/-- Cuts off a comment that follows a blank. -/
def beforeComment : List Char → List Char
  | [] => []
  | c :: rest =>
    if Text.isBlank c && (rest.dropWhile Text.isBlank).head? == some '#' then []
    else c :: beforeComment rest

def trim (text : List Char) : List Char :=
  ((text.dropWhile Text.isBlank).reverse.dropWhile Text.isBlank).reverse

def isQuote (c : Char) : Bool := c == '"' || c == '\x27'

/-- Reads a value, given the text after the sign of equality, and gives the text after it. -/
def value? (text : List Char) : Option (List Char × List Char) :=
  let unquoted := some (trim (beforeComment (text.takeWhile inLine)), text.dropWhile inLine)
  match skipInline text with
  | q :: rest =>
    if isQuote q then (closing? q rest).map fun (inner, rest) => (unescape q inner, rest)
    else unquoted
  | [] => unquoted

/-! ## Names -/

/-- Passes over the word `export` if a blank follows it on its line. -/
def skipExport (text : List Char) : List Char :=
  match "export".toList.isPrefixOf? text with
  | some rest => if (rest.head?.map isInlineBlank).getD false then skipInline rest else text
  | none => text

def inName (c : Char) : Bool := c ≠ '=' && c ≠ '#' && !Text.isBlank c

/-- Reads a name, in single quotes or without, and gives the text after it. -/
def name? (text : List Char) : Option (List Char × List Char) :=
  let found := match text with
    | '\x27' :: rest =>
      match rest.dropWhile (· ≠ '\x27') with
      | _ :: after => (rest.takeWhile (· ≠ '\x27'), after)
      | [] => ([], [])
    | _ => (text.takeWhile inName, text.dropWhile inName)
  if found.1.isEmpty then none else some found

/-! ## Statements -/

inductive Statement
  | comment
  | entry (name : String) (value : Option String)
  | unreadable
  deriving DecidableEq, Repr

/-- Ends a statement with its line, on which nothing may follow it. -/
def finish (statement : Statement) (text : List Char) : Statement × List Char :=
  match lineEnd? text with
  | some rest => (statement, rest)
  | none => (.unreadable, skipLine text)

/-- Reads the statement at the front and gives the text after its line. -/
def statement (text : List Char) : Statement × List Char :=
  let text := skipExport text
  if text.head? == some '#' then (.comment, skipLine text)
  else match name? text with
    | none => (.unreadable, skipLine text)
    | some (name, rest) =>
      match skipInline rest with
      | '=' :: rest =>
        match value? rest with
        | none => (.unreadable, skipLine rest)
        | some (value, rest) => finish (.entry (.ofList name) (some (.ofList value))) rest
      | rest => finish (.entry (.ofList name) none) rest

/-- The statements of a text, each with the text from the end of the one before it on. At most
`bound` of them are read, which is no limit when it is the length of the text. -/
def statements : Nat → List Char → List (List Char × Statement)
  | 0, _ => []
  | bound + 1, text =>
    match text.dropWhile Text.isBlank with
    | [] => []
    | front =>
      let (found, rest) := statement front
      (text, found) :: statements bound rest

/-- The statements of a settings file, each with the number of its line; blank lines in front
of a statement count as part of it. -/
def numbered (text : String) : List (Nat × Statement) :=
  let text := normalizeLineEnds (Text.withoutOrderMark text).toList
  (statements text.length text).map fun (rest, found) =>
    (text.count '\n' - rest.count '\n' + 1, found)

/-! ## Reading -/

/-- What is known under a name: the entries of the file come before the environment, and one
without a value is known as empty. -/
def known? (environment : Entries String) (entries : Entries (Option String)) (name : String) :
    Option String :=
  match entries.lookup name with
  | some value => some (value.getD "")
  | none => environment.lookup name

/-- Takes a statement into account. A value may refer to entries before it. -/
def add (environment : Entries String) (file : File) (number : Nat) : Statement → File
  | .comment => file
  | .entry name value =>
    let value := value.map (interpolate (known? environment file.entries))
    { file with entries := file.entries.put name value }
  | .unreadable => { file with unreadable := file.unreadable ++ [number] }

def read (environment : Entries String) (text : String) : File :=
  (numbered text).foldl (fun file (number, found) => file.add environment number found) {}

/-- The names that the values in a file refer to. -/
def references (text : String) : List String :=
  (numbered text).flatMap fun
    | (_, .entry _ (some value)) => mentions value
    | _ => []

/-- What is said about every line that cannot be read. -/
def warnings (file : File) : List String :=
  file.unreadable.map fun number =>
    s!"python-dotenv could not parse statement starting at line {number.repr}"

end File

end ExactCalc.Settings
