import ExactCalc.Json.Token

/-!
# Reading JSON

The tokens of a text are taken one after another, with the lists and objects that
are still open on a stack. A field that occurs again takes the later value and
keeps the earlier place. An error names what was expected and counts the characters
before it.
-/

namespace ExactCalc.Json

/-- A list with its items, last first, or an object with its fields and the name of the one
that is being read. -/
inductive Open
  | items (done : List Json)
  | fields (done : Entries Json) (name : String)

/-- What has to come next. -/
inductive Expected
  | value (mayClose : Bool)
  | name (mayClose : Bool)
  | colon
  | separator
  | nothing (value : Json)

def Expected.message : Expected → String
  | value _ => "Expecting value"
  | name _ => "Expecting property name enclosed in double quotes"
  | colon => "Expecting ':' delimiter"
  | separator => "Expecting ',' delimiter"
  | nothing _ => "Extra data"

structure Reading where
  stack : List Open
  expected : Expected

namespace Reading

def start : Reading := ⟨[], .value false⟩

/-- Puts a complete value where it belongs. -/
def complete (value : Json) : List Open → Reading
  | [] => ⟨[], .nothing value⟩
  | .items done :: stack => ⟨.items (value :: done) :: stack, .separator⟩
  | .fields done name :: stack => ⟨.fields (done.put name value) name :: stack, .separator⟩

/-- What follows a mark, if the mark is expected. -/
def afterMark? (reading : Reading) (c : Char) : Option Reading :=
  match reading.expected, reading.stack, c with
  | .value _, stack, '[' => some ⟨.items [] :: stack, .value true⟩
  | .value _, stack, '\x7b' => some ⟨.fields [] "" :: stack, .name true⟩
  | .value true, .items done :: stack, ']' => some (complete (.array done.reverse) stack)
  | .name true, .fields done _ :: stack, '\x7d' => some (complete (.object done) stack)
  | .colon, stack, ':' => some ⟨stack, .value false⟩
  | .separator, .items done :: stack, ',' => some ⟨.items done :: stack, .value false⟩
  | .separator, .items done :: stack, ']' => some (complete (.array done.reverse) stack)
  | .separator, .fields done x :: stack, ',' => some ⟨.fields done x :: stack, .name false⟩
  | .separator, .fields done _ :: stack, '\x7d' => some (complete (.object done) stack)
  | _, _, _ => none

/-- Takes one token; `here` is the text from it on. -/
def take (reading : Reading) (here : List Char) (token : Token) : Except Fault Reading :=
  let unexpected : Except Fault Reading := .error ⟨reading.expected.message, here⟩
  match reading.expected, reading.stack, token with
  | _, _, .mark c => (reading.afterMark? c).elim unexpected .ok
  | .value _, stack, .plain value => .ok (complete value stack)
  | .value _, stack, .string s => .ok (complete (.string s) stack)
  | .name _, .fields done _ :: stack, .string s => .ok ⟨.fields done s :: stack, .colon⟩
  | .value _, _, .broken fault | .name _, _, .broken fault => .error fault
  | _, _, _ => unexpected

def finish (reading : Reading) : Except Fault Json :=
  match reading.expected with
  | .nothing value => .ok value
  | expected => .error ⟨expected.message, []⟩

/-- Takes all tokens of a text. -/
def run (tokens : List (List Char × Token)) : Except Fault Json := do
  let reading ← tokens.foldlM (fun reading (here, token) => take reading here token) start
  reading.finish

end Reading

/-- Why a text is no JSON, and the number of characters before the fault. -/
structure ReadError where
  message : String
  position : Nat
  deriving DecidableEq, Repr

def read (text : String) : Except ReadError Json :=
  (Reading.run (tokens text.toList)).mapError fun fault =>
    ⟨fault.message, text.length - fault.rest.length⟩

end ExactCalc.Json
