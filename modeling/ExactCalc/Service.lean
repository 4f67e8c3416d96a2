import ExactCalc.Json.Coercion
import ExactCalc.Json.Reader
import ExactCalc.Json.Writer
import ExactCalc.Logging
import ExactCalc.Service.Address
import ExactCalc.Settings
import ExactCalc.Text.Encoding

/-!
# The service

Answers requests for calculations. A request carries an expression and variables as
a JSON object; a body that is no such object is answered with a list of everything
that is wrong with it, a failed calculation with its failure, and any other with the
value, the exact fraction and the steps. A list of what is wrong shows the values
that are, so the service breaks down where such a value cannot be written.
-/

namespace ExactCalc

structure Service where
  settings : Settings

namespace Service

structure Request where
  method : String
  path : String
  body : Option String
  deriving DecidableEq, Repr

structure Response where
  status : Nat
  body : String
  deriving DecidableEq, Repr

/-- What a well-formed request asks for. -/
structure Task where
  expression : String
  bindings : Entries Int
  deriving DecidableEq, Repr

/-- Why a request is left without a response. -/
inductive Breakdown
  | address (problem : Address.Problem)
  | notFinite
  deriving DecidableEq, Repr

def Breakdown.message : Breakdown → String
  | address problem => problem.message
  | notFinite => "Out of range float values are not JSON compliant"

def respond (status : Nat) (body : Json) : Response := ⟨status, body.write⟩

/-! ## What is wrong with a body -/

inductive Flaw
  | missing
  | mismatch (mismatch : Mismatch)
  | noDictionary
  | noObject
  | noJson (message : String)

namespace Flaw

def code : Flaw → String
  | missing => "missing"
  | mismatch m => m.code
  | noDictionary => "dict_type"
  | noObject => "model_attributes_type"
  | noJson _ => "json_invalid"

def message : Flaw → String
  | missing => "Field required"
  | mismatch m => m.message
  | noDictionary => "Input should be a valid dictionary"
  | noObject => "Input should be a valid dictionary or object to extract fields from"
  | noJson _ => "JSON decode error"

end Flaw

/-- A flaw, the path that leads to it below the body, and the value found there. -/
structure Issue where
  flaw : Flaw
  path : List Json
  input : Json

def Issue.json (issue : Issue) : Json :=
  let context : List (String × Json) := match issue.flaw with
    | .noJson message => [("ctx", .object [("error", .string message)])]
    | _ => []
  .object ([("type", .string issue.flaw.code), ("loc", .array (.string "body" :: issue.path)),
    ("msg", .string issue.flaw.message), ("input", issue.input.shown)] ++ context)

/-! ## Reading a body -/

def readExpression (fields : List (String × Json)) : Except (List Issue) String :=
  let path := [Json.string "expression"]
  match fields.lookup "expression" with
  | none => .error [⟨.missing, path, .object fields⟩]
  | some value => value.toText.mapError fun m => [⟨.mismatch m, path, value⟩]

/-- Collects the variables, or every one that is no integer. -/
def readEach : List (String × Json) → Except (List Issue) (Entries Int)
  | [] => .ok []
  | (name, value) :: rest =>
    let issue (m : Mismatch) : Issue := ⟨.mismatch m, [.string "variables", .string name], value⟩
    match value.toInt, readEach rest with
    | .ok n, .ok others => .ok ((name, n) :: others)
    | .ok _, .error issues => .error issues
    | .error m, .ok _ => .error [issue m]
    | .error m, .error issues => .error (issue m :: issues)

def readVariables (fields : List (String × Json)) : Except (List Issue) (Entries Int) :=
  match fields.lookup "variables" with
  | none => .ok []
  | some (.object bindings) => readEach bindings
  | some value => .error [⟨.noDictionary, [.string "variables"], value⟩]

def readTask (fields : List (String × Json)) : Except (List Issue) Task :=
  match readExpression fields, readVariables fields with
  | .ok expression, .ok bindings => .ok ⟨expression, bindings⟩
  | .ok _, .error issues => .error issues
  | .error issues, .ok _ => .error issues
  | .error first, .error second => .error (first ++ second)

/-- Why a body asks for nothing. -/
inductive BadBody
  | undecodable
  | flawed (issues : List Issue)

def readBody (body : Option String) : Except BadBody Task :=
  match body.getD "" with
  | "" => .error (.flawed [⟨.missing, [], .null⟩])
  | text =>
    match Text.decode? text with
    | none => .error .undecodable
    | some text =>
      match Json.read text with
      | .error e => .error (.flawed [⟨.noJson e.message, [.integer e.position], .object []⟩])
      | .ok (.object fields) => (readTask fields).mapError .flawed
      | .ok value => .error (.flawed [⟨.noObject, [], value⟩])

/-! ## Answering -/

def failureJson (r : FailureReport) : Json :=
  .object [("kind", .string r.kind), ("message", .string r.message),
    ("offending_text", r.offendingText.elim .null .string),
    ("position", r.position.elim .null .integer), ("name", r.name.elim .null .string)]

def fractionJson (a : Fraction) : Json :=
  .object [("numerator", .integer a.num), ("denominator", .integer a.den)]

def present (c : Calculation) : Response :=
  match c.outcome with
  | .ok exact => respond 200 (.object [("expression", .string c.expression),
      ("value", .integer exact.truncate), ("exact", fractionJson exact),
      ("steps", .array (c.steps.map fun step => .string step.text))])
  | .error failure => respond 400 (.object [("detail", failureJson failure.report)])

def perform (service : Service) (task : Task) : Response :=
  present (service.settings.calculator.evaluate task.bindings task.expression)

def refuse (status : Nat) (reason : String) : Response :=
  respond status (.object [("detail", .string reason)])

/-- Tells everything that is wrong with a body. -/
def reject : BadBody → Except Breakdown Response
  | .undecodable => .ok (refuse 400 "There was an error parsing the body")
  | .flawed issues =>
    if issues.all fun issue => issue.input.shown.isFinite then
      .ok (respond 422 (.object [("detail", .array (issues.map Issue.json))]))
    else .error .notFinite

def evaluate (service : Service) (body : Option String) : Except Breakdown Response :=
  match readBody body with
  | .ok task => .ok (service.perform task)
  | .error bad => reject bad

def health (service : Service) : Response :=
  respond 200 (.object [("status", .string "ok"), ("version", .string service.settings.appVersion)])

/-- What a path names: slashes at its end do not matter, nor does one line feed before them. -/
def route (path : List Char) : String :=
  match path.reverse.dropWhile (· == '/') with
  | '\n' :: rest => .ofList rest.reverse
  | rest => .ofList rest.reverse

def answer (service : Service) (method : String) (path : List Char) (body : Option String) :
    Except Breakdown Response :=
  match route path, method with
  | "/evaluate", "POST" => service.evaluate body
  | "/health", "GET" => .ok service.health
  | "/evaluate", _ => .ok (refuse 405 "Method Not Allowed")
  | "/health", _ => .ok (refuse 405 "Method Not Allowed")
  | _, _ => .ok (refuse 404 "Not Found")

/-- Capitals do not matter in a method. The answer to `HEAD` has no body. -/
def handle (service : Service) (request : Request) : Except Breakdown Response := do
  let path ← (Address.path request.path).mapError .address
  let method := Text.uppercase request.method
  let response ← service.answer method path request.body
  return if method = "HEAD" then { response with body := "" } else response

/-- Why a service does not start. -/
inductive StartError
  | level (unknown : Level.Unknown)
  | noTitle
  | noVersion
  deriving DecidableEq, Repr

def StartError.message : StartError → String
  | level unknown => unknown.message
  | noTitle => "A title must be provided for OpenAPI, e.g.: 'My API'"
  | noVersion => "A version must be provided for OpenAPI, e.g.: '2.1.0'"

/-- A service needs a level of the log that exists, a title and a version. -/
def start (settings : Settings) : Except StartError Service := do
  let _ ← (Level.ofSetting settings.logLevel).mapError .level
  if settings.appTitle = "" then .error .noTitle
  else if settings.appVersion = "" then .error .noVersion
  else return ⟨settings⟩

end Service

end ExactCalc
