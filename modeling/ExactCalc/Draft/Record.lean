import ExactCalc.Expr
import ExactCalc.Json.Coercion

/-!
# Trees as records

A record describes an expression by its fields: a number by its value, a name by
itself, an operation by its operator and its two sides, a `let` by what it declares,
its value and its body. One more field may say of which kind it is. Fields that a kind
does not have are passed over, so a record can be read as several kinds; then the
reading that uses the most fields counts, of two that use as many the one that takes
every number as it stands, and the first of equals. A record that cannot be read is
told everything that is wrong with each of its readings.
-/

namespace ExactCalc.Draft

/-! ## Problems -/

/-- The kinds of trees, in the order in which they are tried. -/
inductive Kind
  | number
  | name
  | apply
  | letIn
  deriving DecidableEq, Repr

/-- The word by which a record says its kind. -/
def Kind.word : Kind → String
  | number => "number"
  | name => "variable"
  | apply => "binop"
  | letIn => "let"

inductive Part
  | kind
  | value
  | name
  | op
  | left
  | right
  | declared
  | body
  deriving DecidableEq, Repr

/-- The field of a record in which a part stands. -/
def Part.field : Part → String
  | kind => "node_type"
  | value => "value"
  | name => "name"
  | op => "op"
  | left => "left"
  | right => "right"
  | declared => "variable"
  | body => "body"

/-- A step on the way to a part: into a part, or on to one of the readings. -/
inductive Waypoint
  | part (part : Part)
  | reading (kind : Kind)
  deriving DecidableEq, Repr

inductive Flaw
  | missing
  | unknownWord
  | noTree
  | mismatch (mismatch : Mismatch)
  deriving DecidableEq, Repr

/-- A flaw and the way that leads to it. -/
structure Problem where
  flaw : Flaw
  path : List Waypoint
  deriving DecidableEq, Repr

/-- A result, or everything that stands in its way. -/
abbrev Checked (α : Type) := Except (List Problem) α

namespace Checked

variable {α β : Type}

def fail (flaw : Flaw) : Checked α := .error [⟨flaw, []⟩]

/-- Finds the problems one step further down. -/
def under (waypoint : Waypoint) (result : Checked α) : Checked α :=
  result.mapError fun problems => problems.map fun p => { p with path := waypoint :: p.path }

/-- Both results, or the problems of both. -/
def both : Checked α → Checked β → Checked (α × β)
  | .ok a, .ok b => .ok (a, b)
  | .ok _, .error q => .error q
  | .error p, .ok _ => .error p
  | .error p, .error q => .error (p ++ q)

/-- A part that has to be there. -/
def required (part : Part) (found : Option α) (read : α → Checked β) : Checked β :=
  (found.elim (fail .missing) read).under (.part part)

end Checked

open Checked

/-! ## Readings -/

/-- Something that was read out of records, how many of their fields it took, and whether
every number in it was given as an integer and not in another form. -/
structure Reading (α : Type) where
  result : α
  fields : Nat
  literal : Bool
  deriving Repr

/-- Whether a reading counts more than another one: by its fields, then by its numbers. -/
def Reading.outranks {α : Type} (a b : Reading α) : Bool :=
  b.fields < a.fields || (a.fields == b.fields && a.literal && !b.literal)

abbrev Fields := List (String × Json)

/-- The trees that the fields of a record describe. -/
abbrev Trees := List (String × Checked (Reading Expr))

/-- Checks the field for the kind, and counts it if it is there. -/
def readKind (kind : Kind) (fields : Fields) : Checked Nat :=
  match fields.lookup Part.kind.field with
  | none => .ok 0
  | some (.string word) =>
    if word = kind.word then .ok 1 else (fail .unknownWord).under (.part .kind)
  | some _ => (fail .unknownWord).under (.part .kind)

def readOperator : Json → Checked Operator
  | .string word => (Operator.ofKeyword? word).elim (fail .unknownWord) .ok
  | _ => fail .unknownWord

def readNumber (fields : Fields) : Checked (Reading Expr) :=
  let value := required .value (fields.lookup Part.value.field) fun value =>
    (value.toInt.map fun n => (n, value.isInteger)).mapError fun m => [⟨.mismatch m, []⟩]
  (both (readKind .number fields) value).map
    fun (kinds, n, literal) => ⟨.number n, kinds + 1, literal⟩

def readName (fields : Fields) : Checked (Reading String) :=
  let name := required .name (fields.lookup Part.name.field) fun name =>
    name.toText.mapError fun m => [⟨.mismatch m, []⟩]
  (both (readKind .name fields) name).map fun (kinds, x) => ⟨x, kinds + 1, true⟩

/-- The name that a `let` declares has to stand in a record of its own. -/
def readDeclared : Json → Checked (Reading String)
  | .object fields => readName fields
  | _ => fail .noTree

def readApply (fields : Fields) (trees : Trees) : Checked (Reading Expr) :=
  let op := required .op (fields.lookup Part.op.field) readOperator
  let side (part : Part) := required part (trees.lookup part.field) id
  (both (readKind .apply fields) (both op (both (side .left) (side .right)))).map
    fun (kinds, op, left, right) =>
      ⟨.apply op left.result right.result, kinds + 3 + left.fields + right.fields,
        left.literal && right.literal⟩

def readLet (fields : Fields) (trees : Trees) : Checked (Reading Expr) :=
  let declared := required .declared (fields.lookup Part.declared.field) readDeclared
  let part (part : Part) := required part (trees.lookup part.field) id
  (both (readKind .letIn fields) (both declared (both (part .value) (part .body)))).map
    fun (kinds, x, value, body) =>
      ⟨.letIn x.result value.result body.result, kinds + 3 + x.fields + value.fields + body.fields,
        value.literal && body.literal⟩

/-- Of two readings the one that counts more, the first of equals. -/
def prefer (first second : Checked (Reading Expr)) : Checked (Reading Expr) :=
  match first, second with
  | .ok a, .ok b => if b.outranks a then .ok b else .ok a
  | .ok a, .error _ => .ok a
  | .error _, .ok b => .ok b
  | .error p, .error q => .error (p ++ q)

def readRecord (fields : Fields) (trees : Trees) : Checked (Reading Expr) :=
  let named : Checked (Reading Expr) :=
    (readName fields).map fun r => ⟨.name r.result, r.fields, r.literal⟩
  [under (.reading .number) (readNumber fields), under (.reading .name) named,
    under (.reading .apply) (readApply fields trees),
    under (.reading .letIn) (readLet fields trees)].foldl prefer (.error [])

mutual

/-- The tree that a value describes. -/
def readTree : Json → Checked (Reading Expr)
  | .object fields => readRecord fields (readTrees fields)
  | _ => .error ([Kind.number, .name, .apply, .letIn].map fun kind => ⟨.noTree, [.reading kind]⟩)

def readTrees : Fields → Trees
  | [] => []
  | (name, value) :: rest => (name, readTree value) :: readTrees rest

end

end ExactCalc.Draft
