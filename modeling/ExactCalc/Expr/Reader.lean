import ExactCalc.Failure
import ExactCalc.Text.Blank

/-!
# Reading expressions

A piece of text is a literal, a name, a form, or unreadable; this is decided by
its characters alone. The arguments of a form are the pieces between the
parentheses and commas that stand at the right level after its keyword, and each
of them is read as soon as it is complete, so the first defect in reading order is
the one reported. Text outside those pieces is passed over, and arguments beyond
those that a form needs are read and then left out.

Positions are counted in characters of the source, whatever the nesting.
-/

namespace ExactCalc

/-- Recognizes the keyword that a text begins with, and gives the text after it. -/
def Form.split? : List Char → Option (Form × List Char)
  | 'a' :: 'd' :: 'd' :: rest => some (.arithmetic .add, rest)
  | 's' :: 'u' :: 'b' :: rest => some (.arithmetic .sub, rest)
  | 'm' :: 'u' :: 'l' :: 't' :: rest => some (.arithmetic .mult, rest)
  | 'd' :: 'i' :: 'v' :: rest => some (.arithmetic .div, rest)
  | 'l' :: 'e' :: 't' :: rest => some (.binding, rest)
  | _ => none

theorem Form.eq_append_of_split? {text rest : List Char} {form : Form}
    (h : Form.split? text = some (form, rest)) : text = form.keyword.toList ++ rest := by
  unfold Form.split? at h
  split at h <;> simp_all <;> obtain ⟨rfl, rfl⟩ := h <;> rfl

theorem Form.split?_append (form : Form) (rest : List Char) :
    Form.split? (form.keyword.toList ++ rest) = some (form, rest) := by
  rcases form with (_ | _ | _ | _) | _ <;> rfl

theorem Form.length_lt_of_split? {text rest : List Char} {form : Form}
    (h : Form.split? text = some (form, rest)) : rest.length < text.length := by
  rw [Form.eq_append_of_split? h]
  rcases form with (_ | _ | _ | _) | _ <;> simp [Form.keyword, Operator.keyword] <;> omega

/-- The kinds of text that the reader tells apart. -/
inductive Shape
  | literal (negative : Bool) (digits : List Char)
  | name
  | call (form : Form) (rest : List Char)
  | unreadable

/-- A text of letters alone is a name, even when it begins with a keyword or is one. -/
def Shape.ofText (text : List Char) : Shape :=
  match Numeral.split? text with
  | some (negative, digits) => .literal negative digits
  | none =>
    if !text.isEmpty && text.all Char.isAlpha then .name
    else match Form.split? text with
      | some (form, rest) => .call form rest
      | none => .unreadable

theorem Shape.length_lt_of_call {text rest : List Char} {form : Form}
    (h : Shape.ofText text = .call form rest) : rest.length < text.length := by
  unfold Shape.ofText at h
  split at h
  · cases h
  · split at h
    · cases h
    · split at h
      · next hs => cases h; exact Form.length_lt_of_split? hs
      · cases h

/-- Builds a form from its arguments; `offset` is the place of `text` in the source. -/
def Form.assemble (form : Form) (text : List Char) (offset : Int) (arguments : List Expr) :
    Except Rejection Expr :=
  let reject (defect : Defect) : Except Rejection Expr :=
    .error ⟨defect, .ofList text, offset + form.keyword.length⟩
  match form, arguments with
  | .arithmetic op, left :: right :: _ => .ok (.apply op left right)
  | .binding, .name x :: value :: body :: _ => .ok (.letIn x value body)
  | .binding, _ :: _ :: _ :: _ => reject .unnamedBinding
  | form, _ => reject (.tooFewArguments form)

/-- The nesting level after a character, given the level before it. -/
def levelAfter (level : Int) (c : Char) : Int :=
  if c = '(' then level + 1 else if c = ')' then level - 1 else level

mutual

/-- Reads a text without blanks that begins at `offset` of the source and lies
`depth` forms deep. -/
def Expr.read (limit : Int) (text : List Char) (offset depth : Int) : Except Rejection Expr :=
  if limit < depth then .error ⟨.tooDeep limit, .ofList text, offset⟩
  else match _shape : Shape.ofText text with
    | .literal negative digits =>
      match Numeral.word32? negative digits with
      | some n => .ok (.number n)
      | none => .error ⟨.outOfRange, .ofList text, offset⟩
    | .name => .ok (.name (.ofList text))
    | .call form rest => do
      let arguments ← readArguments limit depth 0 (offset + form.keyword.length) [] rest
      form.assemble text offset arguments
    | .unreadable => .error ⟨.unreadable, .ofList text, offset⟩
termination_by (text.length, 0)
decreasing_by
  have := Shape.length_lt_of_call _shape
  simp_wf
  omega

/-- Reads the arguments in the text that remains. `piece` holds, last character first, what
has been passed since the place `start`. A parenthesis that opens a list, and a comma or
closing parenthesis directly inside one, begin a fresh piece; the latter two complete an
argument. -/
def readArguments (limit depth level start : Int) (piece : List Char) :
    List Char → Except Rejection (List Expr)
  | [] => .ok []
  | c :: rest =>
    if c = '(' ∧ level = 0 then
      readArguments limit depth (levelAfter level c) (start + piece.length + 1) [] rest
    else if (c = ',' ∨ c = ')') ∧ level = 1 then do
      let argument ← Expr.read limit piece.reverse start (depth + 1)
      let others ←
        readArguments limit depth (levelAfter level c) (start + piece.length + 1) [] rest
      return argument :: others
    else readArguments limit depth (levelAfter level c) start (c :: piece) rest
termination_by text => (piece.length + text.length, text.length)
decreasing_by
  all_goals simp only [Prod.lex_def, List.length_cons, List.length_nil, List.length_reverse]; omega

end

theorem Expr.read_of_lt {limit depth : Int} (h : limit < depth) (text : List Char) (offset : Int) :
    Expr.read limit text offset depth = .error ⟨.tooDeep limit, .ofList text, offset⟩ := by
  rw [Expr.read, if_pos h]

theorem Expr.read_literal {limit depth : Int} (hd : depth ≤ limit) {text digits : List Char}
    {negative : Bool} (h : Shape.ofText text = .literal negative digits) (offset : Int) :
    Expr.read limit text offset depth =
      match Numeral.word32? negative digits with
      | some n => .ok (.number n)
      | none => .error ⟨.outOfRange, .ofList text, offset⟩ := by
  rw [Expr.read, if_neg (Int.not_lt.mpr hd)]
  split <;> simp_all

theorem Expr.read_name {limit depth : Int} (hd : depth ≤ limit) {text : List Char}
    (h : Shape.ofText text = .name) (offset : Int) :
    Expr.read limit text offset depth = .ok (.name (.ofList text)) := by
  rw [Expr.read, if_neg (Int.not_lt.mpr hd)]
  split <;> simp_all

theorem Expr.read_call {limit depth : Int} (hd : depth ≤ limit) {text rest : List Char}
    {form : Form} (h : Shape.ofText text = .call form rest) (offset : Int) :
    Expr.read limit text offset depth =
      (readArguments limit depth 0 (offset + form.keyword.length) [] rest >>=
        form.assemble text offset) := by
  rw [Expr.read, if_neg (Int.not_lt.mpr hd)]
  split <;> simp_all

theorem Expr.read_unreadable {limit depth : Int} (hd : depth ≤ limit) {text : List Char}
    (h : Shape.ofText text = .unreadable) (offset : Int) :
    Expr.read limit text offset depth = .error ⟨.unreadable, .ofList text, offset⟩ := by
  rw [Expr.read, if_neg (Int.not_lt.mpr hd)]
  split <;> simp_all

/-- The nesting limit of a calculator that is not given one. -/
def defaultLimit : Int := 256

/-- Reads an expression after removing all blanks; the source is the text without them. -/
def Expr.ofText (limit : Int) (text : String) : Except Rejection Expr :=
  Expr.read limit (Text.withoutBlanks text).toList 0 0

/-- Why the arguments in a window of a text cannot be listed. -/
inductive WindowError
  | rejected (rejection : Rejection)
  | pastEnd
  deriving DecidableEq, Repr

/-- Reads the arguments in the characters from `first` up to, not including, `stop`. A
window that reaches past the end of the text is read as far as the text goes. -/
def readWindow (limit : Int) (text : List Char) (first stop : Nat) (offset depth : Int) :
    Except WindowError (List Expr) :=
  match readArguments limit depth 0 (offset + first) [] ((text.drop first).take (stop - first)) with
  | .error r => .error (.rejected r)
  | .ok arguments =>
    if first < stop ∧ text.length < stop then .error .pastEnd else .ok arguments

end ExactCalc
