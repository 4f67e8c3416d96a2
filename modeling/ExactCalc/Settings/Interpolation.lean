import ExactCalc.Entries

/-!
# References in values

A value in the settings file may refer to another name: `${NAME}` stands for what is
known under the name, and `${NAME:-FALLBACK}` for the fallback where nothing is. A
fallback is taken as it stands. Anything else that begins with a dollar sign is
plain text.
-/

namespace ExactCalc.Settings

inductive Piece
  | plain (c : Char)
  | reference (name : String) (fallback : List Char)
  deriving DecidableEq, Repr

namespace Piece

def inName (c : Char) : Bool := c ≠ '\x7d' && c ≠ ':'

def inFallback (c : Char) : Bool := c ≠ '\x7d'

/-- Reads a reference, given the text after its opening brace. -/
def reference? (text : List Char) : Option (Piece × List Char) :=
  let name := String.ofList (text.takeWhile inName)
  match text.dropWhile inName with
  | '\x7d' :: rest => some (reference name [], rest)
  | ':' :: '-' :: rest =>
    match rest.dropWhile inFallback with
    | _ :: after => some (reference name (rest.takeWhile inFallback), after)
    | [] => none
  | _ => none

theorem length_lt_of_reference? {text rest : List Char} {piece : Piece}
    (h : reference? text = some (piece, rest)) : rest.length < text.length := by
  have dropped : (text.dropWhile inName).length ≤ text.length :=
    (List.dropWhile_suffix inName).length_le
  unfold reference? at h
  split at h
  · next after found =>
    rw [found, List.length_cons] at dropped
    cases h
    omega
  · next after found =>
    have := (List.dropWhile_suffix (l := after) inFallback).length_le
    rw [found, List.length_cons, List.length_cons] at dropped
    split at h
    · next closed =>
      rw [closed, List.length_cons] at this
      cases h
      omega
    · cases h
  · cases h

/-- The pieces of a value. -/
def split : List Char → List Piece
  | [] => []
  | '$' :: '\x7b' :: text =>
    match _found : reference? text with
    | some (piece, rest) => piece :: split rest
    | none => plain '$' :: split ('\x7b' :: text)
  | c :: text => plain c :: split text
termination_by text => text.length
decreasing_by
  · have := length_lt_of_reference? _found
    simp; omega
  · simp
  · simp

/-- What a piece stands for. -/
def resolve (find? : String → Option String) : Piece → List Char
  | plain c => [c]
  | reference name fallback => (find? name).elim fallback String.toList

def name? : Piece → Option String
  | plain _ => none
  | reference name _ => some name

end Piece

/-- Replaces the references in a value. -/
def interpolate (find? : String → Option String) (value : String) : String :=
  .ofList ((Piece.split value.toList).flatMap (Piece.resolve find?))

/-- The names that a value refers to. -/
def mentions (value : String) : List String :=
  (Piece.split value.toList).filterMap Piece.name?

end ExactCalc.Settings
