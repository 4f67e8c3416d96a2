import ExactCalc.Json
import ExactCalc.Numeral
import ExactCalc.Text.Digit
import ExactCalc.Text.Encoding

/-!
# JSON tokens

A text is cut into marks, texts and plain values. Each token is paired with the
text from its first character on, which tells its place. Cutting ends at the first
character that begins no token and at the first broken text; whether either is an
error, and which, depends on what is expected there.
-/

namespace ExactCalc.Json

/-- A fault in a JSON text: what was expected, and the text from the fault on. -/
structure Fault where
  message : String
  rest : List Char

inductive Token
  | mark (c : Char)
  | string (s : String)
  | plain (value : Json)
  | broken (fault : Fault)
  | foreign

def isLayout (c : Char) : Bool := c == ' ' || c == '\t' || c == '\n' || c == '\r'

def isMark (c : Char) : Bool :=
  c == '\x7b' || c == '\x7d' || c == '[' || c == ']' || c == ':' || c == ','

def hexQuad? (a b c d : Char) : Option Nat := do
  return (← Text.hexPair? a b) * 256 + (← Text.hexPair? c d)

/-- What a one-letter escape stands for. -/
def escaped? : Char → Option Char
  | '"' => some '"'
  | '\\' => some '\\'
  | '/' => some '/'
  | 'b' => some '\x08'
  | 'f' => some '\x0c'
  | 'n' => some '\n'
  | 'r' => some '\r'
  | 't' => some '\t'
  | _ => none

/-- Reads the four digits of a coded character, given the text after the letter `u`. At
least one more character has to follow them. -/
def readCode (text : List Char) : Except Fault (Nat × List Char) :=
  let fault : Fault := ⟨"Invalid \\uXXXX escape", 'u' :: text⟩
  match text with
  | a :: b :: c :: d :: next :: rest =>
    match hexQuad? a b c d with
    | some code => .ok (code, next :: rest)
    | none => .error fault
  | _ => .error fault

/-- Reads a coded character, two codes where they form a surrogate pair. -/
def readCoded (text : List Char) : Except Fault (Char × List Char) := do
  let (code, rest) ← readCode text
  match Text.isHighSurrogate code, rest with
  | true, '\\' :: 'u' :: second =>
    let (low, after) ← readCode second
    if Text.isLowSurrogate low then return (Text.charOfCode (Text.pairedCode code low), after)
    else return (Text.charOfCode code, rest)
  | _, _ => return (Text.charOfCode code, rest)

/-- Reads the rest of an escape, given the text after its backslash. `opening` is the text
from the opening quote on. -/
def readEscape (opening : List Char) : List Char → Except Fault (Char × List Char)
  | [] => .error ⟨"Unterminated string starting at", opening⟩
  | 'u' :: rest => readCoded rest
  | c :: rest =>
    match escaped? c with
    | some c => .ok (c, rest)
    | none => .error ⟨"Invalid \\escape", '\\' :: c :: rest⟩

theorem length_lt_of_readCode {text rest : List Char} {code : Nat}
    (h : readCode text = .ok (code, rest)) : rest.length < text.length := by
  unfold readCode at h
  grind

theorem length_lt_of_readCoded {text rest : List Char} {c : Char}
    (h : readCoded text = .ok (c, rest)) : rest.length < text.length := by
  unfold readCoded at h
  cases h₁ : readCode text with
  | error f => simp [h₁, bind, Except.bind] at h
  | ok p =>
    have hp := length_lt_of_readCode h₁
    simp only [h₁, bind, Except.bind] at h
    split at h
    · next second _ hr =>
      cases h₂ : readCode second with
      | error f => simp [h₂] at h
      | ok q =>
        have hq := length_lt_of_readCode h₂
        simp only [h₂, pure, Except.pure] at h
        rw [hr] at hp
        simp only [List.length_cons] at hp
        split at h <;> simp only [Except.ok.injEq, Prod.mk.injEq] at h <;>
          obtain ⟨_, rfl⟩ := h <;> grind
    · cases h; exact hp

theorem length_lt_of_readEscape {opening text rest : List Char} {c : Char}
    (h : readEscape opening text = .ok (c, rest)) : rest.length < text.length := by
  unfold readEscape at h
  split at h
  · cases h
  · have := length_lt_of_readCoded h
    simp; omega
  · split at h <;> cases h; simp

/-- Reads up to the closing quote of a text; `done` is what was read so far, last character
first. -/
def readText (opening done : List Char) : List Char → Except Fault (String × List Char)
  | [] => .error ⟨"Unterminated string starting at", opening⟩
  | c :: rest =>
    if c = '"' then .ok (.ofList done.reverse, rest)
    else if c = '\\' then
      match _escape : readEscape opening rest with
      | .error fault => .error fault
      | .ok (c, after) => readText opening (c :: done) after
    else if c.toNat < 0x20 then .error ⟨"Invalid control character at", c :: rest⟩
    else readText opening (c :: done) rest
termination_by text => text.length
decreasing_by
  · have := length_lt_of_readEscape _escape
    simp; omega
  · simp

/-- The text after a given word, if it begins with that word. -/
def afterWord? (word : String) (text : List Char) : Option (List Char) :=
  word.toList.isPrefixOf? text

/-- The words that stand for a value. -/
def words : List (String × Json) :=
  [("null", .null), ("true", .bool true), ("false", .bool false), ("NaN", .real .notANumber),
    ("Infinity", .real (.infinite false)), ("-Infinity", .real (.infinite true))]

/-- Reads the whole part of a number: a zero alone, or digits that begin with another. -/
def readWhole? : List Char → Option (List Char × List Char)
  | '0' :: rest => some (['0'], rest)
  | text =>
    if (text.takeWhile Char.isDigit).isEmpty then none
    else some (text.takeWhile Char.isDigit, text.dropWhile Char.isDigit)

/-- Reads a point and the digits after it; without digits there is no fraction. -/
def readFraction : List Char → List Char × List Char
  | '.' :: rest =>
    if (rest.takeWhile Char.isDigit).isEmpty then ([], '.' :: rest)
    else (rest.takeWhile Char.isDigit, rest.dropWhile Char.isDigit)
  | text => ([], text)

/-- Reads the power of ten of a number; without digits there is none. -/
def readExponent (text : List Char) : Option Int × List Char :=
  match text with
  | c :: rest =>
    if c = 'e' ∨ c = 'E' then
      let negative := rest.head? == some '-'
      let digits := if negative || rest.head? == some '+' then rest.tail else rest
      if (digits.takeWhile Char.isDigit).isEmpty then (none, text)
      else (some (Numeral.withSign negative (Numeral.value (digits.takeWhile Char.isDigit))),
        digits.dropWhile Char.isDigit)
    else (none, text)
  | [] => (none, [])

/-- Reads a number. One with a fraction or an exponent is rounded to sixty-four bits. -/
def readNumber? (text : List Char) : Option (Json × List Char) := do
  let negative := text.head? == some '-'
  let (whole, rest) ← readWhole? (if negative then text.tail else text)
  let (fraction, rest) := readFraction rest
  let (exponent, rest) := readExponent rest
  if fraction.isEmpty && exponent.isNone then
    return (.integer (Numeral.withSign negative (Numeral.value whole)), rest)
  else
    let digits := Numeral.value (whole ++ fraction)
    return (.real (.ofDecimal negative digits (exponent.getD 0 - fraction.length)), rest)

/-- Reads a value that is neither a text nor made of parts. -/
def readPlain? (text : List Char) : Option (Json × List Char) :=
  match words.findSome? fun (word, value) => (afterWord? word text).map (value, ·) with
  | some found => some found
  | none => readNumber? text

/-- The tokens of a text. At most `bound` of them are cut, which is no limit when it is the
length of the text, since each takes a character. -/
def cut : Nat → List Char → List (List Char × Token)
  | 0, _ => []
  | bound + 1, text =>
    match text.dropWhile isLayout with
    | [] => []
    | c :: rest =>
      let here := c :: rest
      if isMark c then (here, .mark c) :: cut bound rest
      else if c = '"' then
        match readText here [] rest with
        | .ok (s, rest) => (here, .string s) :: cut bound rest
        | .error fault => [(here, .broken fault)]
      else
        match readPlain? here with
        | some (value, rest) => (here, .plain value) :: cut bound rest
        | none => [(here, .foreign)]

def tokens (text : List Char) : List (List Char × Token) := cut text.length text

end ExactCalc.Json
