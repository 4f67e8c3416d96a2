import ExactCalc.Json
import ExactCalc.Numeral
import ExactCalc.Text.Blank

/-!
# Reading plain data out of JSON values

An integer may be given as such, as a truth value, as a number without a fraction
that fits sixty-four bits, or as a text that spells it. A text has to be given as a
text.
-/

namespace ExactCalc

/-- Why a JSON value is not of the kind that is asked for. -/
inductive Mismatch
  | noNumeral
  | tooLarge
  | noInteger
  | fractional
  | notFinite
  | noText
  deriving DecidableEq, Repr

namespace Mismatch

def code : Mismatch → String
  | noNumeral => "int_parsing"
  | tooLarge => "int_parsing_size"
  | noInteger => "int_type"
  | fractional => "int_from_float"
  | notFinite => "finite_number"
  | noText => "string_type"

def message : Mismatch → String
  | noNumeral => "Input should be a valid integer, unable to parse string as an integer"
  | tooLarge => "Unable to parse input string as an integer, exceeded maximum size"
  | noInteger => "Input should be a valid integer"
  | fractional => "Input should be a valid integer, got a number with a fractional part"
  | notFinite => "Input should be a finite number"
  | noText => "Input should be a valid string"

end Mismatch

namespace Numeral

/-- Blank characters that may surround a spelled integer: the information separators are
not among them. -/
def isMargin (c : Char) : Bool := Text.isBlank c && !(0x1C ≤ c.toNat && c.toNat ≤ 0x1F)

def trim (text : List Char) : List Char :=
  ((text.dropWhile isMargin).reverse.dropWhile isMargin).reverse

/-- Drops zeros, and underscores after them, in front of another digit or a minus sign. The
character before a point or the end stays; `last` is the one that was passed over before. -/
def afterZero? (last : Char) : List Char → Option (List Char)
  | [] => some [last]
  | c :: rest =>
    if c = '0' ∨ c = '_' then afterZero? c rest
    else if c = '.' then some (last :: c :: rest)
    else if c.isDigit ∨ c = '-' then some (c :: rest)
    else none

/-- A spelled integer without the zeros in front; it has to begin with a digit. -/
def withoutZeros? : List Char → Option (List Char)
  | [] => none
  | c :: rest =>
    if c = '0' then afterZero? c rest else if c.isDigit then some (c :: rest) else none

/-- Drops a point with zeros and nothing else behind it. -/
def withoutFraction (text : List Char) : List Char :=
  match text.dropWhile (· ≠ '.') with
  | _ :: '0' :: zeros => if zeros.all (· == '0') then text.takeWhile (· ≠ '.') else text
  | _ => text

/-- Drops underscores if each of them stands alone and inside the text. -/
def ungroup (text : List Char) : List Char :=
  let groups := text.splitOn '_'
  if groups.any List.isEmpty then text else groups.flatten

/-- How many digits a spelled integer may have. -/
def spelledDigits : Nat := 4300

/-- Reads an optional minus sign and digits that no zero stands in front of. -/
def plain (text : List Char) : Except Mismatch Int :=
  let negative := text.head? == some '-'
  let body := if negative then text.tail else text
  let digits := body.takeWhile Char.isDigit
  if digits.isEmpty || (digits.head? == some '0' && digits != ['0']) then .error .noNumeral
  else if spelledDigits < digits.length then .error .tooLarge
  else if digits.length < body.length then .error .noNumeral
  else .ok (withSign negative (value digits))

/-- Brings a spelled integer into plain form: blanks around it, a sign of either kind, zeros in
front, grouped digits, and a point with zeros behind it are all accepted. -/
def toPlain? (text : List Char) : Option (List Char) :=
  let text := trim text
  let negative := text.head? == some '-'
  let body := if negative || text.head? == some '+' then text.tail else text
  (withoutZeros? body).map fun body =>
    let body := ungroup (withoutFraction body)
    if negative then '-' :: body else body

/-- The integer that a text spells, in plain form or in another. Only a text that begins with
too many digits is told that it is too large. -/
def spelled (text : List Char) : Except Mismatch Int :=
  match plain text with
  | .error .noNumeral =>
    (toPlain? text).elim (.error .noNumeral) fun text =>
      (plain text).mapError fun _ => .noNumeral
  | result => result

end Numeral

namespace Json

/-- The integer that a number without a fraction is, if it fits sixty-four bits. -/
def realToInt : Binary64 → Except Mismatch Int
  | .finite negative significand exponent =>
    match (Binary64.finite negative significand exponent).toInt? with
    | none => .error .fractional
    | some n => if n.natAbs < 9223372036854775808 then .ok n else .error .tooLarge
  | _ => .error .notFinite

def isInteger : Json → Bool
  | integer _ => true
  | _ => false

def toInt : Json → Except Mismatch Int
  | integer n => .ok n
  | bool b => .ok (if b then 1 else 0)
  | real x => realToInt x
  | string s => Numeral.spelled s.toList
  | _ => .error .noInteger

def toText : Json → Except Mismatch String
  | string s => .ok s
  | _ => .error .noText

end Json

end ExactCalc
