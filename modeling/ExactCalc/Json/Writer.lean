import ExactCalc.Json
import ExactCalc.Numeral

/-!
# Writing JSON

Compact text: no blanks, every character outside ASCII as it is, and only
quotes, backslashes and control characters escaped.
-/

namespace ExactCalc.Json

def hexDigit (n : Nat) : Char :=
  if n < 10 then .ofNat ('0'.toNat + n) else .ofNat ('a'.toNat + (n - 10))

/-- How a character stands inside quotes. -/
def escape (c : Char) : List Char :=
  match c with
  | '"' => ['\\', '"']
  | '\\' => ['\\', '\\']
  | '\n' => ['\\', 'n']
  | '\r' => ['\\', 'r']
  | '\t' => ['\\', 't']
  | '\x08' => ['\\', 'b']
  | '\x0c' => ['\\', 'f']
  | c =>
    if c.toNat < 0x20 then ['\\', 'u', '0', '0', hexDigit (c.toNat / 16), hexDigit (c.toNat % 16)]
    else [c]

def quote (s : String) : String :=
  .ofList ('"' :: s.toList.flatMap escape ++ ['"'])

/-- The places of the decimal point for which a number is written without an exponent. -/
def isPositional (point : Int) : Bool := -4 < point && point ≤ 16

/-- Writes decimal digits with the point at a place counted from their front, or with an
exponent of at least two digits. A whole number gets a zero after the point. -/
def decimalText (digits : List Char) (point : Int) : List Char :=
  let zeros (n : Int) : List Char := .replicate n.toNat '0'
  if isPositional point then
    if point ≤ 0 then '0' :: '.' :: zeros (-point) ++ digits
    else
      let fraction := digits.drop point.toNat
      digits.take point.toNat ++ zeros (point - digits.length) ++
        '.' :: (if fraction.isEmpty then ['0'] else fraction)
  else
    let exponent := point - 1
    let power := exponent.natAbs.repr.toList
    digits.take 1 ++ (if digits.length ≤ 1 then [] else '.' :: digits.drop 1) ++
      'e' :: (if exponent < 0 then '-' else '+') :: .replicate (2 - power.length) '0' ++ power

/-- The fewest digits that read back to the same number. -/
def realText : Binary64 → String
  | .finite negative significand exponent =>
    let sign := if negative then ['-'] else []
    if significand = 0 then .ofList (sign ++ ['0', '.', '0'])
    else
      let (n, unit) := Binary64.shortest significand exponent
      let all := n.repr.toList
      let digits := (all.reverse.dropWhile (· == '0')).reverse
      .ofList (sign ++ decimalText digits (unit + all.length))
  | .infinite negative => if negative then "-Infinity" else "Infinity"
  | .notANumber => "NaN"

mutual

def write : Json → String
  | null => "null"
  | bool b => if b then "true" else "false"
  | integer n => Numeral.ofInt n
  | real x => realText x
  | string s => quote s
  | array items => "[" ++ ",".intercalate (writeItems items) ++ "]"
  | object fields => "\x7b" ++ ",".intercalate (writeFields fields) ++ "\x7d"

def writeItems : List Json → List String
  | [] => []
  | value :: rest => write value :: writeItems rest

def writeFields : List (String × Json) → List String
  | [] => []
  | (name, value) :: rest => (quote name ++ ":" ++ write value) :: writeFields rest

end

end ExactCalc.Json
