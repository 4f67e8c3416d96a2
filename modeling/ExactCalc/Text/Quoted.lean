import ExactCalc.Text.Printable

/-!
# Quoted text

Text shown inside a message stands in single quotes, or in double quotes when it
contains a single quote and no double quote. The enclosing quote, the backslash and
every unprintable character are escaped, so that the text stays on one line.
-/

namespace ExactCalc.Text

def singleQuote : Char := '\x27'
def doubleQuote : Char := '"'

def enclosingQuote (s : String) : Char :=
  if s.toList.contains singleQuote && !s.toList.contains doubleQuote then doubleQuote
  else singleQuote

/-- A number in hexadecimal, with zeros in front up to `width` digits. -/
def hex (width n : Nat) : List Char :=
  let digits := Nat.toDigits 16 n
  .replicate (width - digits.length) '0' ++ digits

def escapeCode (n : Nat) : List Char :=
  if n ≤ 0xFF then '\\' :: 'x' :: hex 2 n
  else if n ≤ 0xFFFF then '\\' :: 'u' :: hex 4 n
  else '\\' :: 'U' :: hex 8 n

def quotedChar (enclosing c : Char) : List Char :=
  if c = enclosing ∨ c = '\\' then ['\\', c]
  else if c = '\n' then ['\\', 'n']
  else if c = '\r' then ['\\', 'r']
  else if c = '\t' then ['\\', 't']
  else if isPrintable c then [c]
  else escapeCode c.toNat

def quoted (s : String) : String :=
  let enclosing := enclosingQuote s
  .ofList (enclosing :: s.toList.flatMap (quotedChar enclosing) ++ [enclosing])

end ExactCalc.Text
