import ExactCalc.Text.Blank
import ExactCalc.Text.Digit

/-!
# Hosts and ports

A host that looks like an address of a network has to be one. A host of four numbers
has one byte in each; a host in brackets has eight groups of hexadecimal digits, of
which one run may be left out. Any other host is taken as a name. A port is an
integer in the digits of any script.
-/

namespace ExactCalc.Service.Host

/-! ## Four numbers -/

/-- Whether a host is made of four numbers with points between them, of any size. -/
def looksNumeric (host : List Char) : Bool :=
  let parts := host.splitOn '.'
  parts.length == 4 && parts.all fun part => !part.isEmpty && part.all Char.isDigit

/-- A byte in decimal, without zeros in front. -/
def isByte (text : List Char) : Bool :=
  !text.isEmpty && text.all Char.isDigit && text.length ≤ 3 &&
    (text.head? != some '0' || text.length == 1) && Nat.ofDigitChars 10 text 0 ≤ 255

def isFourBytes (host : List Char) : Bool :=
  let parts := host.splitOn '.'
  parts.length == 4 && parts.all isByte

/-! ## Eight groups -/

def isGroup (text : List Char) : Bool :=
  !text.isEmpty && text.length ≤ 4 && text.all fun c => (Text.hexValue? c).isSome

/-- The parts between colons. Four bytes at the end stand for two groups. -/
def parts? (text : List Char) : Option (List (List Char)) :=
  let parts := text.splitOn ':'
  let last := parts.getLastD []
  if parts.length < 3 then none
  else if last.contains '.' then
    if isFourBytes last then some (parts.dropLast ++ [['0'], ['0']]) else none
  else some parts

/-- Groups with a gap after the first `before` parts. An empty part at an end of the text
belongs to the gap, and has to stand next to it. -/
def isGapped (parts : List (List Char)) (before : Nat) : Bool :=
  let first := parts.take before
  let second := parts.drop (before + 1)
  let high := if first.head? == some [] then first.tail else first
  let low := if second.getLast? == some [] then second.dropLast else second
  (high.length == first.length || high.isEmpty) && (low.length == second.length || low.isEmpty) &&
    high.length + low.length < 8 && high.all isGroup && low.all isGroup

def isGroups (parts : List (List Char)) : Bool :=
  let inner := (List.range (parts.length - 2)).map (· + 1)
  parts.length ≤ 9 &&
    match inner.filter fun i => parts.getD i [] == [] with
    | [] => parts.length == 8 && parts.all isGroup
    | [gap] => isGapped parts gap
    | _ => false

/-- Eight groups, before a percent sign and the zone that they are meant for. -/
def isEightGroups (text : List Char) : Bool :=
  let inGroups (c : Char) : Bool := c ≠ '%'
  let zone := text.dropWhile inGroups
  (zone.isEmpty || (zone.length != 1 && !zone.tail.contains '%')) &&
    ((parts? (text.takeWhile inGroups)).map isGroups).getD false

/-! ## Ports -/

def digitsValue (digits : List Char) : Nat :=
  digits.foldl (fun n c => n * 10 + (Text.digitValue? c).getD 0) 0

/-- The integer that a port is: blanks around it and single underscores between its digits do
not matter. -/
def portNumber? (text : List Char) : Option Int :=
  let text := ((text.dropWhile Text.isBlank).reverse.dropWhile Text.isBlank).reverse
  let negative := text.head? == some '-'
  let body := if negative || text.head? == some '+' then text.tail else text
  let groups := body.splitOn '_'
  if groups.all fun g => !g.isEmpty && g.all Text.isDecimalDigit then
    let n : Int := digitsValue groups.flatten
    some (if negative then -n else n)
  else none

end ExactCalc.Service.Host
