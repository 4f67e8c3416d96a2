/-!
# Layouts of a text in bytes

A text may arrive with two or four bytes to a character instead of the usual
layout, in either order of the bytes. A text of JSON begins with an ASCII character,
so the zeros among its first bytes tell which layout it has.
-/

namespace ExactCalc.Text

/-- A mark of the byte order in front of a text is no part of it. -/
def withoutOrderMark (text : String) : String :=
  match text.toList with
  | '\uFEFF' :: rest => .ofList rest
  | _ => text

/-! ## Codes of characters -/

/-- The character of a code; a code that is half of a surrogate pair has none of its own. -/
def charOfCode (code : Nat) : Char :=
  if h : code.isValidChar then .ofNatAux code h else '\uFFFD'

def isHighSurrogate (code : Nat) : Bool := 0xD800 ≤ code && code < 0xDC00
def isLowSurrogate (code : Nat) : Bool := 0xDC00 ≤ code && code < 0xE000

/-- The code that a surrogate pair stands for. -/
def pairedCode (high low : Nat) : Nat := 0x10000 + (high - 0xD800) * 0x400 + (low - 0xDC00)

/-- Replaces every surrogate pair by the code that it stands for. -/
def joinPairs : List Nat → List Nat
  | high :: low :: rest =>
    if isHighSurrogate high && isLowSurrogate low then pairedCode high low :: joinPairs rest
    else high :: joinPairs (low :: rest)
  | codes => codes

/-! ## Layouts -/

inductive ByteOrder
  | highFirst
  | lowFirst
  deriving DecidableEq, Repr

inductive Layout
  | compact
  | twoBytes (order : ByteOrder)
  | fourBytes (order : ByteOrder)
  deriving DecidableEq, Repr

namespace Layout

/-- The layout that the first bytes of a text point to. -/
def ofBytes : List UInt8 → Layout
  | [0, _] => twoBytes .highFirst
  | [_, 0] => twoBytes .lowFirst
  | 0 :: 0 :: _ :: _ :: _ => fourBytes .highFirst
  | 0 :: _ :: _ :: _ :: _ => twoBytes .highFirst
  | _ :: 0 :: 0 :: 0 :: _ => fourBytes .lowFirst
  | _ :: 0 :: _ :: _ :: _ => twoBytes .lowFirst
  | _ => compact

def number (order : ByteOrder) (bytes : List UInt8) : Nat :=
  let digits := match order with
    | .highFirst => bytes
    | .lowFirst => bytes.reverse
  digits.foldl (fun n byte => n * 256 + byte.toNat) 0

/-- The numbers of two bytes each; a byte may not be left over. -/
def pairs? (order : ByteOrder) : List UInt8 → Option (List Nat)
  | [] => some []
  | a :: b :: rest => (pairs? order rest).map (number order [a, b] :: ·)
  | _ => none

/-- The numbers of four bytes each; no byte may be left over. -/
def quads? (order : ByteOrder) : List UInt8 → Option (List Nat)
  | [] => some []
  | a :: b :: c :: d :: rest => (quads? order rest).map (number order [a, b, c, d] :: ·)
  | _ => none

end Layout

/-- Reads a text again by the layout that its bytes point to. -/
def decode? (text : String) : Option String :=
  let bytes := text.toUTF8.toList
  match Layout.ofBytes bytes with
  | .compact => some (withoutOrderMark text)
  | .twoBytes order =>
    (Layout.pairs? order bytes).map fun codes => .ofList ((joinPairs codes).map charOfCode)
  | .fourBytes order => do
    let codes ← Layout.quads? order bytes
    if codes.all (· < 0x110000) then some (.ofList (codes.map charOfCode)) else none

end ExactCalc.Text
