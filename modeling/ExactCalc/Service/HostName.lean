import ExactCalc.Text.NameCharacter
import ExactCalc.Text.Punycode

/-!
# Names of hosts

A name of a host in the letters of any script is made of labels with points between
them. What a label may hold depends on its hyphens, on the scripts of its characters
and on the directions in which they run; its length is bounded in the form in which it
is passed on.
-/

namespace ExactCalc.Service.HostName

open Text

def isAscii (text : List Char) : Bool := text.all fun c => c.toNat < 0x80

/-! ## Characters of a label -/

/-- Whether a character may stand in a label between its neighbours. -/
def fits (label : List Char) (before : Option Char) (c : Char) (after : Option Char) : Bool :=
  match c with
  | '\u00b7' => before.map Char.toLower == some 'l' && after.map Char.toLower == some 'l'
  | '\u0375' => after.any isGreek
  | '\u05f3' => before.any isHebrew
  | '\u05f4' => before.any isHebrew
  | '\u30fb' => label.any isEastAsian
  | c =>
    if isArabicDigit c then !label.any isEasternDigit
    else if isEasternDigit c then !label.any isArabicDigit
    else isNameCharacter c

/-- Whether each of the last characters of a label fits, after the one before them. -/
def allFit (label : List Char) (before : Option Char) : List Char → Bool
  | [] => true
  | c :: rest => fits label before c rest.head? && allFit label (some c) rest

def hyphensFit (label : List Char) : Bool :=
  label.head? != some '-' && label.getLast? != some '-' && (label.drop 2).take 2 != ['-', '-']

/-- A label in which a character runs to the left has to begin with one, ends with one or with
a digit, holds none that runs to the right, and digits of one kind. -/
def directionsFit (label : List Char) : Bool :=
  let directions := label.map direction
  let last := (directions.reverse.dropWhile (· == .mark)).head?
  (!directions.contains .leftward && !directions.contains .arabicDigit) ||
    (directions.head? == some .leftward && !directions.contains .rightward &&
      (last == some .leftward || last == some .digit || last == some .arabicDigit) &&
      !(directions.contains .digit && directions.contains .arabicDigit))

/-! ## Labels and names -/

/-- Whether a label is one that was brought into ASCII before. -/
def isEncoded (label : List Char) : Bool :=
  (label.take 4).map Char.toLower == ['x', 'n', '-', '-']

def isLabel (label : List Char) : Bool :=
  if isAscii label && isEncoded label then label.getLast? != some '-'
  else !label.isEmpty && hyphensFit label && !label.head?.any isMark &&
    allFit label none label && directionsFit label

/-- How long a label is once it is in ASCII. -/
def labelLength (label : List Char) : Nat :=
  if isAscii label then label.length else 4 + Punycode.encodedLength label

def maxLabelLength : Nat := 63

/-- How long a name may be, without the point that may stand behind it. -/
def maxNameLength : Nat := 253

/-- The full stops of all scripts. -/
def isPoint (c : Char) : Bool :=
  c == '.' || c == '\u3002' || c == '\uff0e' || c == '\uff61'

def splitLabels (name : List Char) : List (List Char) :=
  let labels := (name.map fun c => if isPoint c then '.' else c).splitOn '.'
  if labels.getLast? == some [] then labels.dropLast else labels

def isName (name : List Char) : Bool :=
  let labels := splitLabels name
  (labels.all fun label =>
      label.length ≤ maxLabelLength && isLabel label && labelLength label ≤ maxLabelLength) &&
    labels.foldl (fun n label => n + labelLength label + 1) 0 ≤ maxNameLength + 1

end ExactCalc.Service.HostName
