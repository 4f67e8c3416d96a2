/-!
# Blank characters

Layout carries no meaning in an expression: every blank character is removed
before reading, wherever it stands, also inside a numeral or a name.
-/

namespace ExactCalc.Text

/-- Tab to carriage return, the four information separators, the space, and the
blank characters beyond ASCII. Characters of no width, such as U+200B, count as ink. -/
def isBlank (c : Char) : Bool :=
  let n := c.toNat
  (0x09 ≤ n && n ≤ 0x0D) || (0x1C ≤ n && n ≤ 0x20) || n == 0x85 || n == 0xA0 || n == 0x1680 ||
    (0x2000 ≤ n && n ≤ 0x200A) || n == 0x2028 || n == 0x2029 || n == 0x202F || n == 0x205F ||
    n == 0x3000

def withoutBlanks (text : String) : String :=
  .ofList (text.toList.filter fun c => !isBlank c)

@[simp] theorem toList_withoutBlanks (text : String) :
    (withoutBlanks text).toList = text.toList.filter fun c => !isBlank c := by
  simp [withoutBlanks]

end ExactCalc.Text
