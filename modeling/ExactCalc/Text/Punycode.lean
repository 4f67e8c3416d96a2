/-!
# Length of text in ASCII

A name with letters beyond ASCII is passed on in ASCII alone: its ASCII characters
come first, and then a number for every other one, in the order of the codes, which
tells code and place as the distance from the one before. A number is written in
digits whose weights adapt to the numbers before it. Only the length is needed here.
-/

namespace ExactCalc.Text.Punycode

/-- The value below which a digit ends its number; `place` counts digits in steps of 36. -/
def threshold (place bias : Nat) : Nat := min 26 (max 1 (place - bias))

theorem threshold_pos (place bias : Nat) : 0 < threshold place bias := by
  unfold threshold
  omega

/-- How many digits a number takes. -/
def digitCount (bias place number : Nat) : Nat :=
  let t := threshold place bias
  if number < t then 1 else 1 + digitCount bias (place + 36) ((number - t) / (36 - t))
termination_by number
decreasing_by
  have h := threshold_pos place bias
  have h' := Nat.div_le_self (number - threshold place bias) (36 - threshold place bias)
  omega

/-- Divides until the distance is small, and gives the bias for the next number. -/
def settle (distance bias : Nat) : Nat :=
  if 455 < distance then settle (distance / 35) (bias + 36)
  else bias + 36 * distance / (distance + 38)
termination_by distance

def adapt (first : Bool) (distance count : Nat) : Nat :=
  let distance := distance / (if first then 700 else 2)
  settle (distance + distance / count) 0

/-- How far a text is written: the distance from the last number, the bias for the next one,
how many characters are done, and the length so far. -/
structure Progress where
  distance : Nat
  bias : Nat
  done : Nat
  length : Nat
  deriving DecidableEq, Repr

/-- Passes a character while those with one code are written. -/
def Progress.pass (basic code : Nat) (s : Progress) (other : Nat) : Progress :=
  if other < code then { s with distance := s.distance + 1 }
  else if other = code then
    ⟨0, adapt (s.done == basic) s.distance (s.done + 1), s.done + 1,
      s.length + digitCount s.bias 36 s.distance⟩
  else s

/-- Writes the characters with each of the codes, of which all below `next` are written. -/
def Progress.run (text : List Nat) (basic next : Nat) (s : Progress) : List Nat → Progress
  | [] => s
  | code :: rest =>
    let s := { s with distance := s.distance + (code - next) * (s.done + 1) }
    let s := text.foldl (Progress.pass basic code) s
    Progress.run text basic (code + 1) { s with distance := s.distance + 1 } rest

def encodedLength (text : List Char) : Nat :=
  let codes := text.map Char.toNat
  let basic := (codes.filter (· < 0x80)).length
  let others := ((codes.filter (0x80 ≤ ·)).mergeSort fun a b => decide (a ≤ b)).eraseDups
  let length := if basic = 0 then 0 else basic + 1
  (Progress.run codes basic 0x80 ⟨0, 72, basic, length⟩ others).length

end ExactCalc.Text.Punycode
