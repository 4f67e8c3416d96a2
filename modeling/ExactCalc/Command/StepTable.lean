/-!
# The table of steps

A framed table of two columns, an index and a step, not wider than eighty
characters. A step that does not fit is wrapped between words, and a word that does
not fit a line by itself is cut short.
-/

namespace ExactCalc.Command.StepTable

def totalWidth : Nat := 80

/-- The characters of a row that belong to no column. -/
def frameWidth : Nat := 7

def spaces (n : Nat) : List Char := .replicate n ' '

def padLeft (width : Nat) (text : List Char) : List Char := spaces (width - text.length) ++ text

def padRight (width : Nat) (text : List Char) : List Char := text ++ spaces (width - text.length)

def center (width : Nat) (text : List Char) : List Char :=
  let left := (width - text.length) / 2
  spaces left ++ padRight (width - left) text

/-- Puts a character in front of the first word. -/
def pushFront (c : Char) : List (List Char) → List (List Char)
  | [] => [[c]]
  | word :: rest => (c :: word) :: rest

/-- The words of a text, each with the spaces after it. -/
def words : List Char → List (List Char)
  | [] => []
  | [c] => [[c]]
  | c :: d :: rest =>
    if c = ' ' ∧ d ≠ ' ' then [c] :: words (d :: rest) else pushFront c (words (d :: rest))

def trimEnd (text : List Char) : List Char := (text.reverse.dropWhile (· == ' ')).reverse

/-- Lines that are being filled: the finished ones and the current one, and how much of the
current one counts as used. -/
structure Filling where
  finished : List (List Char) := []
  current : List Char := []
  used : Nat := 0

def Filling.place (width : Nat) (f : Filling) (word : List Char) : Filling :=
  if (trimEnd word).length + f.used ≤ width then
    { f with current := f.current ++ word, used := f.used + word.length }
  else if f.used = 0 then { f with current := f.current ++ word, used := word.length }
  else ⟨f.finished ++ [f.current], word, word.length⟩

/-- A line that is too long ends in an ellipsis. -/
def cut (width : Nat) (line : List Char) : List Char :=
  if line.length ≤ width then line else line.take (width - 1) ++ ['…']

def wrap (width : Nat) (text : List Char) : List (List Char) :=
  let f := (words text).foldl (Filling.place width) {}
  (f.finished ++ [f.current]).map fun line => cut width (trimEnd line)

/-- The widths of the two columns. -/
structure Layout where
  index : Nat
  step : Nat

namespace Layout

def ofRows (rows : List (List Char × List Char)) : Layout :=
  let index := (rows.map (·.1.length)).foldl max 1
  let step := (rows.map (·.2.length)).foldl max 4
  ⟨index, min step (totalWidth - index - frameWidth)⟩

def width (layout : Layout) : Nat := layout.index + layout.step + frameWidth

def line (layout : Layout) (index step : List Char) : List Char :=
  '|' :: ' ' :: padLeft layout.index index ++ [' ', '|', ' '] ++ padRight layout.step step ++
    [' ', '|']

/-- A row takes as many lines as its step; the index stands on the first. -/
def row (layout : Layout) (index step : List Char) : List (List Char) :=
  match wrap layout.step step with
  | [] => []
  | first :: rest => layout.line index first :: rest.map (layout.line [])

def edge (layout : Layout) : List Char := '+' :: .replicate (layout.width - 2) '-' ++ ['+']

def rule (layout : Layout) : List Char :=
  '|' :: .replicate (layout.index + 2) '-' ++ '+' :: .replicate (layout.step + 2) '-' ++ ['|']

end Layout

/-- The rows of the table, each an index and a text: the steps in order, counted from one, and a
last row that has no index. -/
def rows (steps : List String) (last : String) : List (List Char × List Char) :=
  steps.zipIdx.map (fun (step, i) => ((i + 1).repr.toList, step.toList)) ++ [([], last.toList)]

/-- The lines in which rows are shown under a title. -/
def layOut (title : List Char) (rows : List (List Char × List Char)) : List (List Char) :=
  let layout := Layout.ofRows rows
  [center layout.width title, layout.edge, layout.line ['#'] "Step".toList, layout.rule] ++
    rows.flatMap (fun (index, step) => layout.row index step) ++ [layout.edge]

/-- The lines of the table for the given steps, with the given last row. -/
def lines (steps : List String) (last : String) : List String :=
  (layOut s!"Steps [{steps.length.repr}]".toList (rows steps last)).map .ofList

end ExactCalc.Command.StepTable
