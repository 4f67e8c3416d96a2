import ExactCalc.Failure
import ExactCalc.Text.Blank
import Mathlib

/-!
# The grammar

The language of the calculator, given by its phrases: a literal, a name, an
operation with two operands in parentheses, or a `let` with a name and two more
phrases. A phrase is a derivation of the grammar. It has a text, it denotes an
expression, and it lists its parts in the order in which they begin, each with
its place in the text and the number of forms around it; the name that a `let`
declares is one of the parts. Nothing here refers to the reader.
-/

namespace ExactCalc

/-- A name: one letter or more. Keywords are names like any other. -/
@[ext] structure Word where
  letters : List Char
  nonempty : letters ≠ []
  alphabetic : ∀ c ∈ letters, c.isAlpha = true

/-- A literal of the signed thirty-two-bit range. Zeros may stand in front, and a minus sign may
stand before zero. -/
@[ext] structure Literal where
  negative : Bool
  digits : List Char
  nonempty : digits ≠ []
  decimal : ∀ c ∈ digits, c.isDigit = true
  inRange : -2 ^ 31 ≤ Numeral.withSign negative (Numeral.value digits) ∧
    Numeral.withSign negative (Numeral.value digits) ≤ 2 ^ 31 - 1

namespace Literal

def text (l : Literal) : List Char := if l.negative then '-' :: l.digits else l.digits

def value (l : Literal) : ℤ := Numeral.withSign l.negative (Numeral.value l.digits)

end Literal

inductive Phrase
  | literal (literal : Literal)
  | name (word : Word)
  | apply (op : Operator) (left right : Phrase)
  | letIn (declared : Word) (value body : Phrase)

/-- A part of a phrase: how many forms are around it, where it begins, and its text. -/
structure Part where
  depth : ℕ
  place : ℕ
  text : List Char
  deriving DecidableEq, Repr

/-- The part as seen from a form in which the piece that holds it begins at `place`. -/
def Part.inside (place : ℕ) (part : Part) : Part :=
  ⟨part.depth + 1, place + part.place, part.text⟩

namespace Phrase

def text : Phrase → List Char
  | literal l => l.text
  | name w => w.letters
  | apply op left right => op.keyword.toList ++ '(' :: (left.text ++ ',' :: (right.text ++ [')']))
  | letIn declared value body =>
    "let".toList ++ '(' :: (declared.letters ++ ',' :: (value.text ++ ',' :: (body.text ++ [')'])))

def expr : Phrase → Expr
  | literal l => .number l.value
  | name w => .name (.ofList w.letters)
  | apply op left right => .apply op left.expr right.expr
  | letIn declared value body => .letIn (.ofList declared.letters) value.expr body.expr

/-- The parts of a phrase, itself first, in the order in which they begin. -/
def parts : Phrase → List Part
  | literal l => [⟨0, 0, l.text⟩]
  | name w => [⟨0, 0, w.letters⟩]
  | apply op left right =>
    let first := op.keyword.length + 1
    ⟨0, 0, (apply op left right).text⟩ ::
      (left.parts.map (Part.inside first) ++
        right.parts.map (Part.inside (first + left.text.length + 1)))
  | letIn declared value body =>
    let first := "let".length + 1
    let second := first + declared.letters.length + 1
    ⟨0, 0, (letIn declared value body).text⟩ :: ⟨1, first, declared.letters⟩ ::
      (value.parts.map (Part.inside second) ++
        body.parts.map (Part.inside (second + value.text.length + 1)))

/-- The first part that has so many forms around it. -/
def firstAt (p : Phrase) (depth : ℕ) : Option Part := p.parts.find? (·.depth == depth)

end Phrase

/-! ## Parts -/

theorem find?_inside (parts : List Part) (place depth : ℕ) :
    (parts.map (Part.inside place)).find? (·.depth == depth + 1) =
      (parts.find? (·.depth == depth)).map (Part.inside place) := by
  rw [List.find?_map]
  congr 2
  funext part
  simp [Part.inside]

namespace Phrase

@[simp] theorem firstAt_zero (p : Phrase) : p.firstAt 0 = some ⟨0, 0, p.text⟩ := by
  cases p <;> rfl

@[simp] theorem firstAt_literal (l : Literal) (k : ℕ) : (literal l).firstAt (k + 1) = none := rfl

@[simp] theorem firstAt_name (w : Word) (k : ℕ) : (name w).firstAt (k + 1) = none := rfl

theorem firstAt_apply (op : Operator) (left right : Phrase) (k : ℕ) :
    (apply op left right).firstAt (k + 1) =
      ((left.firstAt k).map (Part.inside (op.keyword.length + 1))).or
        ((right.firstAt k).map (Part.inside (op.keyword.length + 1 + left.text.length + 1))) := by
  rw [firstAt, parts, List.find?_cons_of_neg (by simp), List.find?_append, find?_inside,
    find?_inside]
  rfl

theorem firstAt_letIn (w : Word) (value body : Phrase) (k : ℕ) :
    (letIn w value body).firstAt (k + 1) =
      (((name w).firstAt k).map (Part.inside ("let".length + 1))).or
        (((value.firstAt k).map
            (Part.inside ("let".length + 1 + w.letters.length + 1))).or
          ((body.firstAt k).map
            (Part.inside ("let".length + 1 + w.letters.length + 1 + value.text.length + 1)))) := by
  rw [firstAt, parts, List.find?_cons_of_neg (by simp)]
  cases k with
  | zero => rw [List.find?_cons_of_pos (by simp), firstAt_zero]; rfl
  | succ k =>
    rw [List.find?_cons_of_neg (by simp), List.find?_append, find?_inside, find?_inside]
    rfl

/-- A phrase has a part of every depth up to the height of its expression and none below. -/
theorem firstAt_eq_none_iff (p : Phrase) (k : ℕ) : p.firstAt k = none ↔ p.expr.height < k := by
  induction p generalizing k with
  | literal l => cases k <;> simp [expr, Expr.height]
  | name w => cases k <;> simp [expr, Expr.height]
  | apply op left right ihl ihr =>
    cases k with
    | zero => simp
    | succ k =>
      simp only [firstAt_apply, Option.or_eq_none_iff, Option.map_eq_none_iff, ihl, ihr, expr,
        Expr.height]
      omega
  | letIn w value body ihv ihb =>
    cases k with
    | zero => simp
    | succ k =>
      have hw : (name w).firstAt k = none ↔ 0 < k := by cases k <;> simp
      simp only [firstAt_letIn, Option.or_eq_none_iff, Option.map_eq_none_iff, hw, ihv, ihb, expr,
        Expr.height]
      omega

theorem prefix_drop_piece {part piece whole : List Char} {start place : ℕ}
    (before after : List Char) (hwhole : whole = before ++ (piece ++ after))
    (hstart : start = before.length) (h : part <+: piece.drop place) :
    part <+: whole.drop (start + place) := by
  rw [hwhole, hstart, List.drop_length_add_append, List.drop_append]
  exact h.trans (List.prefix_append _ _)

/-- A part stands in the text of its phrase at its place. -/
theorem text_of_mem_parts {p : Phrase} {part : Part} (h : part ∈ p.parts) :
    part.text <+: p.text.drop part.place := by
  induction p generalizing part with
  | literal l => simp_all [parts, text]
  | name w => simp_all [parts, text]
  | apply op left right ihl ihr =>
    simp only [parts, List.mem_cons, List.mem_append, List.mem_map] at h
    rcases h with rfl | ⟨inner, hi, rfl⟩ | ⟨inner, hi, rfl⟩
    · exact List.prefix_rfl
    · exact prefix_drop_piece (op.keyword.toList ++ ['(']) (',' :: (right.text ++ [')']))
        (by simp [text]) (by simp [String.length_toList]) (ihl hi)
    · exact prefix_drop_piece (op.keyword.toList ++ '(' :: (left.text ++ [','])) [')']
        (by simp [text]) (by simp [String.length_toList]; omega) (ihr hi)
  | letIn w value body ihv ihb =>
    simp only [parts, List.mem_cons, List.mem_append, List.mem_map] at h
    rcases h with rfl | rfl | ⟨inner, hi, rfl⟩ | ⟨inner, hi, rfl⟩
    · exact List.prefix_rfl
    · exact List.prefix_append _ _
    · exact prefix_drop_piece ("let".toList ++ '(' :: (w.letters ++ [',']))
        (',' :: (body.text ++ [')'])) (by simp [text])
        (by simp [← String.length_toList]; omega) (ihv hi)
    · exact prefix_drop_piece ("let".toList ++ '(' :: (w.letters ++ ',' :: (value.text ++ [','])))
        [')'] (by simp [text]) (by simp [← String.length_toList]; omega) (ihb hi)

end Phrase

/-! ## Layout -/

/-- The second text is the first with blanks put in at any places. -/
inductive Spaced : List Char → List Char → Prop
  | nil : Spaced [] []
  | blank {text spread c} (hc : Text.isBlank c = true) (h : Spaced text spread) :
      Spaced text (c :: spread)
  | char {text spread} (c : Char) (h : Spaced text spread) : Spaced (c :: text) (c :: spread)

theorem Spaced.filter_eq {text spread : List Char} (h : Spaced text spread)
    (hink : ∀ c ∈ text, Text.isBlank c = false) :
    (spread.filter fun c => !Text.isBlank c) = text := by
  induction h with
  | nil => rfl
  | blank hc h ih => rw [List.filter_cons_of_neg (by simp [hc]), ih hink]
  | char c h ih =>
    have hc := hink c (by simp)
    rw [List.filter_cons_of_pos (by simp [hc]), ih fun d hd => hink d (by simp [hd])]

theorem toNat_of_isAlpha {c : Char} (h : c.isAlpha = true) :
    65 ≤ c.toNat ∧ c.toNat ≤ 90 ∨ 97 ≤ c.toNat ∧ c.toNat ≤ 122 := by
  simpa [Char.isAlpha, Char.isUpper, Char.isLower, UInt32.le_iff_toNat_le] using h

theorem isBlank_of_isAlpha {c : Char} (h : c.isAlpha = true) : Text.isBlank c = false := by
  have := toNat_of_isAlpha h
  simp [Text.isBlank]
  omega

theorem isBlank_of_isDigit {c : Char} (h : c.isDigit = true) : Text.isBlank c = false := by
  have : 48 ≤ c.toNat ∧ c.toNat ≤ 57 := Char.isDigit_iff_toNat.mp h
  simp [Text.isBlank]
  omega

theorem Form.isAlpha_of_mem_keyword (form : Form) {c : Char} (h : c ∈ form.keyword.toList) :
    c.isAlpha = true := by
  have hall : form.keyword.toList.all Char.isAlpha = true := by
    rcases form with (_ | _ | _ | _) | _ <;> rfl
  exact List.all_eq_true.mp hall c h

theorem Literal.isBlank_of_mem_text {l : Literal} {c : Char} (h : c ∈ l.text) :
    Text.isBlank c = false := by
  unfold Literal.text at h
  split_ifs at h
  · rcases List.mem_cons.mp h with rfl | h
    · decide
    · exact isBlank_of_isDigit (l.decimal c h)
  · exact isBlank_of_isDigit (l.decimal c h)

theorem Phrase.isBlank_of_mem_text {p : Phrase} {c : Char} (h : c ∈ p.text) :
    Text.isBlank c = false := by
  induction p with
  | literal l => exact Literal.isBlank_of_mem_text h
  | name w => exact isBlank_of_isAlpha (w.alphabetic c h)
  | apply op left right ihl ihr =>
    simp only [text, List.mem_append, List.mem_cons, List.not_mem_nil, or_false] at h
    rcases h with h | rfl | h | rfl | h | rfl
    · exact isBlank_of_isAlpha (Form.isAlpha_of_mem_keyword (.arithmetic op) h)
    · decide
    · exact ihl h
    · decide
    · exact ihr h
    · decide
  | letIn w value body ihv ihb =>
    simp only [text, List.mem_append, List.mem_cons, List.not_mem_nil, or_false] at h
    rcases h with h | rfl | h | rfl | h | rfl | h | rfl
    · exact isBlank_of_isAlpha (Form.isAlpha_of_mem_keyword .binding h)
    · decide
    · exact isBlank_of_isAlpha (w.alphabetic c h)
    · decide
    · exact ihv h
    · decide
    · exact ihb h
    · decide

end ExactCalc
