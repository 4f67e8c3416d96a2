import ExactCalc.Proofs.Nesting
import ExactCalc.Proofs.NumeralValue

/-!
# Every phrase is read

The reader finds the expression of every phrase of the grammar, however blanks
are put into its text, as long as the nesting limit is not exceeded; otherwise it
rejects the first part that lies too deep. The limit is exact, and it counts the
name that a `let` declares like any other part. A text has one phrase at most.
-/

namespace ExactCalc

/-! ## What kind of text a phrase is -/

theorem not_isDigit_of_isAlpha {c : Char} (h : c.isAlpha = true) : c.isDigit = false := by
  have := toNat_of_isAlpha h
  by_contra hd
  have : 48 ≤ c.toNat ∧ c.toNat ≤ 57 := Char.isDigit_iff_toNat.mp (by simpa using hd)
  omega

theorem Numeral.split?_literal (l : Literal) :
    Numeral.split? l.text = some (l.negative, l.digits) :=
  Numeral.split?_signed l.nonempty l.decimal l.negative

theorem Numeral.split?_of_isAlpha {c : Char} (h : c.isAlpha = true) (rest : List Char) :
    Numeral.split? (c :: rest) = none := by
  have hc : c ≠ '-' := by rintro rfl; revert h; decide
  simp [Numeral.split?, hc, not_isDigit_of_isAlpha h]

namespace Shape

theorem ofText_literal (l : Literal) : Shape.ofText l.text = .literal l.negative l.digits := by
  rw [Shape.ofText, Numeral.split?_literal]

theorem ofText_word (w : Word) : Shape.ofText w.letters = .name := by
  obtain ⟨c, rest, hw⟩ := List.exists_cons_of_ne_nil w.nonempty
  have hc : c.isAlpha = true := w.alphabetic c (by simp [hw])
  have hall : w.letters.all Char.isAlpha = true := List.all_eq_true.mpr w.alphabetic
  rw [Shape.ofText, hw, Numeral.split?_of_isAlpha hc, ← hw]
  simp [hall, w.nonempty]

theorem ofText_form (form : Form) (rest : List Char) :
    Shape.ofText (form.keyword.toList ++ '(' :: rest) = .call form ('(' :: rest) := by
  have hsplit := Form.split?_append form ('(' :: rest)
  have hall : (form.keyword.toList ++ '(' :: rest).all Char.isAlpha = false := by simp
  obtain ⟨c, tail, hk⟩ : ∃ c tail, form.keyword.toList = c :: tail := by
    rcases form with (_ | _ | _ | _) | _ <;> exact ⟨_, _, rfl⟩
  have hc : c.isAlpha = true := form.isAlpha_of_mem_keyword (by simp [hk])
  rw [Shape.ofText, hall, hsplit, hk, List.cons_append, Numeral.split?_of_isAlpha hc]
  simp

end Shape

namespace Phrase

theorem balanced_text (p : Phrase) : Balanced 0 p.text := by
  induction p with
  | literal l => exact Balanced.of_plain fun c hc => Literal.isPlain_of_mem_text hc
  | name w => exact w.balanced
  | apply op left right ihl ihr =>
    exact Balanced.form (.arithmetic op) (ihl.followed ihr.enclosed)
  | letIn w value body ihv ihb =>
    exact Balanced.form .binding (w.balanced.followed (ihv.followed ihb.enclosed))

@[simp] theorem shape_literal (l : Literal) :
    Shape.ofText (literal l).text = .literal l.negative l.digits :=
  Shape.ofText_literal l

@[simp] theorem shape_name (w : Word) : Shape.ofText (name w).text = .name :=
  Shape.ofText_word w

@[simp] theorem shape_apply (op : Operator) (left right : Phrase) :
    Shape.ofText (apply op left right).text =
      .call (.arithmetic op) ('(' :: (left.text ++ ',' :: (right.text ++ [')']))) :=
  Shape.ofText_form (.arithmetic op) _

@[simp] theorem shape_letIn (w : Word) (value body : Phrase) :
    Shape.ofText (letIn w value body).text =
      .call .binding ('(' :: (w.letters ++ ',' :: (value.text ++ ',' :: (body.text ++ [')'])))) :=
  Shape.ofText_form .binding _

/-- The grammar is unambiguous: no text has two derivations. -/
theorem text_injective {p q : Phrase} (h : p.text = q.text) : p = q := by
  -- The kind of text tells the production apart, and its pieces end at definite places.
  have hshape := congrArg Shape.ofText h
  induction p generalizing q with
  | literal l =>
    cases q with
    | literal l' =>
      obtain ⟨hn, hd⟩ : l.negative = l'.negative ∧ l.digits = l'.digits := by simpa using hshape
      exact congrArg literal (Literal.ext hn hd)
    | name _ | apply _ _ _ | letIn _ _ _ => simp at hshape
  | name w =>
    cases q with
    | name w' => exact congrArg name (Word.ext h)
    | literal _ | apply _ _ _ | letIn _ _ _ => simp at hshape
  | apply op left right ihl ihr =>
    cases q with
    | apply op' left' right' =>
      simp only [shape_apply, Shape.call.injEq, Form.arithmetic.injEq, List.cons.injEq,
        true_and] at hshape
      obtain ⟨rfl, hargs⟩ := hshape
      obtain ⟨hl, hargs⟩ := left.balanced_text.append_delimiter_inj left'.balanced_text
        (.inl rfl) (.inl rfl) hargs
      obtain ⟨hr, -⟩ := right.balanced_text.append_delimiter_inj right'.balanced_text
        (.inr rfl) (.inr rfl) hargs
      rw [ihl hl (congrArg _ hl), ihr hr (congrArg _ hr)]
    | literal _ | name _ | letIn _ _ _ => simp at hshape
  | letIn w value body ihv ihb =>
    cases q with
    | letIn w' value' body' =>
      simp only [shape_letIn, Shape.call.injEq, List.cons.injEq, true_and] at hshape
      obtain ⟨hw, hargs⟩ := w.balanced.append_delimiter_inj w'.balanced
        (.inl rfl) (.inl rfl) hshape
      obtain ⟨hv, hargs⟩ := value.balanced_text.append_delimiter_inj value'.balanced_text
        (.inl rfl) (.inl rfl) hargs
      obtain ⟨hb, -⟩ := body.balanced_text.append_delimiter_inj body'.balanced_text
        (.inr rfl) (.inr rfl) hargs
      rw [ihv hv (congrArg _ hv), ihb hb (congrArg _ hb), Word.ext hw]
    | literal _ | name _ | apply _ _ _ => simp at hshape

/-! ## Reading -/

/-- What the reader makes of a phrase when parts with `k` forms around them lie too deep. -/
def verdict (p : Phrase) (limit : ℤ) (k : ℕ) (offset : ℤ) : Except Rejection Expr :=
  match p.firstAt k with
  | none => .ok p.expr
  | some part => .error ⟨.tooDeep limit, .ofList part.text, offset + part.place⟩

theorem verdict_zero (p : Phrase) (limit offset : ℤ) :
    p.verdict limit 0 offset = .error ⟨.tooDeep limit, .ofList p.text, offset⟩ := by
  simp [verdict]

/-- The first part that lies too deep is looked for in the left operand, then in the right one. -/
theorem verdict_apply (op : Operator) (left right : Phrase) (limit : ℤ) (k : ℕ) (offset : ℤ) :
    (apply op left right).verdict limit (k + 1) offset = (do
      let a ← left.verdict limit k (offset + op.keyword.length + 1)
      let b ← right.verdict limit k (offset + op.keyword.length + 1 + left.text.length + 1)
      return .apply op a b) := by
  rw [verdict, verdict, verdict, firstAt_apply]
  cases left.firstAt k with
  | some part => simp [bind, Except.bind, Part.inside]; omega
  | none =>
    cases right.firstAt k with
    | some part => simp [bind, Except.bind, Part.inside]; omega
    | none => rfl

theorem verdict_letIn (w : Word) (value body : Phrase) (limit : ℤ) (k : ℕ) (offset : ℤ) :
    (letIn w value body).verdict limit (k + 1) offset = (do
      let _ ← (name w).verdict limit k (offset + "let".length + 1)
      let a ← value.verdict limit k (offset + "let".length + 1 + w.letters.length + 1)
      let b ← body.verdict limit k
        (offset + "let".length + 1 + w.letters.length + 1 + value.text.length + 1)
      return .letIn (.ofList w.letters) a b) := by
  rw [verdict, verdict, verdict, verdict, firstAt_letIn]
  cases (name w).firstAt k with
  | some part => simp [bind, Except.bind, Part.inside]; omega
  | none =>
    cases value.firstAt k with
    | some part => simp [bind, Except.bind, Part.inside]; omega
    | none =>
      cases body.firstAt k with
      | some part => simp [bind, Except.bind, Part.inside]; omega
      | none => rfl

theorem verdict_name (w : Word) (limit : ℤ) (k : ℕ) (offset : ℤ) :
    (∃ r, (name w).verdict limit k offset = .error r) ∨
      (name w).verdict limit k offset = .ok (.name (.ofList w.letters)) := by
  cases k with
  | zero => exact .inl ⟨_, verdict_zero _ limit offset⟩
  | succ k => exact .inr rfl

section Reading

variable {limit depth : ℤ} {k : ℕ}

theorem read_word (w : Word) (hk : limit + 1 = depth + k) (offset : ℤ) :
    Expr.read limit w.letters offset depth = (name w).verdict limit k offset := by
  cases k with
  | zero => rw [verdict_zero, Expr.read_of_lt (by omega)]; rfl
  | succ k => rw [Expr.read_name (by omega) (Shape.ofText_word w)]; rfl

theorem read_text (p : Phrase) (hk : limit + 1 = depth + k) (offset : ℤ) :
    Expr.read limit p.text offset depth = p.verdict limit k offset := by
  induction p generalizing k depth offset with
  | literal l =>
    cases k with
    | zero => rw [verdict_zero, Expr.read_of_lt (by omega)]
    | succ k =>
      rw [Expr.read_literal (by omega) (shape_literal l), Numeral.word32?_eq l.decimal,
        if_pos l.inRange]
      rfl
  | name w => exact read_word w hk offset
  | apply op left right ihl ihr =>
    cases k with
    | zero => rw [verdict_zero, Expr.read_of_lt (by omega)]
    | succ k =>
      have hk' : limit + 1 = depth + 1 + k := by push_cast at hk; omega
      rw [Expr.read_call (by omega) (shape_apply op left right), readArguments_opening,
        readArguments_next left.balanced_text, readArguments_last right.balanced_text, ihl hk',
        ihr hk', verdict_apply]
      have hkeyword : (Form.arithmetic op).keyword = op.keyword := rfl
      simp only [hkeyword, List.length_nil, Nat.cast_zero, add_zero]
      cases left.verdict limit k (offset + op.keyword.length + 1) with
      | error r => rfl
      | ok a =>
        cases right.verdict limit k
            (offset + op.keyword.length + 1 + left.text.length + 1) with
        | error r => rfl
        | ok b => rfl
  | letIn w value body ihv ihb =>
    cases k with
    | zero => rw [verdict_zero, Expr.read_of_lt (by omega)]
    | succ k =>
      have hk' : limit + 1 = depth + 1 + k := by push_cast at hk; omega
      rw [Expr.read_call (by omega) (shape_letIn w value body), readArguments_opening,
        readArguments_next w.balanced, readArguments_next value.balanced_text,
        readArguments_last body.balanced_text, read_word w hk', ihv hk', ihb hk', verdict_letIn]
      have hkeyword : Form.binding.keyword = "let" := rfl
      simp only [hkeyword, List.length_nil, Nat.cast_zero, add_zero]
      obtain ⟨r, hr⟩ | hname := verdict_name w limit k (offset + "let".length + 1)
      · rw [hr]; rfl
      rw [hname]
      cases value.verdict limit k (offset + "let".length + 1 + w.letters.length + 1) with
      | error r => rfl
      | ok a =>
        cases body.verdict limit k
            (offset + "let".length + 1 + w.letters.length + 1 + value.text.length + 1) with
        | error r => rfl
        | ok b => rfl

end Reading

theorem ofText_of_height_le {p : Phrase} {text : String} (spaced : Spaced p.text text.toList)
    {limit : ℕ} (h : p.expr.height ≤ limit) : Expr.ofText limit text = .ok p.expr := by
  have hink : (Text.withoutBlanks text).toList = p.text := by
    rw [Text.toList_withoutBlanks]
    exact spaced.filter_eq fun c hc => isBlank_of_mem_text hc
  have hlimit : (limit : ℤ) + 1 = 0 + ((limit + 1 : ℕ) : ℤ) := by push_cast; ring
  rw [Expr.ofText, hink, p.read_text hlimit, verdict, (p.firstAt_eq_none_iff _).mpr (by omega)]

end Phrase

/-- A phrase, spread out with blanks, is read as its expression if the limit admits its height.
Otherwise its first part too deep for the limit is rejected, at its place in the text without
blanks. And no other phrase has the same text. -/
theorem Expr.ofText_phrase (p : Phrase) {text : String} (spaced : Spaced p.text text.toList)
    (limit : ℕ) :
    (p.expr.height ≤ limit → Expr.ofText limit text = .ok p.expr) ∧
      (limit < p.expr.height →
        ∃ part rejection, p.parts.find? (·.depth == limit + 1) = some part ∧
          part.text <+: (Text.withoutBlanks text).toList.drop part.place ∧
          Expr.ofText limit text = .error rejection ∧
          rejection.message = s!"Expression nested deeper than {Numeral.ofInt limit} levels" ∧
          rejection.piece = .ofList part.text ∧ rejection.position = part.place) ∧
      ∀ q : Phrase, q.text = p.text → q = p := by
  have htext : (Text.withoutBlanks text).toList = p.text := by
    rw [Text.toList_withoutBlanks]
    exact spaced.filter_eq fun c hc => Phrase.isBlank_of_mem_text hc
  have hread : Expr.ofText limit text = p.verdict limit (limit + 1) 0 := by
    rw [Expr.ofText, htext]
    exact p.read_text (by push_cast; ring) 0
  refine ⟨?_, ?_, fun q hq => Phrase.text_injective hq⟩
  · intro hheight
    rw [hread, Phrase.verdict, (p.firstAt_eq_none_iff _).mpr (by omega)]
  · intro hheight
    have hsome : p.firstAt (limit + 1) ≠ none := by
      rw [Ne, p.firstAt_eq_none_iff]
      omega
    obtain ⟨part, hpart⟩ := Option.ne_none_iff_exists'.mp hsome
    refine ⟨part, ⟨.tooDeep limit, .ofList part.text, 0 + part.place⟩, hpart, ?_, ?_, rfl, rfl, ?_⟩
    · rw [htext]
      exact Phrase.text_of_mem_parts (List.mem_of_find?_eq_some hpart)
    · rw [hread, Phrase.verdict, hpart]
    · simp

/-- Keywords as names, zeros in front of a literal, and two forms around the innermost part. -/
def Phrase.keywordNames : Phrase :=
  .letIn ⟨"add".toList, by decide, List.all_eq_true.mp rfl⟩
    (.literal ⟨true, "007".toList, by decide, List.all_eq_true.mp rfl, by decide⟩)
    (.apply .mult (.name ⟨"add".toList, by decide, List.all_eq_true.mp rfl⟩)
      (.name ⟨"let".toList, by decide, List.all_eq_true.mp rfl⟩))

theorem Expr.ofText_phrase_keywordNames :
    Spaced Phrase.keywordNames.text "let(add, -007,\tmu lt(add,let) )".toList ∧
      1 < Phrase.keywordNames.expr.height ∧
      ∃ part rejection, Phrase.keywordNames.parts.find? (·.depth == 1 + 1) = some part ∧
        part.text <+:
          (Text.withoutBlanks "let(add, -007,\tmu lt(add,let) )").toList.drop part.place ∧
        Expr.ofText (1 : ℕ) "let(add, -007,\tmu lt(add,let) )" = .error rejection ∧
        rejection.message =
          s!"Expression nested deeper than {Numeral.ofInt (1 : ℕ)} levels" ∧
        rejection.piece = .ofList part.text ∧ rejection.position = part.place := by
  have spaced : Spaced Phrase.keywordNames.text "let(add, -007,\tmu lt(add,let) )".toList := by
    repeat (first | exact .nil | refine .char _ ?_ | refine .blank (by decide) ?_)
  exact ⟨spaced, by decide, (Expr.ofText_phrase Phrase.keywordNames spaced 1).2.1 (by decide)⟩

end ExactCalc
