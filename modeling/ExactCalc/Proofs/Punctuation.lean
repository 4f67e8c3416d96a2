import ExactCalc.Proofs.Nesting

/-!
# Punctuation

`Lists` is the grammar with surplus arguments admitted: a form may carry more
expressions than it needs. A text of this grammar is well punctuated: its
parentheses pair up around every comma, each of them is opened directly after a
keyword that stands alone, and nothing but a comma, another closing parenthesis or
the end follows where it is closed. None of this mentions how a text is read.
-/

namespace ExactCalc

/-- The text lists the expressions, with commas between them; one expression is a list of one.
Beyond its required arguments a form may have further ones. -/
inductive Lists : List Char → List Expr → Prop
  | literal (l : Literal) : Lists l.text [.number l.value]
  | name (w : Word) : Lists w.letters [.name (.ofList w.letters)]
  | apply (op : Operator) {text left right surplus} (h : Lists text (left :: right :: surplus)) :
      Lists (op.keyword.toList ++ '(' :: (text ++ [')'])) [.apply op left right]
  | letIn (w : Word) {text value body surplus} (h : Lists text (value :: body :: surplus)) :
      Lists ("let".toList ++ '(' :: (w.letters ++ ',' :: text ++ [')']))
        [.letIn (.ofList w.letters) value body]
  | cons {text texts expr exprs} (h : Lists text [expr]) (hs : Lists texts exprs) :
      Lists (text ++ ',' :: texts) (expr :: exprs)

/-- The parentheses of a text stand where those of forms do. -/
structure Tight (text : List Char) : Prop where
  /-- What stands before an opening parenthesis, back to the parenthesis or comma before it, is a
  keyword. -/
  opened : ∀ before after, text = before ++ '(' :: after →
    ∃ form : Form, before.rtakeWhile isPlain = form.keyword.toList
  /-- A closing parenthesis is followed by a comma, by another one, or by nothing. -/
  closed : ∀ before after, text = before ++ ')' :: after → ∀ c ∈ after.head?, c = ',' ∨ c = ')'

structure WellPunctuated (text : List Char) : Prop where
  balanced : Balanced 0 text
  tight : Tight text

/-! ## Tight texts -/

theorem append_cons_cases {s t s' t' : List Char} {c c' : Char}
    (h : s ++ c :: t = s' ++ c' :: t') :
    (∃ m, s = s' ++ c' :: m ∧ t' = m ++ c :: t) ∨ (s = s' ∧ c = c' ∧ t = t') ∨
      ∃ m, s' = s ++ c :: m ∧ t = m ++ c' :: t' := by
  rcases List.append_eq_append_iff.mp h with ⟨m, hs', ht⟩ | ⟨m, hs, ht⟩
  · cases m with
    | nil => exact .inr (.inl ⟨by simpa using hs'.symm, by simpa using ht⟩)
    | cons d m =>
      obtain ⟨rfl, rfl⟩ := List.cons.inj ht
      exact .inr (.inr ⟨m, hs', rfl⟩)
  · cases m with
    | nil =>
      obtain ⟨rfl, rfl⟩ := List.cons.inj ht
      exact .inr (.inl ⟨by simpa using hs, rfl, rfl⟩)
    | cons d m =>
      obtain ⟨rfl, rfl⟩ := List.cons.inj ht
      exact .inl ⟨m, hs, rfl⟩

theorem rtakeWhile_append_cons {d : Char} (hd : isPlain d = false) (s t : List Char) :
    (s ++ d :: t).rtakeWhile isPlain = t.rtakeWhile isPlain := by
  induction t using List.reverseRecOn with
  | nil => rw [List.rtakeWhile_concat_neg _ _ _ (by simp [hd]), List.rtakeWhile_nil]
  | append_singleton t c ih =>
    rw [← List.cons_append, ← List.append_assoc]
    by_cases hc : isPlain c = true
    · rw [List.rtakeWhile_concat_pos _ _ _ hc, List.rtakeWhile_concat_pos _ _ _ hc, ih]
    · rw [List.rtakeWhile_concat_neg _ _ _ hc, List.rtakeWhile_concat_neg _ _ _ hc]

namespace Tight

theorem of_plain {s : List Char} (hs : ∀ c ∈ s, isPlain c = true) : Tight s where
  opened before after h := absurd (hs '(' (by simp [h])) (by decide)
  closed before after h := absurd (hs ')' (by simp [h])) (by decide)

/-- Two tight texts joined by a parenthesis or comma, where that character fits. -/
theorem join {s t : List Char} {d : Char} (hs : Tight s) (ht : Tight t) (hd : isPlain d = false)
    (hopen : d = '(' → ∃ form : Form, s.rtakeWhile isPlain = form.keyword.toList)
    (hclose : d = ')' → t = []) (hend : ')' ∈ s → d ≠ '(') : Tight (s ++ d :: t) where
  opened before after h := by
    rcases append_cons_cases h with ⟨m, rfl, -⟩ | ⟨rfl, rfl, -⟩ | ⟨m, rfl, hm⟩
    · exact hs.opened before m rfl
    · exact hopen rfl
    · rw [rtakeWhile_append_cons hd]
      exact ht.opened m after hm
  closed before after h := by
    rcases append_cons_cases h with ⟨m, rfl, rfl⟩ | ⟨rfl, rfl, rfl⟩ | ⟨m, rfl, hm⟩
    · cases m with
      | nil =>
        have hd' := (isPlain_eq_false_iff.mp hd).resolve_left (hend (by simp))
        rintro c ⟨⟩
        exact hd'.symm
      | cons e m => exact hs.closed before (e :: m) rfl
    · simp [hclose rfl]
    · exact ht.closed m after hm

theorem comma {s t : List Char} (hs : Tight s) (ht : Tight t) : Tight (s ++ ',' :: t) :=
  hs.join ht rfl (by simp) (by simp) (by simp)

theorem of_append_left {s t : List Char} (h : Tight (s ++ t)) : Tight s where
  opened before after hs := h.opened before (after ++ t) (by simp [hs])
  closed before after hs c hc := h.closed before (after ++ t) (by simp [hs]) c (by
    rw [List.head?_append]
    simp_all)

theorem of_append_right {s t : List Char} {d : Char} (hd : isPlain d = false)
    (h : Tight (s ++ d :: t)) : Tight t where
  opened before after ht := by
    rw [← rtakeWhile_append_cons hd s before]
    exact h.opened (s ++ d :: before) after (by simp [ht])
  closed before after ht := h.closed (s ++ d :: before) after (by simp [ht])

end Tight

/-! ## The grammar is well punctuated -/

/-- A form around a tight text is tight. -/
theorem Tight.form (form : Form) {text : List Char} (h : Tight text) :
    Tight (form.keyword.toList ++ '(' :: (text ++ [')'])) := by
  have hplain : ∀ c ∈ form.keyword.toList, isPlain c = true :=
    fun c hc => form.isPlain_of_mem_keyword hc
  refine Tight.join (.of_plain hplain) ?_ rfl ?_ (by simp) ?_
  · exact h.join (.of_plain (by simp)) rfl (by simp) (by simp) (by simp)
  · exact fun _ => ⟨form, List.rtakeWhile_eq_self_iff.mpr hplain⟩
  · exact fun hmem => absurd (hplain ')' hmem) (by decide)

namespace Lists

theorem ne_nil {text : List Char} {exprs : List Expr} (h : Lists text exprs) : exprs ≠ [] := by
  cases h <;> simp

theorem tight {text : List Char} {exprs : List Expr} (h : Lists text exprs) : Tight text := by
  induction h with
  | literal l => exact .of_plain fun c hc => Literal.isPlain_of_mem_text hc
  | name w => exact .of_plain fun c hc => Word.isPlain_of_mem hc
  | apply op h ih => exact Tight.form (.arithmetic op) ih
  | letIn w h ih =>
    have hw : Tight w.letters := .of_plain fun c hc => Word.isPlain_of_mem hc
    exact Tight.form .binding (hw.comma ih)
  | cons h hs ih ihs => exact ih.comma ihs

/-- Inside a parenthesis, listed expressions leave the level as it was. -/
theorem balanced_append {text rest : List Char} {exprs : List Expr} {n : ℕ}
    (h : Lists text exprs) (hrest : Balanced (n + 1) rest) : Balanced (n + 1) (text ++ rest) := by
  induction h generalizing n rest with
  | literal l => exact Balanced.plain_append (fun c hc => Literal.isPlain_of_mem_text hc) hrest
  | name w => exact Balanced.plain_append (fun c hc => Word.isPlain_of_mem hc) hrest
  | apply op h ih =>
    rw [List.append_assoc, List.cons_append, List.append_assoc]
    refine Balanced.plain_append (fun c hc => (Form.arithmetic op).isPlain_of_mem_keyword hc) ?_
    exact .opening (ih (.closing hrest))
  | letIn w h ih =>
    rw [List.append_assoc, List.cons_append, List.append_assoc, List.append_assoc]
    refine Balanced.plain_append (fun c hc => Form.binding.isPlain_of_mem_keyword hc) ?_
    refine .opening (Balanced.plain_append (fun c hc => Word.isPlain_of_mem hc) ?_)
    exact .comma (ih (.closing hrest))
  | cons h hs ih ihs =>
    rw [List.append_assoc]
    exact ih (.comma (ihs hrest))

theorem balanced {text : List Char} {expr : Expr} (h : Lists text [expr]) : Balanced 0 text := by
  cases h with
  | literal l => exact .of_plain fun c hc => Literal.isPlain_of_mem_text hc
  | name w => exact .of_plain fun c hc => Word.isPlain_of_mem hc
  | apply op h =>
    exact .form (.arithmetic op) (h.balanced_append (.closing .nil))
  | letIn w h =>
    refine .form .binding ?_
    rw [List.append_assoc]
    exact w.balanced.followed (h.balanced_append (.closing .nil))
  | cons h hs => exact absurd rfl hs.ne_nil

theorem wellPunctuated {text : List Char} {expr : Expr} (h : Lists text [expr]) :
    WellPunctuated text :=
  ⟨h.balanced, h.tight⟩

end Lists

end ExactCalc
