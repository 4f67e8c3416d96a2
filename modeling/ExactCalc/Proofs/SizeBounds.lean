import ExactCalc.Proofs.CanonicalText
import ExactCalc.Proofs.StepSchedule

/-!
# Sizes

Nothing that comes of a text is larger than the text. The pieces of a form do not
overlap, so together they are no longer than what stands behind the keyword, and the
keyword pays for the form itself. An expression therefore has no more parts than
the text has characters, however many of these were passed over. An evaluation records
at most one step for each part, whether or not it comes to an end.
-/

namespace ExactCalc

/-! ## Disjoint pieces -/

/-- The pieces share no character, and none of them reaches back behind what was passed. -/
theorem sum_length_cutPieces_le (level : ℤ) (start : ℕ) (passed rest : List Char) :
    ((cutPieces level start passed rest).map fun piece => piece.text.length).sum ≤
      passed.length + rest.length := by
  induction rest generalizing level start passed with
  | nil => simp [cutPieces]
  | cons c rest ih =>
    have hfresh := ih (levelAfter level c) (start + passed.length + 1) []
    have hpassing := ih (levelAfter level c) start (c :: passed)
    simp only [List.length_nil, List.length_cons] at hfresh hpassing ⊢
    rw [cutPieces]
    split_ifs with hopen hend
    · omega
    · rw [List.map_cons, List.sum_cons, List.length_reverse]
      omega
    · omega

/-- The keyword of a form is part of none of its pieces. -/
theorem Form.sum_length_pieces_lt {text rest : List Char} {form : Form}
    (h : Shape.ofText text = .call form rest) :
    ((form.pieces rest).map fun piece => piece.text.length).sum < text.length := by
  have hpieces := sum_length_cutPieces_le 0 form.keyword.length [] rest
  have hkeyword := form.three_le_length_keyword
  rw [Shape.eq_append_of_call h, List.length_append, String.length_toList, Form.pieces]
  rw [List.length_nil, Nat.zero_add] at hpieces
  omega

/-- Results that are no larger than the items they come from are together no larger. -/
theorem sum_le_of_mapM_eq_ok {ε α β : Type} {f : α → Except ε β} {size : β → ℕ} {bound : α → ℕ}
    {items : List α} {results : List β} (h : items.mapM f = .ok results)
    (hle : ∀ a ∈ items, ∀ b, f a = .ok b → size b ≤ bound a) :
    (results.map size).sum ≤ (items.map bound).sum := by
  induction items generalizing results with
  | nil =>
    cases h
    exact le_rfl
  | cons a items ih =>
    rw [List.mapM_cons] at h
    obtain ⟨b, hfirst, h⟩ := exists_of_bind_eq_ok h
    obtain ⟨bs, hrest, h⟩ := exists_of_bind_eq_ok h
    cases h
    have hb := hle a (by simp) b hfirst
    have hbs := ih hrest fun a' ha' => hle a' (by simp [ha'])
    simp only [List.map_cons, List.sum_cons]
    omega

/-! ## Parts and steps -/

namespace Expr

/-- Whatever the text, what is read from it has no more parts than the text has characters. -/
theorem size_le_of_read {limit offset depth : ℤ} {text : List Char} {e : Expr}
    (h : read limit text offset depth = .ok e) : e.size ≤ text.length := by
  induction text using piece_induction generalizing offset depth e with
  | step text ih =>
    -- The arguments of a form, surplus ones included, are bounded by its pieces all at once.
    have harguments {form : Form} {rest : List Char} {arguments : List Expr}
        (hshape : Shape.ofText text = .call form rest)
        (hread : form.readPieces limit rest offset depth = .ok arguments) :
        (arguments.map size).sum < text.length := by
      refine lt_of_le_of_lt (sum_le_of_mapM_eq_ok hread ?_) (Form.sum_length_pieces_lt hshape)
      intro piece hpiece argument hargument
      exact ih form rest hshape piece hpiece hargument
    obtain ⟨-, hreading⟩ := readAs_of_read h
    cases hreading with
    | literal l htext =>
      have hdigits := List.length_pos_iff.mpr l.nonempty
      rw [size, ← htext, Literal.text]
      split_ifs
      · rw [List.length_cons]
        omega
      · exact hdigits
    | name w htext =>
      rw [size, ← htext]
      exact List.length_pos_iff.mpr w.nonempty
    | apply hshape hread =>
      have hsum := harguments hshape hread
      simp only [List.map_cons, List.sum_cons] at hsum
      rw [size]
      omega
    | letIn hshape hread =>
      have hsum := harguments hshape hread
      simp only [List.map_cons, List.sum_cons, size] at hsum
      rw [size]
      omega

theorem stepCount_le_size (e : Expr) : e.stepCount ≤ e.size := by
  induction e with
  | number n => exact Nat.zero_le 1
  | name x => exact le_rfl
  | apply op left right ihl ihr =>
    rw [stepCount, size]
    omega
  | letIn x value body ihv ihb =>
    rw [stepCount, size]
    omega

theorem length_steps_le (e : Expr) (scope : Scope) : (e.eval scope).steps.length ≤ e.size := by
  have hcount := e.stepCount_le_size
  cases h : (e.eval scope).outcome with
  | ok a =>
    have hsteps := length_steps_of_ok h
    omega
  | error fault =>
    have hsteps := length_steps_of_error h
    omega

end Expr

/-- The expression that is read from a text has no more parts, and a calculation on it no more
steps, than the text has characters that are not blank. -/
theorem Calculator.evaluate_size_le (limit : ℤ) (bindings : Entries ℤ) (text : String) :
    (∀ e, Expr.ofText limit text = .ok e → e.size ≤ (Text.withoutBlanks text).length) ∧
      ((⟨limit⟩ : Calculator).evaluate bindings text).report.steps.length ≤
        (Text.withoutBlanks text).length := by
  have hsize (e : Expr) (h : Expr.ofText limit text = .ok e) :
      e.size ≤ (Text.withoutBlanks text).length := by
    rw [← String.length_toList]
    exact Expr.size_le_of_read h
  refine ⟨hsize, ?_⟩
  have hreport (c : Calculation) : c.report.steps.length = c.steps.length := by
    unfold Calculation.report
    split <;> exact List.length_map _
  rw [hreport, Calculator.evaluate]
  cases h : Expr.ofText limit text with
  | error r => exact Nat.zero_le _
  | ok e => exact (e.length_steps_le _).trans (hsize e h)

/-- Two lists, a surplus argument and stray characters; the division ends the evaluation behind
its second step. -/
theorem Calculator.evaluate_size_le_stray :
    let text := "letter( x,7 )(div(x,0), 9) )zz"
    let e := Expr.letIn "x" (.number 7) (.apply .div (.name "x") (.number 0))
    Expr.ofText 2 text = .ok e ∧ (Text.withoutBlanks text).length = 26 ∧ e.size = 6 ∧
      e.size ≤ (Text.withoutBlanks text).length ∧
      ((⟨2⟩ : Calculator).evaluate [] text).report.steps.length = 2 ∧
      ((⟨2⟩ : Calculator).evaluate [] text).report.steps.length ≤
        (Text.withoutBlanks text).length := by
  intro text e
  have hread : Expr.ofText 2 text = .ok e := by cbv
  have htwo : ((⟨2⟩ : Calculator).evaluate [] text).report.steps.length = 2 := by
    simp only [Calculator.evaluate, hread]
    decide
  obtain ⟨hsize, hsteps⟩ := Calculator.evaluate_size_le 2 [] text
  exact ⟨hread, by cbv, by decide, hsize e hread, htwo, hsteps⟩

end ExactCalc
