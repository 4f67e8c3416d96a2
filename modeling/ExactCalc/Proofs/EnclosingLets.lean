import ExactCalc.Proofs.Completeness
import ExactCalc.Proofs.Meaning
import ExactCalc.Proofs.NamedEntries

/-!
# Variables as enclosing `let`s

Giving variables to a calculation is the same as writing a `let` for each of them
around the text: both evaluate the inner expression in the same chain of frames.
The written form lies as many levels deeper as there are variables, and records
one step for each of them before the others.
-/

namespace ExactCalc

/-! ## Numbers of thirty-two bits -/

theorem bitLength_le_iff {n k : ℕ} : bitLength n ≤ k ↔ n < 2 ^ k := by
  unfold bitLength
  split_ifs with hzero
  · simp [hzero]
  · rw [Nat.succ_le_iff, Nat.log2_lt hzero]

/-- A number of thirty-two bits is shown in full. -/
theorem Numeral.display_of_word32 {n : ℤ} (h : -2 ^ 31 ≤ n ∧ n ≤ 2 ^ 31 - 1) :
    Numeral.display n = Numeral.ofInt n := by
  have hbits : bitLength n.natAbs ≤ 32 := bitLength_le_iff.mpr (by omega)
  rw [Numeral.display, if_pos (hbits.trans (by decide))]

/-- The literal without needless zeros. -/
def Literal.ofInt (n : ℤ) (h : -2 ^ 31 ≤ n ∧ n ≤ 2 ^ 31 - 1) : Literal where
  negative := n < 0
  digits := Nat.toDigits 10 n.natAbs
  nonempty := Nat.toDigits_ne_nil
  decimal := fun _ hc => Numeral.isDigit_of_mem_toDigits hc
  inRange := by rwa [Numeral.value_toDigits, Numeral.withSign_natAbs]

section Range

variable {n : ℤ} (h : -2 ^ 31 ≤ n ∧ n ≤ 2 ^ 31 - 1)

theorem Literal.text_ofInt : (Literal.ofInt n h).text = (Numeral.ofInt n).toList := by
  rw [Numeral.toList_ofInt]
  simp [Literal.ofInt, Literal.text]

theorem Literal.value_ofInt : (Literal.ofInt n h).value = n := by
  simp [Literal.ofInt, Literal.value, Numeral.value_toDigits, Numeral.withSign_natAbs]

end Range

/-! ## Declarations -/

/-- A name and a number that a literal can denote. -/
structure Declaration where
  word : Word
  value : ℤ
  inRange : -2 ^ 31 ≤ value ∧ value ≤ 2 ^ 31 - 1

namespace Declaration

def name (d : Declaration) : String := .ofList d.word.letters

/-- The declaration as a variable that is given to a calculation. -/
def binding (d : Declaration) : String × ℤ := (d.name, d.value)

def literal (d : Declaration) : Literal := .ofInt d.value d.inRange

def step (d : Declaration) : Step := .bound d.name (.ofInt d.value)

theorem text_step (d : Declaration) :
    d.step.text = s!"let {d.name} = {Numeral.ofInt d.value}" := by
  simp [step, Step.text, Fraction.text, Fraction.ofInt, Numeral.display_of_word32 d.inRange]

/-- The scope with a frame for each declaration, the first of them outermost. -/
def extend (ds : List Declaration) (scope : Scope) : Scope :=
  ds.foldl (fun scope d => scope.bind d.name (.ofInt d.value)) scope

theorem extend_nil_eq_ofBindings (ds : List Declaration) :
    extend ds [] = Scope.ofBindings (ds.map binding) := by
  rw [extend, Scope.ofBindings, List.foldl_map]
  rfl

/-- The text with a `let` around it for each declaration, the first of them outermost. -/
def enclose (ds : List Declaration) (text : String) : String :=
  ds.foldr (fun d inner => s!"let({d.name},{Numeral.ofInt d.value},{inner})") text

end Declaration

/-! ## Enclosed phrases -/

theorem Spaced.refl (text : List Char) : Spaced text text := by
  induction text with
  | nil => exact .nil
  | cons c text ih => exact .char c ih

theorem Spaced.append {s s' t t' : List Char} (hs : Spaced s s') (ht : Spaced t t') :
    Spaced (s ++ t) (s' ++ t') := by
  induction hs with
  | nil => exact ht
  | blank hc h ih => exact .blank hc ih
  | char c h ih => exact .char c ih

namespace Phrase

variable (ds : List Declaration) (p : Phrase)

def enclose : Phrase := ds.foldr (fun d inner => .letIn d.word (.literal d.literal) inner) p

theorem enclose_cons (d : Declaration) :
    enclose (d :: ds) p = .letIn d.word (.literal d.literal) (enclose ds p) := rfl

theorem height_enclose : (enclose ds p).expr.height = p.expr.height + ds.length := by
  induction ds with
  | nil => rfl
  | cons d ds ih =>
    rw [enclose_cons, expr, Expr.height, ih, List.length_cons]
    simp only [expr, Expr.height]
    omega

theorem spaced_enclose {p : Phrase} {text : String} (h : Spaced p.text text.toList) :
    Spaced (enclose ds p).text (Declaration.enclose ds text).toList := by
  induction ds with
  | nil => exact h
  | cons d ds ih =>
    have hphrase : (enclose (d :: ds) p).text =
        "let(".toList ++ d.word.letters ++ [','] ++ (Numeral.ofInt d.value).toList ++ [','] ++
          ((enclose ds p).text ++ [')']) := by
      simp [enclose_cons, Phrase.text, Declaration.literal, Literal.text_ofInt]
    have hstring : (Declaration.enclose (d :: ds) text).toList =
        "let(".toList ++ d.word.letters ++ [','] ++ (Numeral.ofInt d.value).toList ++ [','] ++
          ((Declaration.enclose ds text).toList ++ [')']) := by
      simp [Declaration.enclose, Declaration.name, toString]
    rw [hphrase, hstring]
    exact (Spaced.refl _).append (ih.append (.refl _))

/-- Each `let` records its binding and goes on in the scope with one more frame. -/
theorem eval_enclose (scope : Scope) :
    (enclose ds p).expr.eval scope =
      ⟨ds.map Declaration.step ++ (p.expr.eval (Declaration.extend ds scope)).steps,
        (p.expr.eval (Declaration.extend ds scope)).outcome⟩ := by
  induction ds generalizing scope with
  | nil => rfl
  | cons d ds ih =>
    rw [enclose_cons, expr, Expr.eval, expr, Expr.eval, Declaration.literal, Literal.value_ofInt,
      Trace.pure_eq, Trace.ok_bind, ih]
    rfl

end Phrase

/-! ## Calculations -/

/-- Further steps in front change the steps of a report and nothing else of its result. -/
theorem Calculation.report_prepend (c : Calculation) (expression : String) (front : List Step) :
    let report := Calculation.report ⟨expression, front ++ c.steps, c.outcome⟩
    report.value = c.report.value ∧ report.exact = c.report.exact ∧
      report.error = c.report.error ∧ report.steps = front.map Step.text ++ c.report.steps := by
  intro report
  simp only [report, Calculation.report]
  cases c.outcome with
  | ok exact => exact ⟨rfl, rfl, rfl, List.map_append⟩
  | error failure => exact ⟨rfl, rfl, rfl, List.map_append⟩

theorem Calculator.evaluate_enclose (ds : List Declaration) {p : Phrase} {text : String}
    (spaced : Spaced p.text text.toList) {limit : ℕ} (height : p.expr.height ≤ limit) :
    let given := (⟨limit⟩ : Calculator).evaluate (ds.map Declaration.binding) text
    (⟨limit + ds.length⟩ : Calculator).evaluate [] (Declaration.enclose ds text) =
      ⟨Declaration.enclose ds text, ds.map Declaration.step ++ given.steps, given.outcome⟩ := by
  have hgiven : Expr.ofText limit text = .ok p.expr := Phrase.ofText_of_height_le spaced height
  have hheight : (Phrase.enclose ds p).expr.height ≤ limit + ds.length := by
    rw [Phrase.height_enclose]
    omega
  have hwritten : Expr.ofText (limit + ds.length) (Declaration.enclose ds text) =
      .ok (Phrase.enclose ds p).expr := by
    exact_mod_cast Phrase.ofText_of_height_le (Phrase.spaced_enclose ds spaced) hheight
  simp only [Calculator.evaluate, hgiven, hwritten, Phrase.eval_enclose,
    ← Declaration.extend_nil_eq_ofBindings]
  rfl

/-- A calculation with variables has the result of the calculation without them for the text with a
`let` around it for each variable, under a limit that admits the additional levels. The steps are
those of the `let`s and then the same ones, also when there is a fault. -/
theorem Calculator.evaluate_enclosing_lets (ds : List Declaration)
    (distinct : (ds.map Declaration.name).Nodup) (p : Phrase) {text : String}
    (spaced : Spaced p.text text.toList) (limit : ℕ) (height : p.expr.height ≤ limit) :
    let written := ((⟨limit + ds.length⟩ : Calculator).evaluate []
      (Declaration.enclose ds text)).report
    let given := ((⟨limit⟩ : Calculator).evaluate (.ofPairs (ds.map Declaration.binding))
      text).report
    written.value = given.value ∧ written.exact = given.exact ∧ written.error = given.error ∧
      written.steps =
        ds.map (fun d => s!"let {d.name} = {Numeral.ofInt d.value}") ++ given.steps := by
  intro written given
  have hpairs : Entries.ofPairs (ds.map Declaration.binding) = ds.map Declaration.binding := by
    apply Entries.ofPairs_of_nodup
    rwa [List.map_map]
  have hsteps : (ds.map Declaration.step).map Step.text =
      ds.map fun d => s!"let {d.name} = {Numeral.ofInt d.value}" := by
    rw [List.map_map]
    exact List.map_congr_left fun d _ => d.text_step
  simp only [written, given]
  rw [Calculator.evaluate_enclose ds spaced height, hpairs, ← hsteps]
  exact Calculation.report_prepend _ _ _

/-- Two variables, one of them the least number of thirty-two bits. -/
def Declaration.threeAndLeast : List Declaration :=
  [⟨⟨"x".toList, by decide, List.all_eq_true.mp rfl⟩, 3, by decide⟩,
    ⟨⟨"y".toList, by decide, List.all_eq_true.mp rfl⟩, -2147483648, by decide⟩]

def Phrase.overDifference : Phrase :=
  .apply .div (.name ⟨"x".toList, by decide, List.all_eq_true.mp rfl⟩)
    (.apply .sub (.name ⟨"y".toList, by decide, List.all_eq_true.mp rfl⟩)
      (.name ⟨"y".toList, by decide, List.all_eq_true.mp rfl⟩))

/-- Both ways of giving the variables end in the same division by zero, after the same steps. -/
theorem Calculator.evaluate_enclosing_lets_fault :
    Spaced Phrase.overDifference.text "div(x, sub(y, y))".toList ∧
      Declaration.enclose Declaration.threeAndLeast "div(x, sub(y, y))" =
        "let(x,3,let(y,-2147483648,div(x, sub(y, y))))" ∧
      ((⟨4⟩ : Calculator).evaluate []
        "let(x,3,let(y,-2147483648,div(x, sub(y, y))))").report.error =
        ((⟨2⟩ : Calculator).evaluate [("x", 3), ("y", -2147483648)]
          "div(x, sub(y, y))").report.error ∧
      ((⟨4⟩ : Calculator).evaluate []
        "let(x,3,let(y,-2147483648,div(x, sub(y, y))))").report.steps =
        ["let x = 3", "let y = -2147483648"] ++
          ((⟨2⟩ : Calculator).evaluate [("x", 3), ("y", -2147483648)]
            "div(x, sub(y, y))").report.steps := by
  have spaced : Spaced Phrase.overDifference.text "div(x, sub(y, y))".toList := by
    repeat (first | exact .nil | refine .char _ ?_ | refine .blank (by decide) ?_)
  have htext : Declaration.enclose Declaration.threeAndLeast "div(x, sub(y, y))" =
      "let(x,3,let(y,-2147483648,div(x, sub(y, y))))" := by rfl
  have hresult := Calculator.evaluate_enclosing_lets Declaration.threeAndLeast (by decide)
    Phrase.overDifference spaced 2 (by decide)
  rw [htext] at hresult
  exact ⟨spaced, htext, hresult.2.2⟩

end ExactCalc
