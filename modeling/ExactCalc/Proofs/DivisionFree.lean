import ExactCalc.Proofs.FractionLaws
import ExactCalc.Proofs.Meaning
import ExactCalc.Proofs.NumeralValue

/-!
# Expressions without division

Without a division, and with integers for all names, evaluation is arithmetic in
the ring of integers: every fraction on the way has the denominator one, and
nothing is left to round. All that can go wrong is a name that is not bound. The
result is shown without a denominator, in full unless it is too long to be shown.
-/

namespace ExactCalc

/-! ## Values in the ring of integers -/

/-- The integers that names stand for. -/
abbrev Integers := String → Option ℤ

def Integers.bind (σ : Integers) (x : String) (k : ℤ) : Integers :=
  fun y => if x = y then some k else σ y

/-- The operations of the ring; division is none of them. -/
def Operator.integer? (m n : ℤ) : Operator → Option ℤ
  | add => some (m + n)
  | sub => some (m - n)
  | mult => some (m * n)
  | div => none

namespace Expr

/-- The value of an expression in the ring of integers, where a `let` binds its name in its body
only. -/
def integer? (σ : Integers) : Expr → Option ℤ
  | number n => some n
  | name x => σ x
  | apply op left right =>
    (left.integer? σ).bind fun m => (right.integer? σ).bind fun n => op.integer? m n
  | letIn x value body => (value.integer? σ).bind fun k => body.integer? (σ.bind x k)

/-- No operation of the expression is a division. -/
def DivisionFree : Expr → Prop
  | number _ => True
  | name _ => True
  | apply op left right => op ≠ .div ∧ left.DivisionFree ∧ right.DivisionFree
  | letIn _ value body => value.DivisionFree ∧ body.DivisionFree

end Expr

/-! ## Scopes of integers -/

namespace Scope

variable {scope : Scope}

/-- Every frame binds a fraction whose denominator is one. -/
def Whole (scope : Scope) : Prop := ∀ frame ∈ scope, frame.value.den = 1

/-- The numerators that a scope gives names. -/
def integers (scope : Scope) : Integers := fun x => (scope.lookup? x).map Fraction.num

theorem Whole.bind (h : scope.Whole) (x : String) (k : ℤ) : (scope.bind x (.ofInt k)).Whole := by
  intro frame hframe
  rcases List.mem_cons.mp hframe with rfl | hframe
  · rfl
  · exact h frame hframe

/-- The scope of given variables is one of integers. -/
theorem whole_ofBindings (bindings : Entries ℤ) : (Scope.ofBindings bindings).Whole := by
  induction bindings using List.reverseRecOn with
  | nil => simp [Whole, ofBindings]
  | append_singleton bindings entry ih =>
    rw [ofBindings, List.foldl_append]
    exact ih.bind entry.1 entry.2

theorem integers_bind (x : String) (k : ℤ) :
    (scope.bind x (.ofInt k)).integers = scope.integers.bind x k := by
  funext y
  unfold integers Integers.bind
  rw [lookup?_bind]
  split_ifs with h
  · rfl
  · rfl

end Scope

theorem Fraction.eq_ofInt_of_den {a : Fraction} (h : a.den = 1) : a = .ofInt a.num := by
  obtain ⟨num, den, hden⟩ := a
  subst h
  rfl

theorem Scope.Whole.lookup?_eq {scope : Scope} (h : scope.Whole) (x : String) :
    scope.lookup? x = (scope.integers x).map Fraction.ofInt := by
  unfold Scope.integers
  cases hx : scope.lookup? x with
  | none => rfl
  | some a =>
    obtain ⟨frame, hframe, rfl⟩ := Option.map_eq_some_iff.mp hx
    exact congrArg some (Fraction.eq_ofInt_of_den (h frame (List.mem_of_find?_eq_some hframe)))

/-! ## Evaluation -/

/-- Fractions of denominator one add, subtract and multiply as integers do. -/
theorem Operator.apply?_ofInt {op : Operator} (h : op ≠ .div) (m n : ℤ) :
    ∃ k, op.integer? m n = some k ∧ op.apply? (.ofInt m) (.ofInt n) = some (.ofInt k) := by
  cases op with
  | add =>
    refine ⟨m + n, rfl, congrArg some (Fraction.eq_of_value_of_den ?_ ?_)⟩
    · simp
    · exact Fraction.commonDenominator_one 1
  | sub =>
    refine ⟨m - n, rfl, congrArg some (Fraction.eq_of_value_of_den ?_ ?_)⟩
    · simp
    · exact Fraction.commonDenominator_one 1
  | mult => exact ⟨m * n, rfl, rfl⟩
  | div => exact absurd rfl h

/-- The outcome is the integer, as a fraction of denominator one, or tells of a name that is not
bound when there is no integer. -/
def GivesInteger (k : Option ℤ) (outcome : Except Fault Fraction) : Prop :=
  match k with
  | some k => outcome = .ok (.ofInt k)
  | none => ∃ x, outcome = .error (.unbound x)

theorem GivesInteger.bind {k : Option ℤ} {outcome : Except Fault Fraction} {next : ℤ → Option ℤ}
    {next' : Fraction → Except Fault Fraction} (h : GivesInteger k outcome)
    (hnext : ∀ k, GivesInteger (next k) (next' (.ofInt k))) :
    GivesInteger (k.bind next) (outcome >>= next') := by
  cases k with
  | some k =>
    obtain rfl : outcome = .ok (.ofInt k) := h
    exact hnext k
  | none =>
    obtain ⟨x, rfl⟩ := h
    exact ⟨x, rfl⟩

theorem Expr.givesInteger_eval {e : Expr} (hfree : e.DivisionFree) {scope : Scope}
    (hwhole : scope.Whole) : GivesInteger (e.integer? scope.integers) (e.eval scope).outcome := by
  induction e generalizing scope with
  | number n => exact rfl
  | name x =>
    rw [outcome_name, hwhole.lookup?_eq x, integer?]
    cases scope.integers x with
    | some k => exact rfl
    | none => exact ⟨x, rfl⟩
  | apply op left right ihl ihr =>
    obtain ⟨hop, hleft, hright⟩ := hfree
    rw [outcome_apply, integer?]
    refine (ihl hleft hwhole).bind fun m => (ihr hright hwhole).bind fun n => ?_
    obtain ⟨k, hk, happly⟩ := Operator.apply?_ofInt hop m n
    rw [hk, Trace.compute, happly]
    exact rfl
  | letIn x value body ihv ihb =>
    rw [outcome_letIn, integer?]
    refine (ihv hfree.1 hwhole).bind fun k => ?_
    rw [← Scope.integers_bind]
    exact ihb hfree.2 (hwhole.bind x k)

/-! ## Display -/

theorem bitLength_two_pow (k : ℕ) : bitLength ((2 : ℤ) ^ k).natAbs = k + 1 := by
  have habs : ((2 : ℤ) ^ k).natAbs = 2 ^ k := Int.natAbs_pow 2 k
  rw [bitLength, habs, if_neg (by positivity), Nat.log2_two_pow]

namespace Numeral

theorem display_of_le {n : ℤ} (h : bitLength n.natAbs ≤ 10000) : display n = ofInt n := if_pos h

theorem display_of_lt {n : ℤ} (h : 10000 < bitLength n.natAbs) :
    display n = (if n < 0 then "-" else "") ++ "<~" ++
      (digitEstimate (bitLength n.natAbs)).repr ++ " digits>" :=
  if_neg (not_le.mpr h)

theorem isDigit_of_mem_repr {n : ℕ} {c : Char} (h : c ∈ n.repr.toList) : c.isDigit = true := by
  rw [Nat.toList_repr] at h
  exact isDigit_of_mem_toDigits h

theorem eq_or_isDigit_of_mem_ofInt {n : ℤ} {c : Char} (h : c ∈ (ofInt n).toList) :
    c = '-' ∨ c.isDigit = true := by
  rw [toList_ofInt] at h
  split_ifs at h
  · exact (List.mem_cons.mp h).imp_right isDigit_of_mem_toDigits
  · exact .inr (isDigit_of_mem_toDigits h)

theorem slash_not_mem_display (n : ℤ) : '/' ∉ (display n).toList := by
  by_cases h : bitLength n.natAbs ≤ 10000
  · rw [display_of_le h]
    intro hmem
    exact absurd (eq_or_isDigit_of_mem_ofInt hmem) (by decide)
  · rw [display_of_lt (not_le.mp h)]
    simp only [String.toList_append, List.mem_append, not_or]
    refine ⟨⟨⟨?_, by decide⟩, ?_⟩, by decide⟩
    · split_ifs <;> decide
    · intro hmem
      exact absurd (isDigit_of_mem_repr hmem) (by decide)

end Numeral

@[simp] theorem Fraction.text_ofInt (k : ℤ) : (ofInt k).text = Numeral.display k := if_pos rfl

@[simp] theorem Fraction.truncate_ofInt (k : ℤ) : (ofInt k).truncate = k := Int.tdiv_one k

/-- An expression without division has, where all names stand for integers, its value in the ring of
integers: both parts of the fraction are as they should be, nothing is rounded, and no denominator
is shown. An integer of more than ten thousand binary digits is not shown in full. Where there is no
value a name is not bound; a division by zero does not happen. -/
theorem Expr.eval_divisionFree {e : Expr} (hfree : e.DivisionFree) {scope : Scope}
    (hwhole : scope.Whole) :
    ((∃ k a, e.integer? scope.integers = some k ∧ (e.eval scope).outcome = .ok a ∧
        a.num = k ∧ a.den = 1 ∧ a.truncate = k ∧ '/' ∉ a.text.toList ∧
        (bitLength k.natAbs ≤ 10000 → a.text = Numeral.ofInt k) ∧
        (10000 < bitLength k.natAbs → a.text = (if k < 0 then "-" else "") ++ "<~" ++
          (Numeral.digitEstimate (bitLength k.natAbs)).repr ++ " digits>")) ∨
      e.integer? scope.integers = none ∧ ∃ x, (e.eval scope).outcome = .error (.unbound x)) ∧
    (e.eval scope).outcome ≠ .error .divisionByZero := by
  have h := givesInteger_eval hfree hwhole
  cases hk : e.integer? scope.integers with
  | some k =>
    rw [hk] at h
    have hvalue : (e.eval scope).outcome = .ok (.ofInt k) := h
    refine ⟨.inl ⟨k, .ofInt k, rfl, hvalue, rfl, rfl, Fraction.truncate_ofInt k, ?_⟩, ?_⟩
    · rw [Fraction.text_ofInt]
      exact ⟨Numeral.slash_not_mem_display k, Numeral.display_of_le, Numeral.display_of_lt⟩
    · rw [hvalue]
      simp
  | none =>
    rw [hk] at h
    obtain ⟨x, hx⟩ := h
    refine ⟨.inr ⟨rfl, x, hx⟩, ?_⟩
    rw [hx]
    simp

/-- A negative integer is bound and squared. -/
theorem Expr.eval_divisionFree_square :
    let e := letIn "y" (apply .sub (.name "x") (.number 5)) (apply .mult (.name "y") (.name "y"))
    let scope := Scope.ofBindings [("x", 3)]
    e.DivisionFree ∧ scope.Whole ∧ e.integer? scope.integers = some 4 ∧
      ∃ a, (e.eval scope).outcome = .ok a ∧ a.num = 4 ∧ a.den = 1 ∧ a.text = "4" := by
  intro e scope
  have hfree : e.DivisionFree := ⟨⟨by decide, trivial, trivial⟩, by decide, trivial, trivial⟩
  have hwhole : scope.Whole := Scope.whole_ofBindings _
  have hvalue : e.integer? scope.integers = some 4 := by rfl
  refine ⟨hfree, hwhole, hvalue, ?_⟩
  obtain ⟨⟨k, a, hk, ha, hnum, hden, -, -, hfull, -⟩ | ⟨hnone, -⟩, -⟩ :=
    eval_divisionFree hfree hwhole
  · obtain rfl : 4 = k := Option.some.inj (hvalue.symm.trans hk)
    exact ⟨a, ha, hnum, hden, hfull (by decide)⟩
  · cases hvalue.symm.trans hnone

/-- The square of `2 ^ 5000` has one binary digit too many, and no integer is shown in its place. -/
theorem Expr.eval_divisionFree_abbreviated :
    let e := apply .mult (.name "x") (.name "x")
    let scope := Scope.ofBindings [("x", 2 ^ 5000)]
    e.DivisionFree ∧ scope.Whole ∧ ∃ a, (e.eval scope).outcome = .ok a ∧ a.den = 1 ∧
      a.text = "<~3011 digits>" ∧ ¬∃ n, a.text = Numeral.ofInt n := by
  intro e scope
  have hfree : e.DivisionFree := ⟨by decide, trivial, trivial⟩
  have hwhole : scope.Whole := Scope.whole_ofBindings _
  have hk : e.integer? scope.integers = some (2 ^ 10000) := by
    have hx : scope.integers "x" = some (2 ^ 5000) := rfl
    have hsquare : (2 : ℤ) ^ 5000 * 2 ^ 5000 = 2 ^ 10000 := by rw [← pow_add]
    simp only [e, integer?, hx, Option.bind_some, Operator.integer?, hsquare]
  have hvalue : (e.eval scope).outcome = .ok (.ofInt (2 ^ 10000)) := by
    have h := givesInteger_eval hfree hwhole
    rw [hk] at h
    exact h
  have hbits : bitLength ((2 : ℤ) ^ 10000).natAbs = 10001 := bitLength_two_pow 10000
  have htext : (Fraction.ofInt (2 ^ 10000)).text = "<~3011 digits>" := by
    rw [Fraction.text_ofInt, Numeral.display_of_lt (by rw [hbits]; decide), hbits,
      if_neg (not_lt.mpr (pow_nonneg (by decide) _))]
    decide +kernel
  refine ⟨hfree, hwhole, _, hvalue, rfl, htext, ?_⟩
  rintro ⟨n, hn⟩
  rw [htext] at hn
  have hmem : '<' ∈ (Numeral.ofInt n).toList := by
    rw [← hn]
    decide
  exact absurd (Numeral.eq_or_isDigit_of_mem_ofInt hmem) (by decide)

end ExactCalc
