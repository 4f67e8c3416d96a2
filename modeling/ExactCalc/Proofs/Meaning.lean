import ExactCalc.Calculator
import ExactCalc.Proofs.FractionValue

/-!
# The meaning of an expression

`Expr.Yields` gives expressions their meaning over the rational numbers, by rules
and without scopes, traces or fractions: an expression yields a number, or the
first fault on the way from left to right. The evaluator works on uncancelled
fractions in a chain of frames; it is shown to follow the rules at every nesting,
so that a report tells the number or the fault that the rules give.
-/

namespace ExactCalc

/-- What names stand for. -/
abbrev Environment := String → Option ℚ

namespace Environment

def bind (ρ : Environment) (x : String) (q : ℚ) : Environment :=
  fun y => if x = y then some q else ρ y

/-- The given variables; should a name be given more than once, the last value counts. -/
def ofBindings (bindings : Entries Int) : Environment :=
  fun x => (bindings.reverse.lookup x).map fun n => (n : ℚ)

end Environment

def Operator.exact : Operator → ℚ → ℚ → ℚ
  | add, p, q => p + q
  | sub, p, q => p - q
  | mult, p, q => p * q
  | div, p, q => p / q

/-- The rules of evaluation. A fault of an operand ends the evaluation, and the right operand is
reached only when the left one has a value; the body of a `let` only when its value has one. -/
inductive Expr.Yields : Environment → Expr → Except Fault ℚ → Prop
  | number {ρ n} : Yields ρ (.number n) (.ok n)
  | bound {ρ x q} (h : ρ x = some q) : Yields ρ (.name x) (.ok q)
  | unbound {ρ x} (h : ρ x = none) : Yields ρ (.name x) (.error (.unbound x))
  | apply {ρ op left right p q} (hl : Yields ρ left (.ok p)) (hr : Yields ρ right (.ok q))
      (h : op = .div → q ≠ 0) : Yields ρ (.apply op left right) (.ok (op.exact p q))
  | divisionByZero {ρ left right p} (hl : Yields ρ left (.ok p)) (hr : Yields ρ right (.ok 0)) :
      Yields ρ (.apply .div left right) (.error .divisionByZero)
  | leftFault {ρ op left right f} (hl : Yields ρ left (.error f)) :
      Yields ρ (.apply op left right) (.error f)
  | rightFault {ρ op left right p f} (hl : Yields ρ left (.ok p)) (hr : Yields ρ right (.error f)) :
      Yields ρ (.apply op left right) (.error f)
  | letIn {ρ x value body p outcome} (hv : Yields ρ value (.ok p))
      (hb : Yields (ρ.bind x p) body outcome) : Yields ρ (.letIn x value body) outcome
  | valueFault {ρ x value body f} (hv : Yields ρ value (.error f)) :
      Yields ρ (.letIn x value body) (.error f)

/-! ## One expression, one outcome -/

theorem Expr.Yields.unique {ρ : Environment} {e : Expr} {o o' : Except Fault ℚ}
    (h : e.Yields ρ o) (h' : e.Yields ρ o') : o = o' := by
  induction h generalizing o' with
  | number => cases h'; rfl
  | bound h => cases h' <;> simp_all
  | unbound h => cases h' <;> simp_all
  | apply hl hr hdiv ihl ihr =>
    cases h' with
    | apply hl' hr' _ => cases ihl hl'; cases ihr hr'; rfl
    | divisionByZero hl' hr' => cases ihr hr'; exact absurd rfl (hdiv rfl)
    | leftFault hl' => cases ihl hl'
    | rightFault _ hr' => cases ihr hr'
  | divisionByZero hl hr ihl ihr =>
    cases h' with
    | apply _ hr' hdiv => cases ihr hr'; exact absurd rfl (hdiv rfl)
    | divisionByZero => rfl
    | leftFault hl' => cases ihl hl'
    | rightFault _ hr' => cases ihr hr'
  | leftFault hl ihl =>
    cases h' with
    | apply hl' _ _ => cases ihl hl'
    | divisionByZero hl' _ => cases ihl hl'
    | leftFault hl' => exact ihl hl'
    | rightFault hl' _ => cases ihl hl'
  | rightFault hl hr ihl ihr =>
    cases h' with
    | apply _ hr' _ => cases ihr hr'
    | divisionByZero _ hr' => cases ihr hr'
    | leftFault hl' => cases ihl hl'
    | rightFault _ hr' => exact ihr hr'
  | letIn hv hb ihv ihb =>
    cases h' with
    | letIn hv' hb' => cases ihv hv'; exact ihb hb'
    | valueFault hv' => cases ihv hv'
  | valueFault hv ihv =>
    cases h' with
    | letIn hv' _ => cases ihv hv'
    | valueFault hv' => exact ihv hv'

/-! ## The evaluator follows the rules -/

/-- A scope and an environment that give every name the same value, or both none. -/
def Scope.Models (scope : Scope) (ρ : Environment) : Prop :=
  ∀ x, (scope.lookup? x).map Fraction.value = ρ x

theorem Scope.Models.bind {scope : Scope} {ρ : Environment} (h : scope.Models ρ) (x : String)
    (a : Fraction) : (scope.bind x a).Models (ρ.bind x a.value) := by
  intro y
  by_cases hxy : x = y
  · simp [Environment.bind, hxy]
  · simp [Environment.bind, hxy, h y]

theorem Scope.lookup?_ofBindings (bindings : Entries Int) (x : String) :
    (Scope.ofBindings bindings).lookup? x = (bindings.reverse.lookup x).map Fraction.ofInt := by
  induction bindings using List.reverseRecOn with
  | nil => rfl
  | append_singleton bindings entry ih =>
    obtain ⟨y, n⟩ := entry
    rw [Scope.ofBindings, List.foldl_append, ← Scope.ofBindings]
    by_cases h : y = x
    · simp [h]
    · simp [h, ih, List.lookup_cons, beq_false_of_ne (Ne.symm h)]

theorem Scope.ofBindings_models (bindings : Entries Int) :
    (Scope.ofBindings bindings).Models (Environment.ofBindings bindings) := by
  intro x
  rw [Scope.lookup?_ofBindings, Environment.ofBindings, Option.map_map]
  cases bindings.reverse.lookup x with
  | none => rfl
  | some n => exact congrArg some (Fraction.value_ofInt n)

/-- An operation on fractions is refused for a division by the value zero and for nothing else;
otherwise its result has the exact value. -/
theorem Operator.apply?_exact (op : Operator) (a b : Fraction) :
    op.apply? a b = none ∧ op = .div ∧ b.value = 0 ∨
      ∃ c, op.apply? a b = some c ∧ c.value = op.exact a.value b.value ∧
        (op = .div → b.value ≠ 0) := by
  cases op with
  | add => exact .inr ⟨_, rfl, a.value_add b, by simp⟩
  | sub => exact .inr ⟨_, rfl, a.value_sub b, by simp⟩
  | mult => exact .inr ⟨_, rfl, a.value_mul b, by simp⟩
  | div =>
    cases h : a.div? b with
    | none => exact .inl ⟨h, rfl, (a.div?_eq_none_iff b).mp h⟩
    | some c =>
      refine .inr ⟨c, h, Fraction.value_of_div? h, fun _ hb => ?_⟩
      rw [(a.div?_eq_none_iff b).mpr hb] at h
      cases h

theorem Trace.outcome_bind {ε α β : Type} (t : Trace ε α) (next : α → Trace ε β) :
    (t >>= next).outcome = t.outcome >>= fun a => (next a).outcome := by
  obtain ⟨steps, outcome⟩ := t
  cases outcome <;> rfl

theorem Expr.outcome_name (scope : Scope) (x : String) :
    ((Expr.name x).eval scope).outcome =
      match scope.lookup? x with
      | some a => .ok a
      | none => .error (.unbound x) := by
  rw [Expr.eval, Trace.read]
  cases scope.lookup? x with
  | none => rfl
  | some a => rfl

theorem Expr.outcome_apply (scope : Scope) (op : Operator) (left right : Expr) :
    ((Expr.apply op left right).eval scope).outcome = (do
      let a ← (left.eval scope).outcome
      let b ← (right.eval scope).outcome
      (Trace.compute op a b).outcome) := by
  rw [Expr.eval, Trace.outcome_bind]
  simp only [Trace.outcome_bind]

theorem Expr.outcome_letIn (scope : Scope) (x : String) (value body : Expr) :
    ((Expr.letIn x value body).eval scope).outcome = (do
      let a ← (value.eval scope).outcome
      (body.eval (scope.bind x a)).outcome) := by
  rw [Expr.eval, Trace.outcome_bind]
  rfl

theorem Expr.yields_eval (e : Expr) {scope : Scope} {ρ : Environment} (h : scope.Models ρ) :
    e.Yields ρ ((e.eval scope).outcome.map Fraction.value) := by
  induction e generalizing scope ρ with
  | number n =>
    rw [Expr.eval, Trace.pure_eq, Except.map, Fraction.value_ofInt]
    exact .number
  | name x =>
    have hx := h x
    rw [outcome_name]
    cases hl : scope.lookup? x with
    | none =>
      rw [hl, Option.map_none] at hx
      exact .unbound hx.symm
    | some a =>
      rw [hl, Option.map_some] at hx
      exact .bound hx.symm
  | apply op left right ihl ihr =>
    have hl := ihl h
    have hr := ihr h
    rw [outcome_apply]
    cases ha : (left.eval scope).outcome with
    | error f =>
      rw [ha] at hl
      exact .leftFault hl
    | ok a =>
      rw [ha] at hl
      cases hb : (right.eval scope).outcome with
      | error f =>
        rw [hb] at hr
        exact .rightFault hl hr
      | ok b =>
        rw [hb] at hr
        change Yields ρ _ (Except.map _ (Trace.compute op a b).outcome)
        obtain ⟨hn, rfl, hz⟩ | ⟨c, hc, hv, hd⟩ := op.apply?_exact a b
        · rw [Except.map, hz] at hr
          simpa [Trace.compute, hn, Trace.stop, Except.map] using Yields.divisionByZero hl hr
        · simpa [Trace.compute, hc, Except.map, hv] using Yields.apply hl hr hd
  | letIn x value body ihv ihb =>
    have hv := ihv h
    rw [outcome_letIn]
    cases ha : (value.eval scope).outcome with
    | error f =>
      rw [ha] at hv
      exact .valueFault hv
    | ok a =>
      rw [ha] at hv
      exact .letIn hv (ihb (h.bind x a))

/-- The outcome of the evaluator is the one that the rules give, with the value in place of the
fraction. -/
theorem Expr.yields_iff (e : Expr) {scope : Scope} {ρ : Environment} (h : scope.Models ρ)
    (o : Except Fault ℚ) :
    e.Yields ρ o ↔ o = (e.eval scope).outcome.map Fraction.value := by
  constructor
  · intro ho
    exact ho.unique (e.yields_eval h)
  · rintro rfl
    exact e.yields_eval h

/-! ## Reports -/

/-- A report tells the meaning of the expression that was read: it is ok exactly when the
expression yields a number, and then gives that number exactly and rounded toward zero;
otherwise it names the first fault. -/
theorem Calculator.report_meaning {limit : Int} {text : String} {expr : Expr}
    (read : Expr.ofText limit text = .ok expr) (bindings : Entries Int) :
    let report := ((⟨limit⟩ : Calculator).evaluate bindings text).report
    let ρ := Environment.ofBindings bindings
    (report.ok = true ↔ ∃ q, expr.Yields ρ (.ok q)) ∧
      (∀ q, expr.Yields ρ (.ok q) →
        ∃ exact, report.exact = some exact ∧ (exact.num : ℚ) / exact.den = q ∧
          report.value = some (towardZero q)) ∧
      ((¬∃ q, expr.Yields ρ (.ok q)) →
        ∃ fault error, (∀ f, expr.Yields ρ (.error f) ↔ f = fault) ∧ report.error = some error ∧
          match fault with
          | .unbound x => error.kind = "unbound_variable" ∧ error.name = some x
          | .divisionByZero => error.kind = "division_by_zero" ∧ error.name = none) := by
  intro report ρ
  have hy := expr.yields_iff (Scope.ofBindings_models bindings)
  have hreport : report = Calculation.report ⟨text, (expr.eval (.ofBindings bindings)).steps,
      (expr.eval (.ofBindings bindings)).outcome.mapError .fault⟩ := by
    simp only [report, Calculator.evaluate, read]
  cases ho : (expr.eval (.ofBindings bindings)).outcome with
  | ok exact =>
    simp only [ho, Except.map] at hy
    rw [ho] at hreport
    simp only [Except.mapError, Calculation.report] at hreport
    refine ⟨?_, ?_, ?_⟩
    · simp [hreport, ρ, hy]
    · intro q hq
      cases (hy _).mp hq
      exact ⟨exact, by rw [hreport], rfl, by rw [hreport, exact.truncate_eq]⟩
    · intro hnone
      exact absurd ⟨_, (hy _).mpr rfl⟩ hnone
  | error fault =>
    simp only [ho, Except.map] at hy
    rw [ho] at hreport
    simp only [Except.mapError, Calculation.report] at hreport
    refine ⟨?_, ?_, ?_⟩
    · simp [hreport, ρ, hy]
    · intro q hq
      cases (hy _).mp hq
    · intro _
      refine ⟨fault, fault.report, ?_, by rw [hreport]; rfl, ?_⟩
      · intro f
        simp [ρ, hy]
      · cases fault <;> exact ⟨rfl, rfl⟩

/-- Blanks, a negative denominator, a hidden variable and rounding, in one calculation. -/
theorem Calculator.report_meaning_shadowed :
    Expr.ofText 2 "let(x, div(7, -2), add(x, y))" =
        .ok (.letIn "x" (.apply .div (.number 7) (.number (-2)))
          (.apply .add (.name "x") (.name "y"))) ∧
      ∃ exact, ((⟨2⟩ : Calculator).evaluate [("x", 9), ("y", 1)]
          "let(x, div(7, -2), add(x, y))").report.exact = some exact ∧
        (exact.num : ℚ) / exact.den = 7 / ((-2 : ℤ) : ℚ) + 1 ∧
        ((⟨2⟩ : Calculator).evaluate [("x", 9), ("y", 1)]
          "let(x, div(7, -2), add(x, y))").report.value =
            some (towardZero (7 / ((-2 : ℤ) : ℚ) + 1)) := by
  have read : Expr.ofText 2 "let(x, div(7, -2), add(x, y))" =
      .ok (.letIn "x" (.apply .div (.number 7) (.number (-2)))
        (.apply .add (.name "x") (.name "y"))) := by cbv
  refine ⟨read, (Calculator.report_meaning read [("x", 9), ("y", 1)]).2.1 _ ?_⟩
  refine .letIn (.apply .number .number (by norm_num)) (.apply (.bound ?_) (.bound ?_) (by simp))
  · simp [Environment.bind, Operator.exact]
  · simp [Environment.bind, Environment.ofBindings]

end ExactCalc
