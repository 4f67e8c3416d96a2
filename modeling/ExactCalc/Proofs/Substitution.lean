import ExactCalc.Proofs.AddedBindings

/-!
# A `let` is exact sharing

Binding a name to a value and using the name has the outcome of writing the
expression for the value wherever the name stands free. The expression is then
evaluated once for each place, under the names that are bound around that place;
as none of them is free in it, it has the same value everywhere.
-/

namespace ExactCalc.Expr

/-- The names that the `let`s inside an expression declare. -/
def boundNames : Expr → List String
  | number _ => []
  | name _ => []
  | apply _ left right => left.boundNames ++ right.boundNames
  | letIn x value body => x :: (value.boundNames ++ body.boundNames)

/-- The expression with `v` in every place where the name `x` stands free. A `let` that declares
`x` again keeps its body. -/
def substitute (b : Expr) (x : String) (v : Expr) : Expr :=
  match b with
  | number n => number n
  | name y => if y = x then v else name y
  | apply op left right => apply op (left.substitute x v) (right.substitute x v)
  | letIn y value body =>
    letIn y (value.substitute x v) (if y = x then body else body.substitute x v)

/-- The outer scope is the inner one without the binding of `x` to `a`, and `v` has the value `a`
in it. -/
structure Shares (x : String) (v : Expr) (a : Fraction) (inner outer : Scope) : Prop where
  value : (v.eval outer).outcome = .ok a
  here : inner.lookup? x = some a
  elsewhere : ∀ y, y ≠ x → inner.lookup? y = outer.lookup? y

namespace Shares

variable {x : String} {v : Expr} {a : Fraction} {inner outer : Scope}

theorem ofBind {scope : Scope} (h : (v.eval scope).outcome = .ok a) :
    Shares x v a (scope.bind x a) scope where
  value := h
  here := by simp
  elsewhere := by
    intro y hy
    simp [Ne.symm hy]

/-- Another name that is not free in `v` may be bound on both sides. -/
theorem bind (h : Shares x v a inner outer) {y : String} (hy : y ≠ x) (hv : y ∉ v.freeNames)
    (b : Fraction) : Shares x v a (inner.bind y b) (outer.bind y b) where
  value := by
    have hsame : v.eval (outer.bind y b) = v.eval outer := by
      refine eval_congr fun z hz => ?_
      have hzy : y ≠ z := by
        rintro rfl
        exact hv hz
      simp [hzy]
    rw [hsame, h.value]
  here := by simp [hy, h.here]
  elsewhere := by
    intro z hz
    simp only [Scope.lookup?_bind, h.elsewhere z hz]

/-- Once `x` is bound anew the two scopes give every name the same value. -/
theorem lookup?_bind_self (h : Shares x v a inner outer) (b : Fraction) (y : String) :
    (inner.bind x b).lookup? y = (outer.bind x b).lookup? y := by
  rw [Scope.lookup?_bind, Scope.lookup?_bind]
  split_ifs with hy
  · rfl
  · exact h.elsewhere y (Ne.symm hy)

end Shares

/-- Using the name in the inner scope has the outcome of writing `v` in its place in the outer
one. -/
theorem outcome_substitute {x : String} {v b : Expr} {a : Fraction} {inner outer : Scope}
    (h : Shares x v a inner outer) (hcapture : ∀ y ∈ b.boundNames, y ∉ v.freeNames) :
    ((b.substitute x v).eval outer).outcome = (b.eval inner).outcome := by
  -- Every `let` of the body adds a frame to both scopes, and `Shares` is what the frames keep.
  induction b generalizing inner outer with
  | number n => rfl
  | name y =>
    rw [substitute]
    split_ifs with hy
    · rw [h.value, eval, Trace.read, hy, h.here]
    · rw [eval, eval, Trace.read, Trace.read, h.elsewhere y hy]
  | apply op left right ihl ihr =>
    have hl := ihl h fun y hy => hcapture y (by simp [boundNames, hy])
    have hr := ihr h fun y hy => hcapture y (by simp [boundNames, hy])
    rw [substitute, outcome_apply, outcome_apply, hl, hr]
  | letIn y value body ihv ihb =>
    have hvalue := ihv h fun z hz => hcapture z (by simp [boundNames, hz])
    have hbody (w : Fraction) :
        ((if y = x then body else body.substitute x v).eval (outer.bind y w)).outcome =
          (body.eval (inner.bind y w)).outcome := by
      split_ifs with hy
      · -- The name is declared again, so the two sides read the same body.
        subst hy
        rw [eval_congr fun z _ => h.lookup?_bind_self w z]
      · refine ihb (h.bind hy ?_ w) fun z hz => hcapture z (by simp [boundNames, hz])
        exact hcapture y (by simp [boundNames])
    rw [substitute, outcome_letIn, outcome_letIn, hvalue]
    simp only [hbody]

/-- A `let` whose value can be evaluated has the outcome, value or fault, of its body with the
value written out, unless a name free in the value would be captured. -/
theorem eval_letIn_substitute (x : String) (v b : Expr) (scope : Scope)
    (hvalue : ∃ a, (v.eval scope).outcome = .ok a)
    (hcapture : ∀ y ∈ b.boundNames, y ∉ v.freeNames) :
    ((letIn x v b).eval scope).outcome = ((b.substitute x v).eval scope).outcome := by
  obtain ⟨a, ha⟩ := hvalue
  rw [outcome_letIn, ha, outcome_substitute (.ofBind ha) hcapture]
  rfl

/-- The name stands free in its own value, where the outer binding counts, and is used below another
`let`. Both sides end in the same division by zero. -/
theorem eval_letIn_substitute_nested :
    (∃ a, ((apply .div (.name "x") (.number 2)).eval [⟨"x", .ofInt 3⟩]).outcome = .ok a) ∧
      ((letIn "x" (apply .div (.name "x") (.number 2))
        (letIn "y" (.name "x") (apply .div (.name "y") (apply .sub (.name "x") (.name "y"))))).eval
          [⟨"x", .ofInt 3⟩]).outcome =
        ((letIn "y" (apply .div (.name "x") (.number 2))
          (apply .div (.name "y")
            (apply .sub (apply .div (.name "x") (.number 2)) (.name "y")))).eval
          [⟨"x", .ofInt 3⟩]).outcome := by
  have hvalue : ∃ a, ((apply .div (.name "x") (.number 2)).eval [⟨"x", .ofInt 3⟩]).outcome =
      .ok a := ⟨_, rfl⟩
  refine ⟨hvalue, ?_⟩
  exact eval_letIn_substitute "x" (apply .div (.name "x") (.number 2))
    (letIn "y" (.name "x") (apply .div (.name "y") (apply .sub (.name "x") (.name "y"))))
    [⟨"x", .ofInt 3⟩] hvalue (by decide)

end ExactCalc.Expr
