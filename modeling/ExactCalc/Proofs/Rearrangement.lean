import ExactCalc.Proofs.FractionLaws
import ExactCalc.Proofs.Meaning

/-!
# Rearranging sums and products

Terms of a sum and factors of a product may be exchanged and grouped anew, and
units dropped, anywhere inside an expression. The value stays the same in both of
its parts: what is bound by a `let`, divided by or tested for zero further out is
the same fraction. Steps and the choice among several faults are not kept.
-/

namespace ExactCalc.Expr

/-- The value of an expression, if it has one. -/
def value? (scope : Scope) (e : Expr) : Option Fraction := (e.eval scope).outcome.toOption

section Values

variable (scope : Scope)

@[simp] theorem value?_number (n : ℤ) : (number n).value? scope = some (.ofInt n) := rfl

@[simp] theorem value?_apply (op : Operator) (left right : Expr) :
    (apply op left right).value? scope =
      (left.value? scope).bind fun a => (right.value? scope).bind fun b => op.apply? a b := by
  unfold value?
  rw [outcome_apply]
  cases (left.eval scope).outcome with
  | error fault => rfl
  | ok a =>
    cases (right.eval scope).outcome with
    | error fault => rfl
    | ok b =>
      change (Trace.compute op a b).outcome.toOption = op.apply? a b
      unfold Trace.compute
      cases op.apply? a b with
      | none => rfl
      | some result => rfl

@[simp] theorem value?_letIn (x : String) (value body : Expr) :
    (letIn x value body).value? scope =
      (value.value? scope).bind fun a => body.value? (scope.bind x a) := by
  unfold value?
  rw [outcome_letIn]
  cases (value.eval scope).outcome with
  | error fault => rfl
  | ok a => rfl

theorem value?_eq_some_iff {e : Expr} {a : Fraction} :
    e.value? scope = some a ↔ (e.eval scope).outcome = .ok a := by
  unfold value?
  cases (e.eval scope).outcome with
  | error fault => simp [Except.toOption]
  | ok b => simp [Except.toOption]

end Values

/-- The least congruence that lets sums and products be rearranged and drops units. -/
inductive Rearranged : Expr → Expr → Prop
  | refl (e : Expr) : Rearranged e e
  | symm {e e' : Expr} (h : Rearranged e e') : Rearranged e' e
  | trans {e e' e'' : Expr} (h : Rearranged e e') (h' : Rearranged e' e'') : Rearranged e e''
  | apply (op : Operator) {left left' right right' : Expr} (hl : Rearranged left left')
      (hr : Rearranged right right') : Rearranged (.apply op left right) (.apply op left' right')
  | letIn (x : String) {value value' body body' : Expr} (hv : Rearranged value value')
      (hb : Rearranged body body') : Rearranged (.letIn x value body) (.letIn x value' body')
  | add_comm (e f : Expr) : Rearranged (.apply .add e f) (.apply .add f e)
  | add_assoc (e f g : Expr) :
      Rearranged (.apply .add (.apply .add e f) g) (.apply .add e (.apply .add f g))
  | mult_comm (e f : Expr) : Rearranged (.apply .mult e f) (.apply .mult f e)
  | mult_assoc (e f g : Expr) :
      Rearranged (.apply .mult (.apply .mult e f) g) (.apply .mult e (.apply .mult f g))
  | add_zero (e : Expr) : Rearranged (.apply .add e (.number 0)) e
  | sub_zero (e : Expr) : Rearranged (.apply .sub e (.number 0)) e
  | mult_one (e : Expr) : Rearranged (.apply .mult e (.number 1)) e
  | div_one (e : Expr) : Rearranged (.apply .div e (.number 1)) e

namespace Rearranged

variable {scope : Scope}

/-- An operation that is always possible and commutative takes its operands in either order. -/
theorem value?_comm {op : Operator} {f : Fraction → Fraction → Fraction}
    (hop : ∀ a b, op.apply? a b = some (f a b)) (hcomm : ∀ a b, f a b = f b a) (left right : Expr) :
    (Expr.apply op left right).value? scope = (Expr.apply op right left).value? scope := by
  simp only [value?_apply, hop]
  rw [Option.bind_comm]
  simp only [hcomm]

theorem value?_assoc {op : Operator} {f : Fraction → Fraction → Fraction}
    (hop : ∀ a b, op.apply? a b = some (f a b)) (hassoc : ∀ a b c, f (f a b) c = f a (f b c))
    (e e' e'' : Expr) :
    (Expr.apply op (.apply op e e') e'').value? scope =
      (Expr.apply op e (.apply op e' e'')).value? scope := by
  simp only [value?_apply, hop, Option.bind_assoc, Option.bind_some, hassoc]

theorem value?_unit (op : Operator) {n : ℤ} (hunit : ∀ a, op.apply? a (.ofInt n) = some a)
    (e : Expr) : (Expr.apply op e (.number n)).value? scope = e.value? scope := by
  simp only [value?_apply, value?_number, Option.bind_some, hunit, Option.bind_fun_some]

theorem value?_eq {e e' : Expr} (h : e.Rearranged e') (scope : Scope) :
    e.value? scope = e'.value? scope := by
  induction h generalizing scope with
  | refl e => rfl
  | symm h ih => exact (ih scope).symm
  | trans h h' ih ih' => exact (ih scope).trans (ih' scope)
  | apply op hl hr ihl ihr => rw [value?_apply, value?_apply, ihl scope, ihr scope]
  | letIn x hv hb ihv ihb => simp only [value?_letIn, ihv scope, ihb]
  | add_comm e f => exact value?_comm (fun _ _ => rfl) Fraction.add_comm e f
  | add_assoc e f g => exact value?_assoc (fun _ _ => rfl) Fraction.add_assoc e f g
  | mult_comm e f => exact value?_comm (fun _ _ => rfl) Fraction.mul_comm e f
  | mult_assoc e f g => exact value?_assoc (fun _ _ => rfl) Fraction.mul_assoc e f g
  | add_zero e => exact value?_unit .add (fun a => congrArg some a.add_zero) e
  | sub_zero e => exact value?_unit .sub (fun a => congrArg some a.sub_zero) e
  | mult_one e => exact value?_unit .mult (fun a => congrArg some a.mul_one) e
  | div_one e => exact value?_unit .div Fraction.div_one e

end Rearranged

/-- A rearranged expression has a value in the same scopes, and there the same numerator and the
same denominator. -/
theorem eval_rearranged {e e' : Expr} (h : e.Rearranged e') (scope : Scope) :
    ((∃ a, (e.eval scope).outcome = .ok a) ↔ ∃ a', (e'.eval scope).outcome = .ok a') ∧
      ∀ a a', (e.eval scope).outcome = .ok a → (e'.eval scope).outcome = .ok a' →
        a.num = a'.num ∧ a.den = a'.den := by
  simp only [← value?_eq_some_iff, h.value?_eq scope, true_and]
  intro a a' ha ha'
  obtain rfl : a = a' := Option.some.inj (ha.symm.trans ha')
  exact ⟨rfl, rfl⟩

/-- A sum with a negative denominator is bound, and divided by itself once a factor one is gone. -/
theorem eval_rearranged_bound :
    (letIn "y" (.apply .add (.apply .div (.number 1) (.number (-2))) (.name "x"))
        (.apply .div (.name "y") (.apply .mult (.name "y") (.number 1)))).Rearranged
      (letIn "y" (.apply .add (.name "x") (.apply .div (.number 1) (.number (-2))))
        (.apply .div (.name "y") (.name "y"))) ∧
    ∃ a, ((letIn "y" (.apply .add (.name "x") (.apply .div (.number 1) (.number (-2))))
        (.apply .div (.name "y") (.name "y"))).eval [⟨"x", ⟨3, 4, by decide⟩⟩]).outcome = .ok a ∧
      a.num = 4 ∧ a.den = 4 := by
  have h : (letIn "y" (.apply .add (.apply .div (.number 1) (.number (-2))) (.name "x"))
        (.apply .div (.name "y") (.apply .mult (.name "y") (.number 1)))).Rearranged
      (letIn "y" (.apply .add (.name "x") (.apply .div (.number 1) (.number (-2))))
        (.apply .div (.name "y") (.name "y"))) :=
    .letIn "y" (.add_comm _ _) (.apply .div (.refl _) (.mult_one _))
  obtain ⟨hiff, hparts⟩ := eval_rearranged h [⟨"x", ⟨3, 4, by decide⟩⟩]
  obtain ⟨a, ha⟩ := hiff.mp ⟨⟨4, 4, by decide⟩, by rfl⟩
  obtain ⟨hnum, hden⟩ := hparts ⟨4, 4, by decide⟩ a (by rfl) ha
  exact ⟨h, a, ha, hnum.symm, hden.symm⟩

end ExactCalc.Expr
