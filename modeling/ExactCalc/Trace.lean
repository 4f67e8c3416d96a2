import ExactCalc.Expr
import ExactCalc.Fraction

/-!
# Traces

A trace is a computation that records its steps as it goes. When it stops with
an error, the steps that were recorded before stay.
-/

namespace ExactCalc

/-- What an evaluation records: a name that was read, an operation that was carried out, a
name that was bound. -/
inductive Step
  | read (name : String) (value : Fraction)
  | computed (op : Operator) (left right result : Fraction)
  | bound (name : String) (value : Fraction)
  deriving DecidableEq, Repr

def Step.text : Step → String
  | read name value => s!"{name} = {value.text}"
  | computed op left right result =>
    s!"{op.keyword}({left.text}, {right.text}) = {result.text}"
  | bound name value => s!"let {name} = {value.text}"

structure Trace (ε α : Type) where
  steps : List Step
  outcome : Except ε α

namespace Trace

variable {ε ε' α β : Type}

def stop (e : ε) : Trace ε α := ⟨[], .error e⟩

def record (step : Step) : Trace ε Unit := ⟨[step], .ok ()⟩

def andThen (t : Trace ε α) (next : α → Trace ε β) : Trace ε β :=
  match t.outcome with
  | .error e => ⟨t.steps, .error e⟩
  | .ok a =>
    let rest := next a
    ⟨t.steps ++ rest.steps, rest.outcome⟩

instance : Monad (Trace ε) where
  pure a := ⟨[], .ok a⟩
  bind := andThen

def mapError (f : ε → ε') (t : Trace ε α) : Trace ε' α := ⟨t.steps, t.outcome.mapError f⟩

@[simp] theorem pure_eq (a : α) : (pure a : Trace ε α) = ⟨[], .ok a⟩ := rfl

@[simp] theorem ok_bind (steps : List Step) (a : α) (next : α → Trace ε β) :
    (⟨steps, .ok a⟩ : Trace ε α) >>= next = ⟨steps ++ (next a).steps, (next a).outcome⟩ := rfl

@[simp] theorem error_bind (steps : List Step) (e : ε) (next : α → Trace ε β) :
    (⟨steps, .error e⟩ : Trace ε α) >>= next = ⟨steps, .error e⟩ := rfl

@[simp] theorem mapError_ok (f : ε → ε') (steps : List Step) (a : α) :
    (⟨steps, .ok a⟩ : Trace ε α).mapError f = ⟨steps, .ok a⟩ := rfl

@[simp] theorem mapError_error (f : ε → ε') (steps : List Step) (e : ε) :
    (⟨steps, .error e⟩ : Trace ε α).mapError f = ⟨steps, .error (f e)⟩ := rfl

end Trace

end ExactCalc
