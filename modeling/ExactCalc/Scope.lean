import ExactCalc.Entries
import ExactCalc.Fraction

/-!
# Scopes

A scope is a chain of frames, the innermost first. Each frame binds one name, and
an inner frame hides an outer one of the same name.
-/

namespace ExactCalc

structure Frame where
  name : String
  value : Fraction
  deriving DecidableEq, Repr

abbrev Scope := List Frame

namespace Scope

def bind (scope : Scope) (name : String) (value : Fraction) : Scope := ⟨name, value⟩ :: scope

/-- The value that the innermost frame of that name binds. -/
def lookup? (scope : Scope) (name : String) : Option Fraction :=
  (scope.find? (·.name == name)).map (·.value)

@[simp] theorem lookup?_nil (name : String) : lookup? [] name = none := rfl

@[simp] theorem lookup?_bind (scope : Scope) (x name : String) (value : Fraction) :
    (scope.bind x value).lookup? name = if x = name then some value else scope.lookup? name := by
  by_cases h : x = name <;> simp [lookup?, bind, h]

/-- One frame for each variable, the first of them outermost. -/
def ofBindings (bindings : Entries Int) : Scope :=
  bindings.foldl (fun scope entry => scope.bind entry.1 (.ofInt entry.2)) []

end Scope

end ExactCalc
