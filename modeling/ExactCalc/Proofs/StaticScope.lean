import ExactCalc.Proofs.Meaning

/-!
# Free names and the scope

Which names an evaluation can find missing is known from the text of the
expression. An evaluation that succeeds has found every free name, and one that
stops at a name stops at the first free name, in the order of evaluation, that no
frame of the scope binds. So nothing is missing where all free names are bound; a
division by zero may still come first.
-/

namespace ExactCalc

namespace Scope

variable {scope : Scope} {x : String} {names : List String}

/-- A frame of the chain, innermost or not, binds the name. -/
def Binds (scope : Scope) (x : String) : Prop := ∃ frame ∈ scope, frame.name = x

theorem lookup?_eq_none_iff : scope.lookup? x = none ↔ ¬scope.Binds x := by
  unfold lookup? Binds
  simp

/-- The first of the names that is not bound. -/
def firstMissing (scope : Scope) (names : List String) : Option String :=
  names.find? fun x => (scope.lookup? x).isNone

theorem firstMissing_append (names names' : List String) :
    scope.firstMissing (names ++ names') =
      (scope.firstMissing names).or (scope.firstMissing names') := by
  unfold firstMissing
  rw [List.find?_append]

/-- What a further frame binds is not missing, and it hides nothing else. -/
theorem firstMissing_bind (x : String) (a : Fraction) (names : List String) :
    (scope.bind x a).firstMissing names = scope.firstMissing (names.filter (· ≠ x)) := by
  unfold firstMissing
  rw [List.find?_filter]
  congr 1
  funext y
  by_cases hy : y = x
  · simp [hy]
  · cases hlookup : scope.lookup? y with
    | none => simp [hy, Ne.symm hy, hlookup]
    | some b => simp [hy, Ne.symm hy, hlookup]

theorem firstMissing_eq_none_iff :
    scope.firstMissing names = none ↔ ∀ x ∈ names, scope.Binds x := by
  unfold firstMissing
  simp only [List.find?_eq_none, Option.isNone_iff_eq_none, lookup?_eq_none_iff, not_not]

theorem of_firstMissing_eq_some (h : scope.firstMissing names = some x) :
    x ∈ names ∧ ¬scope.Binds x := by
  unfold firstMissing at h
  constructor
  · exact List.mem_of_find?_eq_some h
  · have hnone := List.find?_some h
    rwa [Option.isNone_iff_eq_none, lookup?_eq_none_iff] at hnone

end Scope

/-! ## What an outcome tells about names -/

/-- The outcome fits a part of the expression of whose names `missing` is the first that is not
bound. A division by zero fits always, since it may come before that name is reached. -/
def Reveals (missing : Option String) : Except Fault Fraction → Prop
  | .ok _ => missing = none
  | .error (.unbound x) => missing = some x
  | .error .divisionByZero => True

/-- Of two parts that are evaluated one after the other, the second counts only when nothing is
missing in the first. -/
theorem Reveals.bind {missing missing' : Option String} {outcome : Except Fault Fraction}
    {next : Fraction → Except Fault Fraction} (h : Reveals missing outcome)
    (hnext : ∀ a, Reveals missing' (next a)) :
    Reveals (missing.or missing') (outcome >>= next) := by
  cases outcome with
  | ok a =>
    unfold Reveals at h
    rw [h, Option.none_or]
    exact hnext a
  | error fault =>
    cases fault with
    | unbound x =>
      unfold Reveals at h
      rw [h, Option.some_or]
      exact rfl
    | divisionByZero => trivial

theorem Trace.reveals_compute (op : Operator) (a b : Fraction) :
    Reveals none (Trace.compute op a b).outcome := by
  unfold Trace.compute
  cases op.apply? a b with
  | none => trivial
  | some result => exact rfl

namespace Expr

/-- An evaluation that stops at a name stops at the first free one that is missing, and one that
succeeds misses none. -/
theorem reveals_eval (e : Expr) (scope : Scope) :
    Reveals (scope.firstMissing e.freeNames) (e.eval scope).outcome := by
  induction e generalizing scope with
  | number n => exact rfl
  | name x =>
    rw [outcome_name]
    unfold freeNames Scope.firstMissing
    cases hx : scope.lookup? x with
    | none => simp [Reveals, hx]
    | some a => simp [Reveals, hx]
  | apply op left right ihl ihr =>
    rw [outcome_apply, freeNames, Scope.firstMissing_append]
    refine (ihl scope).bind ?_
    intro a
    -- The operation itself reads no name.
    have hr := (ihr scope).bind (Trace.reveals_compute op a)
    rwa [Option.or_none] at hr
  | letIn x value body ihv ihb =>
    rw [outcome_letIn, freeNames, Scope.firstMissing_append]
    refine (ihv scope).bind ?_
    intro a
    rw [← Scope.firstMissing_bind]
    exact ihb (scope.bind x a)

/-- When the scope resolves every free name, evaluation does not stop at a name; a name at which it
stops is free and bound by no frame; and when it succeeds, every free name is bound. -/
theorem eval_static_scope (e : Expr) (scope : Scope) :
    ((∀ x ∈ e.freeNames, ∃ a, scope.lookup? x = some a) →
        ∀ x, (e.eval scope).outcome ≠ .error (.unbound x)) ∧
      (∀ x, (e.eval scope).outcome = .error (.unbound x) →
        x ∈ e.freeNames ∧ ¬scope.Binds x) ∧
      ∀ a, (e.eval scope).outcome = .ok a → ∀ x ∈ e.freeNames, scope.Binds x := by
  have h := e.reveals_eval scope
  have hmissing : ∀ x, (e.eval scope).outcome = .error (.unbound x) →
      x ∈ e.freeNames ∧ ¬scope.Binds x := by
    intro x hx
    rw [hx] at h
    exact Scope.of_firstMissing_eq_some h
  refine ⟨?_, hmissing, ?_⟩
  · intro hresolved x hx
    obtain ⟨hfree, hunbound⟩ := hmissing x hx
    obtain ⟨a, ha⟩ := hresolved x hfree
    rw [Scope.lookup?_eq_none_iff.mpr hunbound] at ha
    cases ha
  · intro a ha
    rw [ha] at h
    exact Scope.firstMissing_eq_none_iff.mp h

/-- The name that a `let` binds is read behind it, where only the outer scope counts. -/
theorem eval_static_scope_leak :
    ((apply .add (letIn "x" (.number 1) (.name "x")) (.name "x")).eval []).outcome =
        .error (.unbound "x") ∧
      "x" ∈ (apply .add (letIn "x" (.number 1) (.name "x")) (.name "x")).freeNames ∧
      ¬Scope.Binds [] "x" ∧
      (∀ y, ((apply .add (letIn "x" (.number 1) (.name "x")) (.name "x")).eval
        [⟨"x", .ofInt 2⟩]).outcome ≠ .error (.unbound y)) ∧
      Scope.Binds [⟨"x", .ofInt 2⟩] "x" := by
  obtain ⟨-, hmissing, -⟩ :=
    eval_static_scope (apply .add (letIn "x" (.number 1) (.name "x")) (.name "x")) []
  obtain ⟨hresolved, -, hbound⟩ :=
    eval_static_scope (apply .add (letIn "x" (.number 1) (.name "x")) (.name "x"))
      [⟨"x", .ofInt 2⟩]
  have hstop : ((apply .add (letIn "x" (.number 1) (.name "x")) (.name "x")).eval []).outcome =
      .error (.unbound "x") := by rfl
  obtain ⟨hfree, hunbound⟩ := hmissing "x" hstop
  refine ⟨hstop, hfree, hunbound, hresolved ?_, hbound (.ofInt 3) (by rfl) "x" hfree⟩
  intro y hy
  obtain rfl : y = "x" := by simpa [freeNames] using hy
  exact ⟨.ofInt 2, by rfl⟩

end Expr

end ExactCalc
