import ExactCalc.Proofs.Substitution

/-!
# Renaming a bound name

A `let` may declare another name, as long as that name does not occur in its body
and stands there wherever the old one stood free. Evaluation then goes through the
same steps with the same values, only that some of them tell the new name, and
ends with the same value or the same fault. This holds in every surrounding
expression and in every scope, whether it binds one of the names, both or none.
-/

namespace ExactCalc

/-- The second step is the first, or tells `y` where the first tells `x`. -/
inductive Step.Renamed (x y : String) : Step → Step → Prop
  | same (step : Step) : Renamed x y step step
  | read (a : Fraction) : Renamed x y (.read x a) (.read y a)
  | bound (a : Fraction) : Renamed x y (.bound x a) (.bound y a)

namespace Trace

variable {α β : Type} {x y : String}

/-- The second trace has the outcome of the first, and its steps are renamed. -/
structure Renamed (x y : String) (t t' : Trace Fault α) : Prop where
  outcome : t'.outcome = t.outcome
  steps : List.Forall₂ (Step.Renamed x y) t.steps t'.steps

namespace Renamed

theorem refl (t : Trace Fault α) : t.Renamed x y t where
  outcome := rfl
  steps := List.forall₂_same.mpr fun step _ => .same step

theorem bind {t t' : Trace Fault α} {next next' : α → Trace Fault β} (h : t.Renamed x y t')
    (hnext : ∀ a, (next a).Renamed x y (next' a)) :
    (t >>= next).Renamed x y (t' >>= next') := by
  obtain ⟨steps, outcome⟩ := t
  obtain ⟨steps', outcome'⟩ := t'
  obtain ⟨houtcome, hsteps⟩ := h
  dsimp only at houtcome hsteps
  subst houtcome
  cases outcome' with
  | error fault => exact ⟨rfl, hsteps⟩
  | ok a =>
    obtain ⟨hrest, hstepsRest⟩ := hnext a
    constructor
    · exact hrest
    · exact List.rel_append hsteps hstepsRest

end Renamed

end Trace

/-! ## Names and surroundings -/

namespace Expr

/-- Every name that is read or declared somewhere in an expression. -/
def names : Expr → List String
  | number _ => []
  | name x => [x]
  | apply _ left right => left.names ++ right.names
  | letIn x value body => x :: (value.names ++ body.names)

/-- A name that occurs is free or declared: where it is read and not free, a `let` around that
place declares it. -/
theorem mem_names_iff {e : Expr} {x : String} :
    x ∈ e.names ↔ x ∈ e.freeNames ∨ x ∈ e.boundNames := by
  induction e with
  | number n => simp [names, freeNames, boundNames]
  | name y => simp [names, freeNames, boundNames]
  | apply op left right ihl ihr =>
    simp only [names, freeNames, boundNames, List.mem_append, ihl, ihr]
    exact or_or_or_comm
  | letIn y value body ihv ihb =>
    simp only [names, freeNames, boundNames, List.mem_cons, List.mem_append, List.mem_filter,
      decide_eq_true_eq, ihv, ihb]
    by_cases hxy : x = y
    · simp [hxy]
    · simp only [hxy, false_or, ne_eq, not_false_eq_true, and_true]
      exact or_or_or_comm

/-- An expression with one place left open. -/
inductive Context
  | hole
  | applyLeft (op : Operator) (left : Context) (right : Expr)
  | applyRight (op : Operator) (left : Expr) (right : Context)
  | letValue (x : String) (value : Context) (body : Expr)
  | letBody (x : String) (value : Expr) (body : Context)

namespace Context

/-- Puts an expression into the open place, where the surroundings may bind names that it reads. -/
def fill (e : Expr) : Context → Expr
  | hole => e
  | applyLeft op left right => .apply op (left.fill e) right
  | applyRight op left right => .apply op left (right.fill e)
  | letValue x value body => .letIn x (value.fill e) body
  | letBody x value body => .letIn x value (body.fill e)

/-- What one place does in every scope, its surroundings do. -/
theorem renamed_fill {x y : String} {e e' : Expr}
    (h : ∀ scope, (e.eval scope).Renamed x y (e'.eval scope)) (c : Context) (scope : Scope) :
    ((c.fill e).eval scope).Renamed x y ((c.fill e').eval scope) := by
  induction c generalizing scope with
  | hole => exact h scope
  | applyLeft op left right ih =>
    rw [fill, fill, eval, eval]
    exact (ih scope).bind fun a => .refl _
  | applyRight op left right ih =>
    rw [fill, fill, eval, eval]
    exact (Trace.Renamed.refl _).bind fun a => (ih scope).bind fun b => .refl _
  | letValue z value body ih =>
    rw [fill, fill, eval, eval]
    exact (ih scope).bind fun a => .refl _
  | letBody z value body ih =>
    rw [fill, fill, eval, eval]
    exact (Trace.Renamed.refl _).bind fun a => (Trace.Renamed.refl _).bind fun _ => ih _

end Context

/-! ## Evaluation under another name -/

/-- Reading `y` in place of `x` takes the same steps, one for one, in scopes that give both names
one value. -/
theorem renamed_substitute {x y : String} {b : Expr} {a : Fraction} {inner outer : Scope}
    (h : Shares x (.name y) a inner outer) (hy : y ∉ b.boundNames) :
    (b.eval inner).Renamed x y ((b.substitute x (.name y)).eval outer) := by
  induction b generalizing inner outer with
  | number n => exact .refl _
  | name z =>
    rw [substitute]
    split_ifs with hz
    · subst hz
      have hvalue : outer.lookup? y = some a := by
        have hread := h.value
        rw [outcome_name] at hread
        cases hlookup : outer.lookup? y with
        | none => simp [hlookup] at hread
        | some value =>
          simp only [hlookup, Except.ok.injEq] at hread
          rw [hread]
      rw [eval, eval, Trace.read, Trace.read, h.here, hvalue]
      exact ⟨rfl, .cons (.read a) .nil⟩
    · rw [eval, eval, Trace.read, Trace.read, h.elsewhere z hz]
      exact .refl _
  | apply op left right ihl ihr =>
    simp only [boundNames, List.mem_append, not_or] at hy
    rw [substitute, eval, eval]
    exact (ihl h hy.1).bind fun v => (ihr h hy.2).bind fun w => .refl _
  | letIn z value body ihv ihb =>
    simp only [boundNames, List.mem_cons, List.mem_append, not_or] at hy
    obtain ⟨hyz, hyv, hyb⟩ := hy
    rw [substitute, eval, eval]
    refine (ihv h hyv).bind fun w => (Trace.Renamed.refl _).bind fun _ => ?_
    split_ifs with hz
    · -- The body declares `x` itself, and reads no name on which the scopes differ.
      subst hz
      rw [eval_congr fun u _ => h.lookup?_bind_self w u]
      exact .refl _
    · refine ihb (h.bind hz ?_ w) hyb
      simpa [freeNames] using Ne.symm hyz

theorem renamed_letIn {x y : String} (v : Expr) {b : Expr} (hy : y ∉ b.names) (scope : Scope) :
    ((letIn x v b).eval scope).Renamed x y
      ((letIn y v (b.substitute x (.name y))).eval scope) := by
  rw [mem_names_iff, not_or] at hy
  obtain ⟨hfree, hbound⟩ := hy
  rw [eval, eval]
  refine (Trace.Renamed.refl _).bind fun a => Trace.Renamed.bind ?_ fun _ => ?_
  · exact ⟨rfl, .cons (.bound a) .nil⟩
  · -- A frame for `y` further out is not noticed by the old body.
    have hshares : Shares x (.name y) a ((scope.bind y a).bind x a) (scope.bind y a) := by
      refine .ofBind ?_
      simp [outcome_name]
    have hbody : b.eval ((scope.bind y a).bind x a) = b.eval (scope.bind x a) := by
      refine eval_congr fun z hz => ?_
      have hzy : y ≠ z := by
        rintro rfl
        exact hfree hz
      simp [hzy]
    rw [← hbody]
    exact renamed_substitute hshares hbound

/-- A `let` that declares a name not occurring in its body instead of its own has, wherever it
stands, the same outcome and as many steps, each of them the same but for the name. -/
theorem eval_renamed_let (c : Context) (x y : String) (v b : Expr) (hy : y ∉ b.names)
    (scope : Scope) :
    let run := (c.fill (letIn x v b)).eval scope
    let run' := (c.fill (letIn y v (b.substitute x (.name y)))).eval scope
    run'.outcome = run.outcome ∧ run'.steps.length = run.steps.length ∧
      List.Forall₂ (Step.Renamed x y) run.steps run'.steps := by
  intro run run'
  have h : run.Renamed x y run' := c.renamed_fill (renamed_letIn v hy) scope
  exact ⟨h.outcome, h.steps.length_eq.symm, h.steps⟩

/-- Both names are bound outside, the body declares the old one again, and the new one is read next
to the `let`. -/
theorem eval_renamed_let_shadowed :
    let b := letIn "x" (.name "x") (apply .mult (.name "x") (.name "x"))
    let scope : Scope := [⟨"x", .ofInt 3⟩, ⟨"y", .ofInt 5⟩]
    let run := (apply .add (letIn "x" (.number 2) b) (.name "y")).eval scope
    let run' := (apply .add (letIn "y" (.number 2) (letIn "x" (.name "y")
      (apply .mult (.name "x") (.name "x")))) (.name "y")).eval scope
    "y" ∉ b.names ∧ run.outcome = .ok (.ofInt 9) ∧ run'.outcome = run.outcome ∧
      run'.steps.length = run.steps.length := by
  intro b scope run run'
  have hy : "y" ∉ b.names := by decide
  obtain ⟨houtcome, hlength, -⟩ := eval_renamed_let (.applyLeft .add .hole (.name "y")) "x" "y"
    (.number 2) b hy scope
  exact ⟨hy, by rfl, houtcome, hlength⟩

end Expr

end ExactCalc
