import ExactCalc.Proofs.Meaning
import ExactCalc.Proofs.NamedEntries

/-!
# Adding bindings

Two evaluations of an expression go side by side as long as the second scope gives
the names that the first one resolves the same values. They differ only from the
place on where the first stops at a name that only the second scope knows. So an
evaluation that does not stop at a name is not disturbed by further bindings, one
that does is continued, and neither the order of the variables nor names that do
not occur free matter to a calculation.
-/

namespace ExactCalc

namespace Trace

variable {α β : Type} {missing : String → Prop}

/-- The second trace is the first, or the first stopped at a missing name and the second begins
with the steps of the first. -/
def Continues (missing : String → Prop) (t t' : Trace Fault α) : Prop :=
  t' = t ∨ ∃ x, missing x ∧ t.outcome = .error (.unbound x) ∧ t.steps <+: t'.steps

theorem Continues.mono {missing' : String → Prop} {t t' : Trace Fault α}
    (h : t.Continues missing t') (himp : ∀ x, missing x → missing' x) :
    t.Continues missing' t' := by
  rcases h with heq | ⟨x, hx, hstop, hsteps⟩
  · exact .inl heq
  · exact .inr ⟨x, himp x hx, hstop, hsteps⟩

theorem steps_prefix_bind {ε : Type} (t : Trace ε α) (next : α → Trace ε β) :
    t.steps <+: (t >>= next).steps := by
  obtain ⟨steps, outcome⟩ := t
  cases outcome with
  | error e => exact List.prefix_rfl
  | ok a => exact List.prefix_append _ _

theorem Continues.bind {t t' : Trace Fault α} {next next' : α → Trace Fault β}
    (h : t.Continues missing t')
    (hnext : ∀ a, (next a).Continues missing (next' a)) :
    (t >>= next).Continues missing (t' >>= next') := by
  rcases h with rfl | ⟨x, hx, hstop, hsteps⟩
  · obtain ⟨steps, outcome⟩ := t'
    cases outcome with
    | error e => exact .inl rfl
    | ok a =>
      rcases hnext a with heq | ⟨x, hx, hstop, hsteps⟩
      · exact .inl (by rw [ok_bind, ok_bind, heq])
      · exact .inr ⟨x, hx, hstop, (List.prefix_append_right_inj steps).mpr hsteps⟩
  · obtain ⟨steps, outcome⟩ := t
    subst hstop
    exact .inr ⟨x, hx, rfl, hsteps.trans (t'.steps_prefix_bind next')⟩

end Trace

/-! ## Scopes -/

namespace Scope

/-- What the first scope resolves of these names, the second resolves to the same value. -/
def Provides (scope' scope : Scope) (names : List String) : Prop :=
  ∀ x ∈ names, ∀ value, scope.lookup? x = some value → scope'.lookup? x = some value

/-- One of these names that only the second scope resolves. -/
def Gains (scope' scope : Scope) (names : List String) (x : String) : Prop :=
  x ∈ names ∧ scope.lookup? x = none ∧ scope'.lookup? x ≠ none

variable {scope scope' : Scope} {names names' : List String}

theorem Provides.subset (h : scope'.Provides scope names') (hsub : ∀ x ∈ names, x ∈ names') :
    scope'.Provides scope names :=
  fun x hx => h x (hsub x hx)

theorem Provides.bind {x : String} (h : scope'.Provides scope (names.filter (· ≠ x)))
    (value : Fraction) : (scope'.bind x value).Provides (scope.bind x value) names := by
  intro y hy value' hvalue'
  rw [lookup?_bind] at hvalue' ⊢
  split_ifs at hvalue' ⊢ with hxy
  · exact hvalue'
  · exact h y (List.mem_filter.mpr ⟨hy, by simpa using Ne.symm hxy⟩) value' hvalue'

theorem Gains.of_bind {x y : String} {value : Fraction}
    (h : (scope'.bind x value).Gains (scope.bind x value) names y) :
    scope'.Gains scope (names.filter (· ≠ x)) y := by
  obtain ⟨hy, hnone, hsome⟩ := h
  rw [lookup?_bind] at hnone hsome
  split_ifs at hnone hsome with hxy
  exact ⟨List.mem_filter.mpr ⟨hy, by simpa using Ne.symm hxy⟩, hnone, hsome⟩

end Scope

/-! ## Evaluation -/

/-- Evaluation in a scope that provides what the other resolves is the same, or goes on where the
other stops at a name that is gained. -/
theorem Expr.continues_eval (e : Expr) {scope scope' : Scope}
    (h : scope'.Provides scope e.freeNames) :
    (e.eval scope).Continues (scope'.Gains scope e.freeNames) (e.eval scope') := by
  induction e generalizing scope scope' with
  | number n => exact .inl rfl
  | name x =>
    rw [Expr.eval, Expr.eval, Trace.read, Trace.read]
    cases hx : scope.lookup? x with
    | some value => exact .inl (by rw [h x (by simp [freeNames]) value hx])
    | none =>
      cases hx' : scope'.lookup? x with
      | none => exact .inl rfl
      | some value =>
        exact .inr ⟨x, ⟨by simp [freeNames], hx, by simp [hx']⟩, rfl, List.nil_prefix⟩
  | apply op left right ihl ihr =>
    rw [Expr.eval, Expr.eval]
    have hl := ihl (h.subset fun x hx => by simp [freeNames, hx])
    have hr := ihr (h.subset fun x hx => by simp [freeNames, hx])
    refine (hl.mono ?_).bind fun a => (hr.mono ?_).bind fun b => .inl rfl
    · rintro x ⟨hx, hgain⟩
      exact ⟨by simp [freeNames, hx], hgain⟩
    · rintro x ⟨hx, hgain⟩
      exact ⟨by simp [freeNames, hx], hgain⟩
  | letIn x value body ihv ihb =>
    rw [Expr.eval, Expr.eval]
    have hv := ihv (h.subset fun y hy => by simp [freeNames, hy])
    have hb (a : Fraction) := ihb (Scope.Provides.bind
      (h.subset fun y hy => List.mem_append_right value.freeNames hy) a)
    refine (hv.mono ?_).bind fun a =>
      Trace.Continues.bind (.inl rfl) fun _ => (hb a).mono ?_
    · rintro y ⟨hy, hgain⟩
      exact ⟨by simp [freeNames, hy], hgain⟩
    · intro y hy
      obtain ⟨hmem, hgain⟩ := hy.of_bind
      exact ⟨List.mem_append_right value.freeNames hmem, hgain⟩

theorem Expr.eval_eq_of_not_unbound {e : Expr} {scope scope' : Scope}
    (h : scope'.Provides scope e.freeNames)
    (hrun : ∀ x, (e.eval scope).outcome ≠ .error (.unbound x)) : e.eval scope' = e.eval scope := by
  rcases e.continues_eval h with heq | ⟨x, -, hstop, -⟩
  · exact heq
  · exact absurd hstop (hrun x)

theorem Expr.eval_eq_of_not_gained {e : Expr} {scope scope' : Scope}
    (h : scope'.Provides scope e.freeNames) (hgain : ∀ x, ¬scope'.Gains scope e.freeNames x) :
    e.eval scope' = e.eval scope := by
  rcases e.continues_eval h with heq | ⟨x, hx, -, -⟩
  · exact heq
  · exact absurd hx (hgain x)

/-- Only what the scope gives the free names counts. -/
theorem Expr.eval_congr {e : Expr} {scope scope' : Scope}
    (h : ∀ x ∈ e.freeNames, scope'.lookup? x = scope.lookup? x) : e.eval scope' = e.eval scope := by
  apply Expr.eval_eq_of_not_gained
  · intro x hx value hvalue
    rw [h x hx, hvalue]
  · rintro x ⟨hx, hnone, hsome⟩
    exact hsome ((h x hx).trans hnone)

theorem Expr.steps_prefix_eval {e : Expr} {scope scope' : Scope}
    (h : scope'.Provides scope e.freeNames) : (e.eval scope).steps <+: (e.eval scope').steps := by
  rcases e.continues_eval h with heq | ⟨x, -, -, hsteps⟩
  · rw [heq]
  · exact hsteps

/-! ## Variables of a calculation -/

/-- The value of a variable, whatever its place among distinct names. -/
theorem Scope.lookup?_ofBindings_eq_some_iff {bindings : Entries ℤ}
    (hnodup : (bindings.map Prod.fst).Nodup) {x : String} {value : Fraction} :
    (Scope.ofBindings bindings).lookup? x = some value ↔
      ∃ n, (x, n) ∈ bindings ∧ Fraction.ofInt n = value := by
  have hreverse : (bindings.reverse.map Prod.fst).Nodup := by
    rw [List.map_reverse]
    exact List.nodup_reverse.mpr hnodup
  rw [Scope.lookup?_ofBindings, Option.map_eq_some_iff]
  simp only [Entries.lookup_eq_some_iff hreverse, List.mem_reverse]

section Variables

variable {bindings bindings' extra : Entries ℤ}

theorem Scope.provides_ofBindings (hnodup : (bindings'.map Prod.fst).Nodup)
    (hperm : bindings'.Perm (bindings ++ extra)) (names : List String) :
    (Scope.ofBindings bindings').Provides (Scope.ofBindings bindings) names := by
  have hsub : (bindings.map Prod.fst).Nodup := by
    have hall := (hperm.map Prod.fst).nodup_iff.mp hnodup
    rw [List.map_append] at hall
    exact (List.nodup_append.mp hall).1
  intro x _ value hvalue
  obtain ⟨n, hmem, hn⟩ := (Scope.lookup?_ofBindings_eq_some_iff hsub).mp hvalue
  exact (Scope.lookup?_ofBindings_eq_some_iff hnodup).mpr
    ⟨n, hperm.mem_iff.mpr (List.mem_append_left extra hmem), hn⟩

/-- A name that is gained is one of those that were added. -/
theorem Scope.mem_extra_of_gains (hnodup : (bindings'.map Prod.fst).Nodup)
    (hperm : bindings'.Perm (bindings ++ extra)) {names : List String} {x : String}
    (h : (Scope.ofBindings bindings').Gains (Scope.ofBindings bindings) names x) :
    ∃ n, (x, n) ∈ extra := by
  obtain ⟨-, hnone, hsome⟩ := h
  obtain ⟨value, hvalue⟩ := Option.ne_none_iff_exists'.mp hsome
  obtain ⟨n, hmem, -⟩ := (Scope.lookup?_ofBindings_eq_some_iff hnodup).mp hvalue
  rcases List.mem_append.mp (hperm.mem_iff.mp hmem) with hmem | hmem
  · have hlookup : bindings.reverse.lookup x = none := by
      simpa [Scope.lookup?_ofBindings] using hnone
    rw [List.lookup_eq_none_iff] at hlookup
    exact absurd (hlookup (x, n) (List.mem_reverse.mpr hmem)) (by simp)
  · exact ⟨n, hmem⟩

end Variables

theorem Calculator.evaluate_eq_of_eval {calculator : Calculator} {text : String}
    {bindings bindings' : Entries ℤ}
    (h : ∀ e, Expr.ofText calculator.limit text = .ok e →
      e.eval (Scope.ofBindings bindings') = e.eval (Scope.ofBindings bindings)) :
    calculator.evaluate bindings' text = calculator.evaluate bindings text := by
  rw [Calculator.evaluate, Calculator.evaluate]
  cases hread : Expr.ofText calculator.limit text with
  | error r => rfl
  | ok e => dsimp only; rw [h e hread]

/-- An evaluation that ends with a value or a division by zero stays the same in every scope that
provides what it resolved, and one that stops at a name keeps its steps. So a calculation does not
depend on the order of its variables, nor on further ones that do not occur free, and once it
succeeds on no further ones at all. -/
theorem Calculator.evaluate_added_bindings :
    (∀ (e : Expr) (scope scope' : Scope), scope'.Provides scope e.freeNames →
      ((∃ value, (e.eval scope).outcome = .ok value) ∨
          (e.eval scope).outcome = .error .divisionByZero → e.eval scope' = e.eval scope) ∧
        ∀ x, (e.eval scope).outcome = .error (.unbound x) →
          (e.eval scope).steps <+: (e.eval scope').steps) ∧
    ∀ (calculator : Calculator) (text : String) (bindings bindings' extra : Entries ℤ),
      (bindings'.map Prod.fst).Nodup → bindings'.Perm (bindings ++ extra) →
      (extra = [] → calculator.evaluate bindings' text = calculator.evaluate bindings text) ∧
      ((∀ e, Expr.ofText calculator.limit text = .ok e → ∀ x n, (x, n) ∈ extra → x ∉ e.freeNames) →
        calculator.evaluate bindings' text = calculator.evaluate bindings text) ∧
      ((calculator.evaluate bindings text).report.ok = true →
        calculator.evaluate bindings' text = calculator.evaluate bindings text) := by
  refine ⟨?_, ?_⟩
  · intro e scope scope' h
    refine ⟨fun hrun => Expr.eval_eq_of_not_unbound h ?_, fun x _ => Expr.steps_prefix_eval h⟩
    rintro x hx
    rcases hrun with ⟨value, hvalue⟩ | hdiv
    · cases hvalue.symm.trans hx
    · cases hdiv.symm.trans hx
  · intro calculator text bindings bindings' extra hnodup hperm
    have hprovides := Scope.provides_ofBindings hnodup hperm
    have hfree (h : ∀ e, Expr.ofText calculator.limit text = .ok e →
        ∀ x n, (x, n) ∈ extra → x ∉ e.freeNames) :
        calculator.evaluate bindings' text = calculator.evaluate bindings text := by
      refine Calculator.evaluate_eq_of_eval fun e hread => ?_
      refine Expr.eval_eq_of_not_gained (hprovides _) fun x hgain => ?_
      obtain ⟨n, hmem⟩ := Scope.mem_extra_of_gains hnodup hperm hgain
      exact h e hread x n hmem hgain.1
    refine ⟨?_, hfree, ?_⟩
    · rintro rfl
      exact hfree (by simp)
    · intro hok
      refine Calculator.evaluate_eq_of_eval fun e hread => ?_
      refine Expr.eval_eq_of_not_unbound (hprovides _) fun x hx => ?_
      simp [Calculator.evaluate, hread, Calculation.report, hx, Except.mapError] at hok

/-- A variable that is not used is put between two that are, and a sum that stops at its second
name is continued. -/
theorem Calculator.evaluate_added_bindings_reordered :
    ((⟨1⟩ : Calculator).evaluate [("x", 1), ("y", 2)] "add(x, y)").report.ok = true ∧
      (⟨1⟩ : Calculator).evaluate [("y", 2), ("z", 9), ("x", 1)] "add(x, y)" =
        (⟨1⟩ : Calculator).evaluate [("x", 1), ("y", 2)] "add(x, y)" ∧
      ((Expr.apply .add (.name "x") (.name "y")).eval [⟨"x", .ofInt 1⟩]).outcome =
        .error (.unbound "y") ∧
      ((Expr.apply .add (.name "x") (.name "y")).eval [⟨"x", .ofInt 1⟩]).steps <+:
        ((Expr.apply .add (.name "x") (.name "y")).eval
          [⟨"y", .ofInt 2⟩, ⟨"x", .ofInt 1⟩]).steps := by
  obtain ⟨hscope, hvariables⟩ := Calculator.evaluate_added_bindings
  have hok : ((⟨1⟩ : Calculator).evaluate [("x", 1), ("y", 2)] "add(x, y)").report.ok = true := by
    cbv
  have hprovides : Scope.Provides [⟨"y", .ofInt 2⟩, ⟨"x", .ofInt 1⟩] [⟨"x", .ofInt 1⟩]
      (Expr.apply .add (.name "x") (.name "y")).freeNames := by
    intro x hx value hvalue
    simp only [Expr.freeNames, List.singleton_append, List.mem_cons, List.not_mem_nil,
      or_false] at hx
    rcases hx with rfl | rfl
    · exact hvalue
    · cases hvalue
  refine ⟨hok, ?_, rfl, (hscope _ _ _ hprovides).2 "y" rfl⟩
  exact (hvariables ⟨1⟩ "add(x, y)" [("x", 1), ("y", 2)] [("y", 2), ("z", 9), ("x", 1)]
    [("z", 9)] (by decide) (by decide)).2.2 hok

end ExactCalc
