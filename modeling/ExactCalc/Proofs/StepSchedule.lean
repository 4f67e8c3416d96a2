import ExactCalc.Proofs.Meaning

/-!
# The steps of an evaluation

An expression calls for a step at every name that it reads, every operation and
every `let`, in an order that is known beforehand: its schedule. An evaluation goes
through the schedule. It records the whole of it when it succeeds; otherwise it
breaks off at the action that meets the fault, and has recorded exactly the actions
before that one. The texts of the steps may as well be written into one list that
all parts of the evaluation share, whatever the list held before.
-/

namespace ExactCalc

/-- A step that an expression calls for, before any value is known. -/
inductive Action
  | read (name : String)
  | compute (op : Operator)
  | bind (name : String)
  deriving DecidableEq, Repr

def Step.action : Step → Action
  | read name _ => .read name
  | computed op _ _ _ => .compute op
  | bound name _ => .bind name

/-- The fault that can come up in an action. -/
inductive Action.Meets : Action → Fault → Prop
  | unbound (x : String) : Meets (.read x) (.unbound x)
  | divisionByZero : Meets (.compute .div) .divisionByZero

namespace Expr

/-- The actions of an expression in the order of evaluation. -/
def schedule : Expr → List Action
  | number _ => []
  | name x => [.read x]
  | apply op left right => left.schedule ++ (right.schedule ++ [.compute op])
  | letIn x value body => value.schedule ++ (.bind x :: body.schedule)

/-- How many names are read, operations carried out and names bound in an expression. -/
def stepCount : Expr → ℕ
  | number _ => 0
  | name _ => 1
  | apply _ left right => left.stepCount + right.stepCount + 1
  | letIn _ value body => value.stepCount + body.stepCount + 1

theorem length_schedule (e : Expr) : e.schedule.length = e.stepCount := by
  induction e with
  | number n => rfl
  | name x => rfl
  | apply op left right ihl ihr =>
    simp only [schedule, stepCount, List.length_append, List.length_cons, List.length_nil, ihl, ihr]
    omega
  | letIn x value body ihv ihb =>
    simp only [schedule, stepCount, List.length_append, List.length_cons, ihv, ihb]
    omega

end Expr

/-! ## Following a schedule -/

namespace Trace

variable {α β : Type}

/-- The trace has recorded all actions, or those before an action that meets its fault. -/
def Follows (t : Trace Fault α) (actions : List Action) : Prop :=
  match t.outcome with
  | .ok _ => t.steps.map Step.action = actions
  | .error fault =>
    ∃ action rest, actions = t.steps.map Step.action ++ action :: rest ∧ action.Meets fault

theorem Follows.bind {t : Trace Fault α} {next : α → Trace Fault β}
    {actions actions' : List Action} (h : t.Follows actions)
    (hnext : ∀ a, (next a).Follows actions') : (t >>= next).Follows (actions ++ actions') := by
  obtain ⟨steps, outcome⟩ := t
  cases outcome with
  | error fault =>
    obtain ⟨action, rest, hactions, hmeets⟩ := h
    rw [error_bind]
    refine ⟨action, rest ++ actions', ?_, hmeets⟩
    rw [hactions, List.append_assoc, List.cons_append]
  | ok a =>
    -- The first part is complete, so its actions are the front of the joint schedule.
    unfold Follows at h
    subst h
    have hrest := hnext a
    rw [ok_bind]
    unfold Follows at hrest ⊢
    dsimp only
    cases hout : (next a).outcome with
    | ok b =>
      rw [hout] at hrest
      rw [List.map_append, hrest]
    | error fault =>
      rw [hout] at hrest
      obtain ⟨action, rest, hactions, hmeets⟩ := hrest
      refine ⟨action, rest, ?_, hmeets⟩
      rw [hactions, List.map_append, List.append_assoc]

theorem follows_read (scope : Scope) (x : String) : (read scope x).Follows [.read x] := by
  unfold read
  cases scope.lookup? x with
  | none => exact ⟨.read x, [], rfl, .unbound x⟩
  | some a => exact rfl

theorem follows_compute (op : Operator) (a b : Fraction) :
    (compute op a b).Follows [.compute op] := by
  unfold compute
  cases h : op.apply? a b with
  | some result => exact rfl
  | none =>
    -- Only a division can be refused.
    obtain ⟨-, rfl, -⟩ | ⟨result, hresult, -⟩ := op.apply?_exact a b
    · exact ⟨.compute .div, [], rfl, .divisionByZero⟩
    · cases h.symm.trans hresult

end Trace

namespace Expr

theorem follows_eval (e : Expr) (scope : Scope) : (e.eval scope).Follows e.schedule := by
  induction e generalizing scope with
  | number n => exact rfl
  | name x => exact Trace.follows_read scope x
  | apply op left right ihl ihr =>
    rw [eval, schedule]
    exact (ihl scope).bind fun a => (ihr scope).bind fun b => Trace.follows_compute op a b
  | letIn x value body ihv ihb =>
    rw [eval, schedule]
    refine (ihv scope).bind ?_
    intro a
    have hrecord : (Trace.record (.bound x a) : Trace Fault Unit).Follows [.bind x] := rfl
    exact hrecord.bind fun _ => ihb (scope.bind x a)

theorem length_steps_of_ok {e : Expr} {scope : Scope} {a : Fraction}
    (h : (e.eval scope).outcome = .ok a) : (e.eval scope).steps.length = e.stepCount := by
  have hfollows := e.follows_eval scope
  unfold Trace.Follows at hfollows
  rw [h] at hfollows
  rw [← length_schedule, ← hfollows, List.length_map]

/-- The recorded actions and the one that meets the fault are next to each other in the schedule. -/
theorem exists_action_of_error {e : Expr} {scope : Scope} {fault : Fault}
    (h : (e.eval scope).outcome = .error fault) :
    ∃ action rest, e.schedule = (e.eval scope).steps.map Step.action ++ action :: rest ∧
      action.Meets fault := by
  have hfollows := e.follows_eval scope
  unfold Trace.Follows at hfollows
  rwa [h] at hfollows

theorem length_steps_of_error {e : Expr} {scope : Scope} {fault : Fault}
    (h : (e.eval scope).outcome = .error fault) : (e.eval scope).steps.length < e.stepCount := by
  obtain ⟨action, rest, hactions, -⟩ := exists_action_of_error h
  rw [← length_schedule, hactions, List.length_append, List.length_map, List.length_cons]
  omega

end Expr

/-! ## Texts -/

namespace Trace

variable {ε α β : Type}

/-- What a trace shows of its steps. -/
def texts (t : Trace ε α) : List String := t.steps.map Step.text

/-- Steps are added behind those that are there, and none once a computation has stopped. -/
theorem texts_bind (t : Trace ε α) (next : α → Trace ε β) :
    (t >>= next).texts = t.texts ++
      match t.outcome with
      | .error _ => []
      | .ok a => (next a).texts := by
  obtain ⟨steps, outcome⟩ := t
  unfold texts
  cases outcome with
  | error e => rw [error_bind, List.append_nil]
  | ok a => rw [ok_bind, List.map_append]

theorem texts_compute (op : Operator) (a b : Fraction) :
    (compute op a b).texts =
      match op.apply? a b with
      | none => []
      | some c => [s!"{op.keyword}({a.text}, {b.text}) = {c.text}"] := by
  unfold compute
  cases op.apply? a b with
  | none => rfl
  | some c => rfl

end Trace

namespace Expr

theorem texts_apply (op : Operator) (left right : Expr) (scope : Scope) :
    ((apply op left right).eval scope).texts =
      (left.eval scope).texts ++
        match (left.eval scope).outcome with
        | .error _ => []
        | .ok a => (right.eval scope).texts ++
          match (right.eval scope).outcome with
          | .error _ => []
          | .ok b =>
            match op.apply? a b with
            | none => []
            | some c => [s!"{op.keyword}({a.text}, {b.text}) = {c.text}"] := by
  rw [eval, Trace.texts_bind]
  cases (left.eval scope).outcome with
  | error fault => rfl
  | ok a =>
    dsimp only
    rw [Trace.texts_bind]
    cases (right.eval scope).outcome with
    | error fault => rfl
    | ok b =>
      dsimp only
      rw [Trace.texts_compute]

theorem texts_letIn (x : String) (value body : Expr) (scope : Scope) :
    ((letIn x value body).eval scope).texts =
      (value.eval scope).texts ++
        match (value.eval scope).outcome with
        | .error _ => []
        | .ok a => s!"let {x} = {a.text}" :: (body.eval (scope.bind x a)).texts := by
  rw [eval, Trace.texts_bind]
  cases (value.eval scope).outcome with
  | error fault => rfl
  | ok a => rfl

end Expr

/-! ## One list for all parts -/

/-- A computation that writes into a list of texts, and leaves there what it wrote when it
stops. -/
abbrev Ledger := ExceptT Fault (StateM (List String))

namespace Ledger

variable {α β : Type}

def write (text : String) : Ledger Unit := modify (· ++ [text])

/-- Whatever the list holds, the computation adds the texts of the steps behind it. -/
def Writes (program : Ledger α) (t : Trace Fault α) : Prop :=
  ∀ log, program.run.run log = (t.outcome, log ++ t.texts)

theorem writes_pure (a : α) : Writes (pure a) (pure a) := by
  intro log
  rw [Trace.texts, Trace.pure_eq, List.map_nil, List.append_nil]
  rfl

theorem writes_throw (fault : Fault) : Writes (throw fault) (Trace.stop fault : Trace Fault α) := by
  intro log
  rw [Trace.texts, Trace.stop, List.map_nil, List.append_nil]
  rfl

theorem writes_write (step : Step) : Writes (write step.text) (Trace.record step) := by
  intro log
  rfl

theorem Writes.bind {program : Ledger α} {next : α → Ledger β} {t : Trace Fault α}
    {next' : α → Trace Fault β} (h : Writes program t) (hnext : ∀ a, Writes (next a) (next' a)) :
    Writes (program >>= next) (t >>= next') := by
  intro log
  rw [ExceptT.run_bind, StateT.run_bind, h log, Trace.outcome_bind, Trace.texts_bind]
  cases t.outcome with
  | error fault => rw [List.append_nil]; rfl
  | ok a =>
    rw [← List.append_assoc]
    exact hnext a (log ++ t.texts)

end Ledger

/-- Evaluation into a shared list. -/
def Expr.evalInto (scope : Scope) : Expr → Ledger Fraction
  | number n => return .ofInt n
  | name x => do
    match scope.lookup? x with
    | none => throw (.unbound x)
    | some value =>
      Ledger.write s!"{x} = {value.text}"
      return value
  | apply op left right => do
    let a ← left.evalInto scope
    let b ← right.evalInto scope
    match op.apply? a b with
    | none => throw .divisionByZero
    | some result =>
      Ledger.write s!"{op.keyword}({a.text}, {b.text}) = {result.text}"
      return result
  | letIn x value body => do
    let a ← value.evalInto scope
    Ledger.write s!"let {x} = {a.text}"
    body.evalInto (scope.bind x a)

theorem Expr.writes_evalInto (e : Expr) (scope : Scope) :
    Ledger.Writes (e.evalInto scope) (e.eval scope) := by
  induction e generalizing scope with
  | number n => exact Ledger.writes_pure _
  | name x =>
    rw [evalInto, eval, Trace.read]
    cases scope.lookup? x with
    | none => exact Ledger.writes_throw (.unbound x)
    | some a => exact (Ledger.writes_write (.read x a)).bind fun _ => Ledger.writes_pure a
  | apply op left right ihl ihr =>
    rw [evalInto, eval]
    refine (ihl scope).bind fun a => (ihr scope).bind fun b => ?_
    unfold Trace.compute
    cases op.apply? a b with
    | none => exact Ledger.writes_throw .divisionByZero
    | some c =>
      exact (Ledger.writes_write (.computed op a b c)).bind fun _ => Ledger.writes_pure c
  | letIn x value body ihv ihb =>
    rw [evalInto, eval]
    refine (ihv scope).bind fun a => ?_
    exact (Ledger.writes_write (.bound x a)).bind fun _ => ihb (scope.bind x a)

namespace Expr

/-- An evaluation succeeds exactly when there is a step for every name read, every operation and
every `let`. One that fails has fewer: those of the actions before the one that meets the fault. An
operation adds its step behind those of its operands, a `let` between those of its value and those
of its body, and neither adds anything once a part has failed. All this is the same when the parts
write into one list, which keeps what it held. -/
theorem eval_steps_complete :
    (∀ (e : Expr) (scope : Scope),
      ((∃ a, (e.eval scope).outcome = .ok a) ↔ (e.eval scope).steps.length = e.stepCount) ∧
      ∀ fault, (e.eval scope).outcome = .error fault →
        (e.eval scope).steps.length < e.stepCount ∧
        ∃ action rest, e.schedule = (e.eval scope).steps.map Step.action ++ action :: rest ∧
          action.Meets fault) ∧
    (∀ (op : Operator) (left right : Expr) (scope : Scope),
      ((apply op left right).eval scope).texts =
        (left.eval scope).texts ++
          match (left.eval scope).outcome with
          | .error _ => []
          | .ok a => (right.eval scope).texts ++
            match (right.eval scope).outcome with
            | .error _ => []
            | .ok b =>
              match op.apply? a b with
              | none => []
              | some c => [s!"{op.keyword}({a.text}, {b.text}) = {c.text}"]) ∧
    (∀ (x : String) (value body : Expr) (scope : Scope),
      ((letIn x value body).eval scope).texts =
        (value.eval scope).texts ++
          match (value.eval scope).outcome with
          | .error _ => []
          | .ok a => s!"let {x} = {a.text}" :: (body.eval (scope.bind x a)).texts) ∧
    ∀ (e : Expr) (scope : Scope) (log : List String),
      (e.evalInto scope).run.run log = ((e.eval scope).outcome, log ++ (e.eval scope).texts) := by
  refine ⟨?_, texts_apply, texts_letIn, writes_evalInto⟩
  intro e scope
  refine ⟨⟨?_, ?_⟩, ?_⟩
  · rintro ⟨a, ha⟩
    exact length_steps_of_ok ha
  · intro hlength
    cases h : (e.eval scope).outcome with
    | ok a => exact ⟨a, rfl⟩
    | error fault => exact absurd hlength (length_steps_of_error h).ne
  · intro fault h
    exact ⟨length_steps_of_error h, exists_action_of_error h⟩

/-- The divisor of the second operand is zero: five of seven steps are recorded, and the list keeps
its first entry. -/
theorem eval_steps_complete_broken :
    let e := apply .add (.name "x") (apply .div (.name "y") (apply .sub (.name "x") (.name "x")))
    let scope : Scope := [⟨"y", .ofInt 4⟩, ⟨"x", .ofInt 3⟩]
    (e.eval scope).outcome = .error .divisionByZero ∧ e.stepCount = 7 ∧
      (e.eval scope).steps.length < 7 ∧
      (e.evalInto scope).run.run ["Start"] = (.error .divisionByZero,
        ["Start", "x = 3", "y = 4", "x = 3", "x = 3", "sub(3, 3) = 0"]) := by
  intro e scope
  have hfault : (e.eval scope).outcome = .error .divisionByZero := by rfl
  obtain ⟨hcounts, -, -, hlist⟩ := eval_steps_complete
  refine ⟨hfault, rfl, ((hcounts e scope).2 _ hfault).1, (hlist e scope ["Start"]).trans ?_⟩
  cbv

end Expr

end ExactCalc
