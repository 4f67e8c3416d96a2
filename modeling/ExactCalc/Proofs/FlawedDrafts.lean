import ExactCalc.Draft
import ExactCalc.Proofs.Meaning

/-!
# Drafts with bad parts

A draft may hold an operator that is none of the four, or a value where a tree
should stand. Evaluation is strict, so such a draft never has a value: it is
interrupted at a bad part, once everything before that part has a value, or it
meets an ordinary fault first. In the second case no bad part was looked at, and
every expression that puts something proper in the place of the bad parts meets
the same fault after the same steps.
-/

namespace ExactCalc

/-- The words of the four operators. -/
def Operator.words : List String := ["add", "sub", "mult", "div"]

theorem Operator.ofKeyword?_eq_none_iff {word : String} :
    ofKeyword? word = none ↔ word ∉ words := by
  unfold ofKeyword? words
  split <;> simp_all

theorem Operator.exists_keyword {word : String} (h : word ∈ words) :
    ∃ op : Operator, op.keyword = word := by
  simp only [words, List.mem_cons, List.not_mem_nil, or_false] at h
  rcases h with rfl | rfl | rfl | rfl
  · exact ⟨add, rfl⟩
  · exact ⟨sub, rfl⟩
  · exact ⟨mult, rfl⟩
  · exact ⟨div, rfl⟩

namespace Draft

/-- Some operator is none of the four, or a value that is no tree stands where one should. -/
def Flawed : Draft → Prop
  | number _ => False
  | name _ => False
  | apply op left right => op ∉ Operator.words ∨ left.Flawed ∨ right.Flawed
  | letIn _ value body => value.Flawed ∨ body.Flawed
  | foreign _ => True

/-- Every `let` declares a name. -/
def DeclaresNames : Draft → Prop
  | number _ => True
  | name _ => True
  | apply _ left right => left.DeclaresNames ∧ right.DeclaresNames
  | letIn declared value body =>
    (∃ x, declared = name x) ∧ value.DeclaresNames ∧ body.DeclaresNames
  | foreign _ => True

/-- The expression is the draft with any operator in the place of each unknown one, and any
expression in the place of each value that is no tree. -/
inductive Mended : Draft → Expr → Prop
  | number (n : ℤ) : Mended (.number n) (.number n)
  | name (x : String) : Mended (.name x) (.name x)
  | known (op : Operator) {left right left' right'} (hl : Mended left left')
      (hr : Mended right right') :
      Mended (.apply op.keyword left right) (.apply op left' right')
  | unknown {word : String} (hword : word ∉ Operator.words) (op : Operator)
      {left right left' right'} (hl : Mended left left') (hr : Mended right right') :
      Mended (.apply word left right) (.apply op left' right')
  | letIn (x : String) {value body value' body'} (hv : Mended value value')
      (hb : Mended body body') :
      Mended (.letIn (.name x) value body) (.letIn x value' body')
  | foreign (value : Json) (e : Expr) : Mended (.foreign value) e

theorem exists_mended {d : Draft} (h : d.DeclaresNames) : ∃ e, d.Mended e := by
  induction d with
  | number n => exact ⟨_, .number n⟩
  | name x => exact ⟨_, .name x⟩
  | apply word left right ihl ihr =>
    obtain ⟨l, hl⟩ := ihl h.1
    obtain ⟨r, hr⟩ := ihr h.2
    by_cases hword : word ∈ Operator.words
    · obtain ⟨op, rfl⟩ := Operator.exists_keyword hword
      exact ⟨_, .known op hl hr⟩
    · exact ⟨_, .unknown hword .add hl hr⟩
  | letIn declared value body _ ihv ihb =>
    obtain ⟨⟨x, rfl⟩, hvalue, hbody⟩ := h
    obtain ⟨v, hv⟩ := ihv hvalue
    obtain ⟨b, hb⟩ := ihb hbody
    exact ⟨_, .letIn x hv hb⟩
  | foreign value => exact ⟨.number 0, .foreign value _⟩

/-! ## Evaluation, one part at a time -/

section Outcomes

variable (scope : Scope)

theorem outcome_apply (word : String) (left right : Draft) :
    ((apply word left right).eval scope).outcome = (do
      let a ← (left.eval scope).outcome
      let b ← (right.eval scope).outcome
      match Operator.ofKeyword? word with
      | some op => ((Trace.compute op a b).mapError Interruption.fault).outcome
      | none => .error (.unknownOperator word)) := by
  rw [eval, Trace.outcome_bind]
  congr 1
  funext a
  rw [Trace.outcome_bind]
  congr 1
  funext b
  cases Operator.ofKeyword? word with
  | none => rfl
  | some op => rfl

theorem outcome_letIn (x : String) (value body : Draft) :
    ((letIn (name x) value body).eval scope).outcome = (do
      let a ← (value.eval scope).outcome
      (body.eval (scope.bind x a)).outcome) := by
  rw [eval, Trace.outcome_bind]
  rfl

end Outcomes

/-! ## Where an evaluation is interrupted -/

/-- Evaluating the draft in its scope comes to the part, in the inner scope: what is evaluated
before the part has a value. -/
inductive Reaches (part : Draft) (inner : Scope) : Scope → Draft → Prop
  | here : Reaches part inner inner part
  | left {scope word left right} (h : Reaches part inner scope left) :
      Reaches part inner scope (.apply word left right)
  | right {scope word left right a} (hl : (left.eval scope).outcome = .ok a)
      (h : Reaches part inner scope right) : Reaches part inner scope (.apply word left right)
  | value {scope declared value body} (h : Reaches part inner scope value) :
      Reaches part inner scope (.letIn declared value body)
  | body {scope x value body a} (hv : (value.eval scope).outcome = .ok a)
      (h : Reaches part inner (scope.bind x a) body) :
      Reaches part inner scope (.letIn (.name x) value body)

section Reaching

variable {part middle d : Draft} {inner scope outer : Scope} {i : Interruption}

theorem Reaches.trans (h : Reaches part inner scope middle) (h' : Reaches middle scope outer d) :
    Reaches part inner outer d := by
  induction h' with
  | here => exact h
  | left _ ih => exact .left ih
  | right hl _ ih => exact .right hl ih
  | value _ ih => exact .value ih
  | body hv _ ih => exact .body hv ih

/-- Whatever interrupts the part interrupts the draft. -/
theorem Reaches.outcome_eq (h : Reaches part inner scope d)
    (hpart : (part.eval inner).outcome = .error i) : (d.eval scope).outcome = .error i := by
  induction h with
  | here => exact hpart
  | left h ih =>
    rw [outcome_apply, ih]
    rfl
  | right hl h ih =>
    rw [outcome_apply, hl, ih]
    rfl
  | value h ih =>
    rw [eval, Trace.outcome_bind, ih]
    rfl
  | body hv h ih =>
    rw [outcome_letIn, hv]
    exact ih

/-- The draft itself is the bad part that the interruption tells of: an operation with an unknown
operator on operands that have values, or a value that is no tree. -/
def Blocks (d : Draft) (scope : Scope) : Interruption → Prop
  | .fault _ => False
  | .unknownOperator word =>
    word ∉ Operator.words ∧ ∃ left right a b, d = .apply word left right ∧
      (left.eval scope).outcome = .ok a ∧ (right.eval scope).outcome = .ok b
  | .unnamedBinding _ => False
  | .noExpression => ∃ value, d = .foreign value

theorem Blocks.outcome_eq (h : d.Blocks scope i) : (d.eval scope).outcome = .error i := by
  cases i with
  | fault f => exact h.elim
  | unknownOperator word =>
    obtain ⟨hword, left, right, a, b, rfl, ha, hb⟩ := h
    rw [outcome_apply, ha, hb, Operator.ofKeyword?_eq_none_iff.mpr hword]
    rfl
  | unnamedBinding declared => exact h.elim
  | noExpression =>
    obtain ⟨value, rfl⟩ := h
    rfl

/-- What an outcome tells about the bad parts: there is none when there is a value, and an
interruption that is no fault comes from one that was reached. -/
def Accounts (d : Draft) (scope : Scope) : Except Interruption Fraction → Prop
  | .ok _ => ¬d.Flawed
  | .error i =>
    (∃ f, i = .fault f) ∨ ∃ part inner, Reaches part inner scope d ∧ part.Blocks inner i

theorem Accounts.of_reaches (h : middle.Accounts scope (.error i))
    (hreach : Reaches middle scope outer d) : d.Accounts outer (.error i) := by
  rcases h with hfault | ⟨part, inner, hpart, hblocks⟩
  · exact .inl hfault
  · exact .inr ⟨part, inner, hpart.trans hreach, hblocks⟩

end Reaching

/-- Evaluation is strict, and looks at no part before what comes in front of it has a value. -/
theorem accounts_eval {d : Draft} (hnames : d.DeclaresNames) (scope : Scope) :
    d.Accounts scope (d.eval scope).outcome := by
  induction d generalizing scope with
  | number n => exact id
  | name x =>
    rw [eval, Trace.read]
    cases scope.lookup? x with
    | some a => exact id
    | none => exact .inl ⟨_, rfl⟩
  | apply word left right ihl ihr =>
    have hleft := ihl hnames.1 scope
    have hright := ihr hnames.2 scope
    rw [outcome_apply]
    cases hl : (left.eval scope).outcome with
    | error i =>
      rw [hl] at hleft
      exact hleft.of_reaches (.left .here)
    | ok a =>
      rw [hl] at hleft
      cases hr : (right.eval scope).outcome with
      | error i =>
        rw [hr] at hright
        exact hright.of_reaches (.right hl .here)
      | ok b =>
        rw [hr] at hright
        -- Only now, with both operands in hand, is the operator looked up.
        cases hop : Operator.ofKeyword? word with
        | none =>
          have hword := Operator.ofKeyword?_eq_none_iff.mp hop
          exact .inr ⟨_, scope, .here, hword, left, right, a, b, rfl, hl, hr⟩
        | some op =>
          change Accounts _ scope ((Trace.compute op a b).mapError Interruption.fault).outcome
          unfold Trace.compute
          cases op.apply? a b with
          | none => exact .inl ⟨_, rfl⟩
          | some result =>
            rintro (hword | hflawed | hflawed)
            · rw [Operator.ofKeyword?_eq_none_iff.mpr hword] at hop
              cases hop
            · exact hleft hflawed
            · exact hright hflawed
  | letIn declared value body _ ihv ihb =>
    obtain ⟨⟨x, rfl⟩, hvalueNames, hbodyNames⟩ := hnames
    have hvalue := ihv hvalueNames scope
    rw [outcome_letIn]
    cases hv : (value.eval scope).outcome with
    | error i =>
      rw [hv] at hvalue
      exact hvalue.of_reaches (.value .here)
    | ok a =>
      rw [hv] at hvalue
      have hbody := ihb hbodyNames (scope.bind x a)
      change Accounts _ scope (body.eval (scope.bind x a)).outcome
      cases hb : (body.eval (scope.bind x a)).outcome with
      | error i =>
        rw [hb] at hbody
        exact hbody.of_reaches (.body hv .here)
      | ok b =>
        rw [hb] at hbody
        rintro (hflawed | hflawed)
        · exact hvalue hflawed
        · exact hbody hflawed
  | foreign value => exact .inr ⟨_, scope, .here, value, rfl⟩

/-! ## Drafts that are mended -/

end Draft

namespace Trace

variable {α β : Type}

/-- The first trace is the second, or was interrupted by something else than a fault. -/
def Matches (t : Trace Draft.Interruption α) (t' : Trace Fault α) : Prop :=
  t = t'.mapError .fault ∨ ∃ i, t.outcome = .error i ∧ ∀ f, i ≠ .fault f

theorem Matches.bind {t : Trace Draft.Interruption α} {t' : Trace Fault α}
    {next : α → Trace Draft.Interruption β} {next' : α → Trace Fault β} (h : t.Matches t')
    (hnext : ∀ a, (next a).Matches (next' a)) : (t >>= next).Matches (t' >>= next') := by
  rcases h with rfl | ⟨i, hi, hbad⟩
  · obtain ⟨steps, outcome⟩ := t'
    cases outcome with
    | error f => exact .inl rfl
    | ok a =>
      rcases hnext a with heq | ⟨i, hi, hbad⟩
      · left
        rw [mapError_ok, ok_bind, ok_bind, heq]
        rfl
      · exact .inr ⟨i, hi, hbad⟩
  · right
    refine ⟨i, ?_, hbad⟩
    rw [outcome_bind, hi]
    rfl

end Trace

namespace Draft

/-- A draft goes through the steps of every expression that mends it, until it is interrupted at a
bad part. -/
theorem Mended.matches_eval {d : Draft} {e : Expr} (h : d.Mended e) (scope : Scope) :
    (d.eval scope).Matches (e.eval scope) := by
  induction h generalizing scope with
  | number n => exact .inl rfl
  | name x => exact .inl rfl
  | known op hl hr ihl ihr =>
    rw [eval, Expr.eval]
    refine (ihl scope).bind fun a => (ihr scope).bind fun b => .inl ?_
    rw [Operator.ofKeyword?_keyword]
  | unknown hword op hl hr ihl ihr =>
    rw [eval, Expr.eval]
    refine (ihl scope).bind fun a => (ihr scope).bind fun b => .inr ?_
    rw [Operator.ofKeyword?_eq_none_iff.mpr hword]
    exact ⟨_, rfl, by simp⟩
  | letIn x hv hb ihv ihb =>
    rw [eval, Expr.eval]
    refine (ihv scope).bind fun a => ?_
    exact Trace.Matches.bind (.inl rfl) fun _ => ihb (scope.bind x a)
  | foreign value e => exact .inr ⟨.noExpression, rfl, by simp⟩

theorem Mended.eval_eq {d : Draft} {e : Expr} (h : d.Mended e) {scope : Scope} {f : Fault}
    (hfault : (d.eval scope).outcome = .error (.fault f)) :
    e.eval scope = ⟨(d.eval scope).steps, .error f⟩ := by
  rcases h.matches_eval scope with heq | ⟨i, hi, hbad⟩
  · rw [heq] at hfault ⊢
    generalize e.eval scope = run at hfault ⊢
    obtain ⟨steps, outcome⟩ := run
    cases outcome with
    | ok a => cases hfault
    | error f' =>
      cases hfault
      rfl
  · rw [hi] at hfault
    cases hfault
    exact absurd rfl (hbad f)

/-- A draft with a bad part has no value. It is interrupted by an unknown operator exactly when an
operation with that operator is reached whose operands have values, and for want of a tree exactly
when a value that is none is reached. Otherwise it meets a fault, and then every expression that
mends it meets this fault after the same steps. -/
theorem eval_flawed {d : Draft} (hnames : d.DeclaresNames) (hflawed : d.Flawed) (scope : Scope) :
    let run := d.eval scope
    (∀ a, run.outcome ≠ .ok a) ∧
      (∀ word, run.outcome = .error (.unknownOperator word) ↔
        word ∉ Operator.words ∧ ∃ left right inner a b,
          Reaches (.apply word left right) inner scope d ∧
          (left.eval inner).outcome = .ok a ∧ (right.eval inner).outcome = .ok b) ∧
      (run.outcome = .error .noExpression ↔
        ∃ value inner, Reaches (.foreign value) inner scope d) ∧
      (∀ declared, run.outcome ≠ .error (.unnamedBinding declared)) ∧
      (∃ e, d.Mended e) ∧
      ∀ fault, run.outcome = .error (.fault fault) →
        ∀ e, d.Mended e → e.eval scope = ⟨run.steps, .error fault⟩ := by
  intro run
  have haccounts := accounts_eval hnames scope
  -- An interruption that is no fault leads to the bad part, and a bad part that is reached to it.
  have hblocks (i : Interruption) (hi : ∀ f, i ≠ .fault f) : run.outcome = .error i ↔
      ∃ part inner, Reaches part inner scope d ∧ part.Blocks inner i := by
    constructor
    · intro h
      have hcause := haccounts
      rw [show (d.eval scope).outcome = .error i from h] at hcause
      rcases hcause with ⟨f, rfl⟩ | hcause
      · exact absurd rfl (hi f)
      · exact hcause
    · rintro ⟨part, inner, hreach, hblocks⟩
      exact hreach.outcome_eq hblocks.outcome_eq
  refine ⟨?_, ?_, ?_, ?_, exists_mended hnames, ?_⟩
  · intro a h
    rw [show (d.eval scope).outcome = .ok a from h] at haccounts
    exact haccounts hflawed
  · intro word
    rw [hblocks _ (by simp)]
    constructor
    · rintro ⟨part, inner, hreach, hword, left, right, a, b, rfl, ha, hb⟩
      exact ⟨hword, left, right, inner, a, b, hreach, ha, hb⟩
    · rintro ⟨hword, left, right, inner, a, b, hreach, ha, hb⟩
      exact ⟨_, inner, hreach, hword, left, right, a, b, rfl, ha, hb⟩
  · rw [hblocks _ (by simp)]
    constructor
    · rintro ⟨part, inner, hreach, value, rfl⟩
      exact ⟨value, inner, hreach⟩
    · rintro ⟨value, inner, hreach⟩
      exact ⟨_, inner, hreach, value, rfl⟩
  · intro declared h
    obtain ⟨_, _, -, hnone⟩ := (hblocks _ (by simp)).mp h
    exact hnone
  · intro fault h e hmended
    exact hmended.eval_eq h

/-- A division by zero in front of an unknown operator and of a missing part. -/
theorem eval_flawed_faultFirst :
    let scope : Scope := [⟨"x", .ofInt 3⟩]
    let d := apply "add" (apply "div" (name "x") (number 0))
      (apply "pow" (name "x") (foreign .null))
    let e := Expr.apply .add (.apply .div (.name "x") (.number 0))
      (.apply .mult (.name "x") (.letIn "y" (.number 2) (.name "z")))
    d.Flawed ∧ d.DeclaresNames ∧ d.Mended e ∧
      (d.eval scope).outcome = .error (.fault .divisionByZero) ∧
      (∀ a, (d.eval scope).outcome ≠ .ok a) ∧
      e.eval scope = ⟨[.read "x" (.ofInt 3)], .error .divisionByZero⟩ := by
  intro scope d e
  have hflawed : d.Flawed := .inr (.inr (.inr (.inr trivial)))
  have hnames : d.DeclaresNames := ⟨⟨trivial, trivial⟩, trivial, trivial⟩
  have hmended : d.Mended e :=
    .known .add (.known .div (.name "x") (.number 0))
      (.unknown (by decide) .mult (.name "x") (.foreign .null _))
  have hfault : (d.eval scope).outcome = .error (.fault .divisionByZero) := by rfl
  obtain ⟨hvalue, -, -, -, -, hsame⟩ := eval_flawed hnames hflawed scope
  exact ⟨hflawed, hnames, hmended, hfault, hvalue, hsame _ hfault e hmended⟩

-- With another divisor the draft is interrupted at the missing part, before its unknown operator is
-- looked at.
example : ((apply "add" (apply "div" (name "x") (number 2))
    (apply "pow" (name "x") (foreign .null))).eval [⟨"x", .ofInt 3⟩]).outcome =
      .error .noExpression := by rfl

end Draft

end ExactCalc
