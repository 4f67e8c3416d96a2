import ExactCalc.Proofs.GuardedConversion

/-!
# The guarded reader

The reader once more, as a scan that moves a place through the text, looks up the
character there, and cuts an argument out between two places; arguments are taken by
their index, and every tree that is put together is checked. A literal is converted
under a cap on its digits, and so is the nesting limit in a message. It accepts and
rejects what the reader does. Only the guard of the message can be met, by a limit that
is too long to be written.
-/

namespace ExactCalc

/-- An expression as a tree that was put together part by part. -/
def Expr.draft : Expr → Draft
  | number n => .number n
  | name x => .name x
  | apply op left right => .apply op.keyword left.draft right.draft
  | letIn x value body => .letIn (.name x) value.draft body.draft

theorem Expr.check_draft (e : Expr) : e.draft.check = .ok (.tree e) := by
  induction e with
  | number n => rfl
  | name x => rfl
  | apply op left right ihl ihr =>
    simp only [draft, Draft.check, ihl, ihr, Draft.buildApply, Operator.ofKeyword?_keyword]
    rfl
  | letIn x value body ihv ihb =>
    simp only [draft, Draft.check, ihv, ihb, Draft.buildLet]
    rfl

namespace Guarded

/-- The message of a rejection. Only the one about nesting holds a number. -/
def message (cap : Cap) (r : Rejection) : Guarded String :=
  match r.defect with
  | .tooDeep limit => do
    let levels ← numeral cap limit
    return s!"Expression nested deeper than {levels} levels"
  | _ => return r.message

/-- Composes the message of a rejection, and rejects. -/
def reject {α : Type} (cap : Cap) (r : Rejection) : Guarded α := do
  let _ ← message cap r
  .error (.failure (.rejected r))

def argument (arguments : List Draft) (index : ℕ) : Guarded Draft :=
  arguments[index]?.elim (.error (.hazard (.noArgument index))) .ok

/-- A tree that passed its check. -/
def tree (draft : Draft) : Guarded Draft :=
  match draft.check with
  | .ok _ => .ok draft
  | .error problems => .error (.hazard (.badTree problems))

/-- Converts a literal that is not too long for thirty-two bits; its zeros in front do not count,
but one digit is left. -/
def literal (cap : Cap) (text : List Char) (offset : ℤ) (negative : Bool) (digits : List Char) :
    Guarded Draft :=
  let significant := Numeral.significant digits
  let digits := if significant.isEmpty then ['0'] else significant
  if digits.length ≤ Numeral.word32Digits then do
    let n ← integer cap negative digits
    if Numeral.word32Min ≤ n ∧ n ≤ Numeral.word32Max then tree (.number n)
    else reject cap ⟨.outOfRange, .ofList text, offset⟩
  else reject cap ⟨.outOfRange, .ofList text, offset⟩

/-- Builds a form from the arguments that it needs, when there are enough of them. -/
def build (cap : Cap) (form : Form) (text : List Char) (offset : ℤ) (arguments : List Draft) :
    Guarded Draft :=
  let position := offset + form.keyword.length
  if arguments.length < form.arity then
    reject cap ⟨.tooFewArguments form, .ofList text, position⟩
  else match form with
    | .arithmetic op => do
      let left ← argument arguments 0
      let right ← argument arguments 1
      tree (.apply op.keyword left right)
    | .binding => do
      let declared ← argument arguments 0
      let value ← argument arguments 1
      let body ← argument arguments 2
      match declared with
      | .name _ => tree (.letIn declared value body)
      | _ => reject cap ⟨.unnamedBinding, .ofList text, position⟩

mutual

def read (cap : Cap) (limit : ℤ) (text : List Char) (offset depth : ℤ) : Guarded Draft :=
  if limit < depth then reject cap ⟨.tooDeep limit, .ofList text, offset⟩
  else match Shape.ofText text with
    | .literal negative digits => literal cap text offset negative digits
    | .name => tree (.name (.ofList text))
    | .call form _ => do
      let first := form.keyword.length
      let arguments ← scan cap limit text offset depth text.length first 0 first []
      build cap form text offset arguments
    | .unreadable => reject cap ⟨.unreadable, .ofList text, offset⟩
termination_by (text.length, text.length + 1)

/-- Lists the arguments from a place on up to, not including, `stop`. The argument that is not
complete yet begins at `start`. -/
def scan (cap : Cap) (limit : ℤ) (text : List Char) (offset depth : ℤ) (stop place : ℕ)
    (level : ℤ) (start : ℕ) (arguments : List Draft) : Guarded (List Draft) :=
  if place < stop then
    match _found : text[place]? with
    | none => .error (.hazard (.noCharacter place))
    | some c =>
      if c = '(' then
        scan cap limit text offset depth stop (place + 1) (level + 1)
          (if level = 0 then place + 1 else start) arguments
      else if c = ')' then
        if level - 1 = 0 then do
          let last ← read cap limit ((text.take place).drop start) (offset + start) (depth + 1)
          scan cap limit text offset depth stop (place + 1) (level - 1) start (arguments ++ [last])
        else scan cap limit text offset depth stop (place + 1) (level - 1) start arguments
      else if c = ',' ∧ level = 1 then do
        let next ← read cap limit ((text.take place).drop start) (offset + start) (depth + 1)
        scan cap limit text offset depth stop (place + 1) level (place + 1) (arguments ++ [next])
      else scan cap limit text offset depth stop (place + 1) level start arguments
  else .ok arguments
termination_by (text.length, stop - place)
decreasing_by
  all_goals
    simp only [Prod.lex_def, List.length_drop, List.length_take, true_and]
    have := (List.getElem?_eq_some_iff.mp _found).1
    omega

end

/-! ## Agreement with the reader -/

/-- A message is composed when there is room for the limit that it names. -/
theorem message_of_allows {cap : Cap} {r : Rejection}
    (h : ∀ limit, r.defect = .tooDeep limit → cap.Allows (Numeral.digitCount limit)) :
    message cap r = .ok r.message := by
  rw [message]
  split
  · next limit hdeep =>
    rw [numeral_of_allows (h limit hdeep), Rejection.message, hdeep]
    rfl
  · rfl

theorem reject_of_allows {α : Type} {cap : Cap} {r : Rejection}
    (h : ∀ limit, r.defect = .tooDeep limit → cap.Allows (Numeral.digitCount limit)) :
    (reject cap r : Guarded α) = .error (.failure (.rejected r)) := by
  rw [reject, message_of_allows h]
  rfl

theorem reject_bind {α β : Type} (cap : Cap) (r : Rejection) (next : α → Guarded β) :
    reject cap r >>= next = reject cap r := by
  rw [reject, reject]
  cases message cap r with
  | error b => rfl
  | ok m => rfl

/-- What the reader finds, as a guarded result. -/
def relay {α β : Type} (cap : Cap) (view : α → β) : Except Rejection α → Guarded β
  | .ok a => .ok (view a)
  | .error r => reject cap r

@[simp] theorem relay_ok {α β : Type} (cap : Cap) (view : α → β) (a : α) :
    relay cap view (.ok a) = .ok (view a) :=
  rfl

@[simp] theorem relay_error {α β : Type} (cap : Cap) (view : α → β) (r : Rejection) :
    relay cap view (.error r) = reject cap r :=
  rfl

theorem tree_draft (e : Expr) : tree e.draft = .ok e.draft := by
  rw [tree, Expr.check_draft]

/-- The digits are counted before they are converted: any cap that leaves room for a number of
thirty-two bits is enough. -/
theorem literal_eq {cap : Cap} (hcap : cap.Allows Numeral.word32Digits) (text : List Char)
    (offset : ℤ) (negative : Bool) (digits : List Char) :
    literal cap text offset negative digits =
      match Numeral.word32? negative digits with
      | some n => .ok (Expr.number n).draft
      | none => reject cap ⟨.outOfRange, .ofList text, offset⟩ := by
  obtain ⟨shown, hshown⟩ : ∃ shown, (if (Numeral.significant digits).isEmpty then ['0']
      else Numeral.significant digits) = shown := ⟨_, rfl⟩
  -- The one zero that may stand for no digits at all changes neither the value nor the length test.
  have hvalue : Numeral.value shown = Numeral.value (Numeral.significant digits) := by
    rw [← hshown]
    split_ifs with hnone
    · rw [List.isEmpty_iff.mp hnone]
      rfl
    · rfl
  have hlength : shown.length ≤ Numeral.word32Digits ↔
      (Numeral.significant digits).length ≤ Numeral.word32Digits := by
    rw [← hshown]
    split_ifs with hnone
    · rw [List.isEmpty_iff.mp hnone]
      decide
    · rfl
  unfold literal Numeral.word32?
  dsimp only
  rw [hshown, ← hvalue]
  by_cases hlong : shown.length ≤ Numeral.word32Digits
  · rw [if_pos hlong, if_pos (hlength.mp hlong), integer_of_allows (hcap.of_le hlong), ok_bind]
    split_ifs
    · exact tree_draft (.number _)
    · rfl
  · rw [if_neg hlong, if_neg (mt hlength.mpr hlong)]

theorem build_eq (cap : Cap) (form : Form) (text : List Char) (offset : ℤ)
    (arguments : List Expr) :
    build cap form text offset (arguments.map Expr.draft) =
      relay cap Expr.draft (form.assemble text offset arguments) := by
  cases form with
  | arithmetic op =>
    match arguments with
    | [] => rfl
    | [_] => rfl
    | left :: right :: surplus => exact tree_draft (.apply op left right)
  | binding =>
    match arguments with
    | [] => rfl
    | [declared] => cases declared <;> rfl
    | [declared, _] => cases declared <;> rfl
    | declared :: value :: body :: surplus =>
      cases declared with
      | name x => exact tree_draft (.letIn x value body)
      | number _ => rfl
      | apply _ _ _ => rfl
      | letIn _ _ _ => rfl

/-- The two readers are at the same place. The pieces that they have open agree inside of an
argument list; behind one, the piece of the guarded reader is out of use. -/
structure Aligned (text : List Char) (offset : ℤ) (place : ℕ) (level : ℤ) (start : ℕ) (first : ℤ)
    (piece : List Char) : Prop where
  reach : first + piece.length = offset + place
  inside : 1 ≤ level → first = offset + start ∧ piece.reverse = (text.take place).drop start

namespace Aligned

variable {text piece : List Char} {offset level first : ℤ} {place start : ℕ}

/-- Both readers begin a piece behind this place. -/
theorem fresh (h : Aligned text offset place level start first piece) (level' : ℤ) :
    Aligned text offset (place + 1) level' (place + 1) (first + piece.length + 1) [] where
  reach := by
    have := h.reach
    simp
    omega
  inside := by
    have := h.reach
    intro
    refine ⟨by omega, ?_⟩
    simp

/-- An argument was completed: after a comma both readers begin a piece, after a closing
parenthesis only one of them does. -/
theorem completed (h : Aligned text offset place level start first piece) {d : Char}
    (hd : d = ',' ∨ d = ')') :
    Aligned text offset (place + 1) (levelAfter 1 d) (if d = ',' then place + 1 else start)
      (first + piece.length + 1) [] := by
  rcases hd with rfl | rfl
  · exact h.fresh 1
  · exact ⟨(h.fresh 0).reach, by simp [levelAfter]⟩

theorem passed (h : Aligned text offset place level start first piece) {c : Char}
    (hc : text[place]? = some c) (hopen : ¬(c = '(' ∧ level = 0)) :
    Aligned text offset (place + 1) (levelAfter level c) start first (c :: piece) where
  reach := by
    have := h.reach
    simp
    omega
  inside := by
    intro hlevel'
    obtain ⟨hfirst, hpiece⟩ := h.inside (one_le_of_levelAfter hopen hlevel')
    have hreach := h.reach
    have hplace := (List.getElem?_eq_some_iff.mp hc).1
    refine ⟨hfirst, ?_⟩
    rw [List.reverse_cons, hpiece, List.take_add_one, hc, List.drop_append_of_le_length]
    · rfl
    · rw [List.length_take]
      omega

end Aligned

section Steps

variable {cap : Cap} {limit offset depth level : ℤ} {text : List Char} {stop place start : ℕ}
  {arguments : List Draft}

theorem scan_end (h : stop ≤ place) :
    scan cap limit text offset depth stop place level start arguments = .ok arguments := by
  rw [scan, if_neg (by omega)]

theorem scan_past (h : place < stop) (hpast : text.length ≤ place) :
    scan cap limit text offset depth stop place level start arguments =
      .error (.hazard (.noCharacter place)) := by
  rw [scan, if_pos h]
  split
  · rfl
  · simp_all

theorem scan_step (h : place < stop) {c : Char} (hc : text[place]? = some c) :
    scan cap limit text offset depth stop place level start arguments =
      if c = '(' then
        scan cap limit text offset depth stop (place + 1) (level + 1)
          (if level = 0 then place + 1 else start) arguments
      else if c = ')' then
        if level - 1 = 0 then do
          let last ← read cap limit ((text.take place).drop start) (offset + start) (depth + 1)
          scan cap limit text offset depth stop (place + 1) (level - 1) start (arguments ++ [last])
        else scan cap limit text offset depth stop (place + 1) (level - 1) start arguments
      else if c = ',' ∧ level = 1 then do
        let next ← read cap limit ((text.take place).drop start) (offset + start) (depth + 1)
        scan cap limit text offset depth stop (place + 1) level (place + 1) (arguments ++ [next])
      else scan cap limit text offset depth stop (place + 1) level start arguments := by
  rw [scan, if_pos h]
  split
  · simp_all
  · next d hd =>
    obtain rfl : d = c := by simpa [hc] using hd.symm
    rfl

theorem scan_opening (h : place < stop) (hc : text[place]? = some '(') :
    scan cap limit text offset depth stop place 0 start arguments =
      scan cap limit text offset depth stop (place + 1) 1 (place + 1) arguments := by
  rw [scan_step h hc]
  simp

theorem scan_delimiter (h : place < stop) {d : Char} (hd : d = ',' ∨ d = ')')
    (hc : text[place]? = some d) :
    scan cap limit text offset depth stop place 1 start arguments = (do
      let next ← read cap limit ((text.take place).drop start) (offset + start) (depth + 1)
      scan cap limit text offset depth stop (place + 1) (levelAfter 1 d)
        (if d = ',' then place + 1 else start) (arguments ++ [next])) := by
  rw [scan_step h hc]
  rcases hd with rfl | rfl
  · simp [levelAfter]
  · simp [levelAfter]

theorem scan_passing (h : place < stop) {c : Char} (hc : text[place]? = some c)
    (hopen : ¬(c = '(' ∧ level = 0)) (hend : ¬((c = ',' ∨ c = ')') ∧ level = 1)) :
    scan cap limit text offset depth stop place level start arguments =
      scan cap limit text offset depth stop (place + 1) (levelAfter level c) start arguments := by
  rw [scan_step h hc, levelAfter]
  split_ifs with hparen hzero hclose hone hcomma
  · exact absurd ⟨hparen, hzero⟩ hopen
  · rfl
  · exact absurd ⟨.inr hclose, by omega⟩ hend
  · rfl
  · exact absurd ⟨.inl hcomma.1, hcomma.2⟩ hend
  · rfl

end Steps

/-- Ends a scan of the places from `place` up to, not including, `stop`. If some of them lie past
the end of the text, the first of those has no character. -/
def finish (text : List Char) (place stop : ℕ) (arguments : List Draft) : Guarded (List Draft) :=
  if place < stop ∧ text.length < stop then
    .error (.hazard (.noCharacter (max place text.length)))
  else .ok arguments

theorem finish_of_le {text : List Char} {place stop : ℕ} (h : stop ≤ max place text.length)
    (arguments : List Draft) : finish text place stop arguments = .ok arguments :=
  if_neg (by omega)

theorem finish_succ {text : List Char} {place : ℕ} (h : place < text.length) (stop : ℕ) :
    finish text (place + 1) stop = finish text place stop := by
  have hpast : place + 1 < stop ∧ text.length < stop ↔ place < stop ∧ text.length < stop := by omega
  funext arguments
  simp only [finish, hpast, max_eq_right h.le, max_eq_right (Nat.succ_le_of_lt h)]

/-- Reading an argument and going on, in both readers. -/
theorem relay_argument (cap : Cap) (piece : Except Rejection Expr) (arguments : List Draft)
    (next : Draft → Guarded (List Draft)) (rest : Except Rejection (List Expr))
    (last : List Draft → Guarded (List Draft))
    (hnext : ∀ e : Expr, next e.draft =
      relay cap (fun others => arguments ++ [e.draft] ++ others.map Expr.draft) rest >>= last) :
    relay cap Expr.draft piece >>= next =
      relay cap (fun others => arguments ++ others.map Expr.draft) (do
        let argument ← piece
        let others ← rest
        return argument :: others) >>= last := by
  cases piece with
  | error r => exact (reject_bind cap r next).trans (reject_bind cap r last).symm
  | ok e =>
    rw [relay_ok, ok_bind, hnext]
    cases rest with
    | error r => rfl
    | ok others => simp [relay, pure, Except.pure, bind, Except.bind]

/-- The scan lists what the reader reads from the rest of the text up to, not including, `stop`. -/
theorem scan_eq {cap : Cap} {limit offset depth level first : ℤ} {text piece : List Char}
    {stop place start : ℕ} {arguments : List Draft}
    (hread : ∀ piece : List Char, piece.length < text.length → ∀ place : ℤ,
      read cap limit piece place (depth + 1) =
        relay cap Expr.draft (Expr.read limit piece place (depth + 1)))
    (h : Aligned text offset place level start first piece) :
    scan cap limit text offset depth stop place level start arguments =
      relay cap (fun others => arguments ++ others.map Expr.draft)
        (readArguments limit depth level first piece ((text.take stop).drop place)) >>=
      finish text place stop := by
  -- Induction on the characters that remain; both readers take the same of three kinds of step.
  obtain ⟨rest, hrest⟩ : ∃ rest, (text.take stop).drop place = rest := ⟨_, rfl⟩
  induction rest generalizing place level start first piece arguments with
  | nil =>
    have hend : min stop text.length ≤ place := by
      rw [← List.length_take]
      exact List.drop_eq_nil_iff.mp hrest
    rw [hrest, readArguments, relay_ok, ok_bind, List.map_nil, List.append_nil]
    -- Either the scan has come to its end, or the text has and the scan goes on.
    by_cases hstop : stop ≤ place
    · rw [scan_end hstop, finish_of_le (by omega)]
    · rw [scan_past (by omega) (by omega), finish, if_pos (by omega), max_eq_left (by omega)]
  | cons c rest ih =>
    have hc : (text.take stop)[place]? = some c := by
      rw [← List.head?_drop, hrest, List.head?_cons]
    rw [List.getElem?_take] at hc
    split_ifs at hc with hstop
    have hplace : place < text.length := (List.getElem?_eq_some_iff.mp hc).1
    have hdrop : (text.take stop).drop (place + 1) = rest := by
      rw [← List.tail_drop, hrest, List.tail_cons]
    rw [hrest, ← hdrop, ← finish_succ hplace]
    by_cases hopen : c = '(' ∧ level = 0
    · obtain ⟨rfl, rfl⟩ := hopen
      rw [scan_opening hstop hc, readArguments_opening, ih (h.fresh 1) hdrop]
    · by_cases hend : (c = ',' ∨ c = ')') ∧ level = 1
      · obtain ⟨hd, rfl⟩ := hend
        obtain ⟨hfirst, hpiece⟩ := h.inside le_rfl
        have hlt : piece.reverse.length < text.length := by
          rw [hpiece, List.length_drop, List.length_take]
          omega
        rw [scan_delimiter hstop hd hc, readArguments_delimiter hd, ← hfirst, ← hpiece,
          hread _ hlt]
        exact relay_argument _ _ _ _ _ _ fun e => ih (h.completed hd) hdrop
      · rw [scan_passing hstop hc hopen hend, readArguments_passing hopen hend,
          ih (h.passed hc hopen) hdrop]

/-- No guard of the reader is ever met, but for the one of the message. -/
theorem read_eq {cap : Cap} (hcap : cap.Allows Numeral.word32Digits) (limit : ℤ) (text : List Char)
    (offset depth : ℤ) :
    read cap limit text offset depth =
      relay cap Expr.draft (Expr.read limit text offset depth) := by
  obtain ⟨n, hn⟩ : ∃ n, text.length = n := ⟨_, rfl⟩
  induction n using Nat.strong_induction_on generalizing text offset depth with
  | _ n ih =>
  rw [read]
  by_cases hlimit : limit < depth
  · rw [if_pos hlimit, Expr.read_of_lt hlimit]
    rfl
  have hdepth : depth ≤ limit := not_lt.mp hlimit
  rw [if_neg hlimit]
  cases hshape : Shape.ofText text with
  | literal negative digits =>
    rw [Expr.read_literal hdepth hshape]
    dsimp only
    rw [literal_eq hcap]
    cases Numeral.word32? negative digits with
    | none => rfl
    | some n => rfl
  | name =>
    rw [Expr.read_name hdepth hshape]
    exact tree_draft (.name (.ofList text))
  | unreadable =>
    rw [Expr.read_unreadable hdepth hshape]
    rfl
  | call form rest =>
    rw [Expr.read_call hdepth hshape]
    dsimp only
    have hrest : text.drop form.keyword.length = rest := by
      rw [Shape.eq_append_of_call hshape, ← String.length_toList, List.drop_left]
    have hstart : Aligned text offset form.keyword.length 0 form.keyword.length
        (offset + form.keyword.length) [] := ⟨by simp, by omega⟩
    rw [scan_eq (fun piece hlt place => ih piece.length (by omega) piece place _ rfl) hstart,
      List.take_length, hrest]
    cases readArguments limit depth 0 (offset + form.keyword.length) [] rest with
    | error r =>
      rw [relay_error, reject_bind, reject_bind]
      rfl
    | ok arguments =>
      rw [relay_ok, ok_bind, finish_of_le (le_max_right _ _), ok_bind, List.nil_append, build_eq]
      rfl

-- A scan that is sent past the end of the text does meet a guard.
example : scan none 8 ['(', '1', ')'] 0 0 4 0 0 0 [] = .error (.hazard (.noCharacter 3)) := by cbv

end Guarded

end ExactCalc
