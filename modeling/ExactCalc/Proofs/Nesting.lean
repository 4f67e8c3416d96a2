import ExactCalc.Expr.Reader
import ExactCalc.Proofs.Grammar

/-!
# Nesting

Which parentheses a text closes, and what the reader of arguments does with a
balanced text: at the level of an argument list it passes over all of it, so that
the commas and parentheses inside an argument never end that argument.
-/

namespace ExactCalc

/-- Neither a parenthesis nor a comma. -/
def isPlain (c : Char) : Bool := c != '(' && c != ')' && c != ','

theorem isPlain_iff {c : Char} : isPlain c = true ↔ c ≠ '(' ∧ c ≠ ')' ∧ c ≠ ',' := by
  simp [isPlain, and_assoc]

theorem isPlain_eq_false_iff {c : Char} : isPlain c = false ↔ c = '(' ∨ c = ')' ∨ c = ',' := by
  rw [← Bool.not_eq_true, isPlain_iff]
  tauto

theorem isPlain_of_isAlpha {c : Char} (h : c.isAlpha = true) : isPlain c = true := by
  refine isPlain_iff.mpr ⟨?_, ?_, ?_⟩ <;> rintro rfl <;> revert h <;> decide

theorem isPlain_of_isDigit {c : Char} (h : c.isDigit = true) : isPlain c = true := by
  refine isPlain_iff.mpr ⟨?_, ?_, ?_⟩ <;> rintro rfl <;> revert h <;> decide

theorem Literal.isPlain_of_mem_text {l : Literal} {c : Char} (h : c ∈ l.text) :
    isPlain c = true := by
  unfold Literal.text at h
  split_ifs at h
  · rcases List.mem_cons.mp h with rfl | h
    · decide
    · exact isPlain_of_isDigit (l.decimal c h)
  · exact isPlain_of_isDigit (l.decimal c h)

theorem Word.isPlain_of_mem {w : Word} {c : Char} (h : c ∈ w.letters) : isPlain c = true :=
  isPlain_of_isAlpha (w.alphabetic c h)

theorem Form.isPlain_of_mem_keyword (form : Form) {c : Char} (h : c ∈ form.keyword.toList) :
    isPlain c = true :=
  isPlain_of_isAlpha (form.isAlpha_of_mem_keyword h)

/-- The text closes `n` parentheses that are open before it and every one that it opens, and each
of its commas stands inside a parenthesis. -/
inductive Balanced : ℕ → List Char → Prop
  | nil : Balanced 0 []
  | opening {n text} (h : Balanced (n + 1) text) : Balanced n ('(' :: text)
  | closing {n text} (h : Balanced n text) : Balanced (n + 1) (')' :: text)
  | comma {n text} (h : Balanced (n + 1) text) : Balanced (n + 1) (',' :: text)
  | plain {n c text} (hc : isPlain c = true) (h : Balanced n text) : Balanced n (c :: text)

namespace Balanced

theorem append {m n : ℕ} {s t : List Char} (hs : Balanced m s) (ht : Balanced n t) :
    Balanced (m + n) (s ++ t) := by
  induction hs with
  | nil => simpa using ht
  | opening h ih => exact opening (by rwa [Nat.add_right_comm] at ih)
  | closing h ih => rw [Nat.add_right_comm]; exact closing ih
  | comma h ih => rw [Nat.add_right_comm] at ih ⊢; exact comma ih
  | plain hc h ih => exact plain hc ih

theorem plain_append {n : ℕ} {s t : List Char} (hs : ∀ c ∈ s, isPlain c = true)
    (ht : Balanced n t) : Balanced n (s ++ t) := by
  induction s with
  | nil => exact ht
  | cons c s ih => exact plain (hs c (by simp)) (ih fun d hd => hs d (by simp [hd]))

theorem of_plain {s : List Char} (hs : ∀ c ∈ s, isPlain c = true) : Balanced 0 s := by
  simpa using plain_append hs nil

theorem enclosed {s : List Char} (hs : Balanced 0 s) : Balanced 1 (s ++ [')']) := by
  simpa using hs.append (closing nil)

theorem followed {s t : List Char} (hs : Balanced 0 s) (ht : Balanced 1 t) :
    Balanced 1 (s ++ ',' :: t) := by
  simpa using hs.append (comma ht)

theorem form (form : Form) {t : List Char} (ht : Balanced 1 t) :
    Balanced 0 (form.keyword.toList ++ '(' :: t) :=
  plain_append (fun _ hc => form.isPlain_of_mem_keyword hc) (opening ht)

theorem not_delimiter {d : Char} (hd : d = ',' ∨ d = ')') (t : List Char) :
    ¬Balanced 0 (d :: t) := by
  intro h
  rcases hd with rfl | rfl
  · cases h with | plain hc _ => exact absurd hc (by decide)
  · cases h with | plain hc _ => exact absurd hc (by decide)

/-- A balanced text that a comma or closing parenthesis follows ends at a definite place. -/
theorem append_delimiter_inj {n : ℕ} {s s' t t' : List Char} {d d' : Char} (hs : Balanced n s)
    (hs' : Balanced n s') (hd : d = ',' ∨ d = ')') (hd' : d' = ',' ∨ d' = ')')
    (h : s ++ d :: t = s' ++ d' :: t') : s = s' ∧ t = t' := by
  induction hs generalizing s' with
  | nil =>
    cases s' with
    | nil => exact ⟨rfl, (List.cons.inj h).2⟩
    | cons c s' =>
      obtain ⟨rfl, -⟩ := List.cons.inj h
      exact absurd hs' (not_delimiter hd s')
  | opening hb ih =>
    cases hs' with
    | nil => exact absurd (opening hb) ((List.cons.inj h).1 ▸ not_delimiter hd' _)
    | opening hb' => simpa using ih hb' (List.cons.inj h).2
    | plain hc _ => exact absurd hc ((List.cons.inj h).1 ▸ by decide)
    | closing _ => exact absurd (List.cons.inj h).1 (by decide)
    | comma _ => exact absurd (List.cons.inj h).1 (by decide)
  | closing hb ih =>
    cases hs' with
    | closing hb' => simpa using ih hb' (List.cons.inj h).2
    | plain hc _ => exact absurd hc ((List.cons.inj h).1 ▸ by decide)
    | opening _ => exact absurd (List.cons.inj h).1 (by decide)
    | comma _ => exact absurd (List.cons.inj h).1 (by decide)
  | comma hb ih =>
    cases hs' with
    | comma hb' => simpa using ih hb' (List.cons.inj h).2
    | plain hc _ => exact absurd hc ((List.cons.inj h).1 ▸ by decide)
    | opening _ => exact absurd (List.cons.inj h).1 (by decide)
    | closing _ => exact absurd (List.cons.inj h).1 (by decide)
  | plain hc hb ih =>
    cases hs' with
    | nil => exact absurd (plain hc hb) ((List.cons.inj h).1 ▸ not_delimiter hd' _)
    | plain _ hb' =>
      obtain ⟨rfl, ht⟩ := List.cons.inj h
      simpa using ih hb' ht
    | opening _ => exact absurd hc ((List.cons.inj h).1 ▸ by decide)
    | closing _ => exact absurd hc ((List.cons.inj h).1 ▸ by decide)
    | comma _ => exact absurd hc ((List.cons.inj h).1 ▸ by decide)

end Balanced

theorem Word.balanced (w : Word) : Balanced 0 w.letters :=
  Balanced.of_plain fun _ hc => Word.isPlain_of_mem hc

/-! ## Reading arguments -/

theorem Shape.eq_append_of_call {text rest : List Char} {form : Form}
    (h : Shape.ofText text = .call form rest) : text = form.keyword.toList ++ rest := by
  unfold Shape.ofText at h
  split at h
  · cases h
  · split_ifs at h
    split at h
    · next hs => cases h; exact Form.eq_append_of_split? hs
    · cases h

/-- Only an opening parenthesis at level zero leads into an argument list. -/
theorem one_le_of_levelAfter {level : ℤ} {c : Char} (hopen : ¬(c = '(' ∧ level = 0))
    (h : 1 ≤ levelAfter level c) : 1 ≤ level := by
  unfold levelAfter at h
  split_ifs at h with hparen hclose
  · have : level ≠ 0 := fun hzero => hopen ⟨hparen, hzero⟩
    omega
  · omega
  · exact h

section Arguments

variable {limit depth level start : ℤ} {piece : List Char}

theorem readArguments_nil : readArguments limit depth level start piece [] = .ok [] := by
  rw [readArguments]

theorem readArguments_opening (rest : List Char) :
    readArguments limit depth 0 start piece ('(' :: rest) =
      readArguments limit depth 1 (start + piece.length + 1) [] rest := by
  rw [readArguments]
  simp [levelAfter]

theorem readArguments_delimiter {d : Char} (hd : d = ',' ∨ d = ')') (rest : List Char) :
    readArguments limit depth 1 start piece (d :: rest) = (do
      let argument ← Expr.read limit piece.reverse start (depth + 1)
      let others ← readArguments limit depth (levelAfter 1 d) (start + piece.length + 1) [] rest
      return argument :: others) := by
  rw [readArguments]
  simp [hd]

theorem readArguments_passing {c : Char} (hopen : ¬(c = '(' ∧ level = 0))
    (hend : ¬((c = ',' ∨ c = ')') ∧ level = 1)) (rest : List Char) :
    readArguments limit depth level start piece (c :: rest) =
      readArguments limit depth (levelAfter level c) start (c :: piece) rest := by
  rw [readArguments, if_neg hopen, if_neg hend]

/-- Inside an argument list, a balanced text is passed over whole. -/
theorem readArguments_balanced {n : ℕ} {s : List Char} (hs : Balanced n s) (rest : List Char) :
    readArguments limit depth (n + 1) start piece (s ++ rest) =
      readArguments limit depth 1 start (s.reverse ++ piece) rest := by
  induction hs generalizing piece with
  | nil => simp
  | @opening n s h ih =>
    rw [List.cons_append, readArguments_passing (by omega) (by simp)]
    simpa [levelAfter] using ih
  | @closing n s h ih =>
    rw [List.cons_append, readArguments_passing (by simp) (by omega)]
    simpa [levelAfter] using ih
  | @comma n s h ih =>
    rw [List.cons_append, readArguments_passing (by simp) (by omega)]
    simpa [levelAfter] using ih
  | @plain n c s hc h ih =>
    obtain ⟨ho, hcl, hco⟩ := isPlain_iff.mp hc
    rw [List.cons_append, readArguments_passing (by simp [ho]) (by simp [hcl, hco])]
    simpa [levelAfter, ho, hcl] using ih

/-- The first argument of a list is the balanced text up to the first comma or closing
parenthesis after it. -/
theorem readArguments_argument {s : List Char} (hs : Balanced 0 s) {d : Char}
    (hd : d = ',' ∨ d = ')') (rest : List Char) :
    readArguments limit depth 1 start [] (s ++ d :: rest) = (do
      let argument ← Expr.read limit s start (depth + 1)
      let others ← readArguments limit depth (levelAfter 1 d) (start + s.length + 1) [] rest
      return argument :: others) := by
  have h : readArguments limit depth 1 start [] (s ++ d :: rest) =
      readArguments limit depth 1 start s.reverse (d :: rest) := by
    simpa using @readArguments_balanced limit depth start [] 0 s hs (d :: rest)
  rw [h, readArguments_delimiter hd, List.reverse_reverse, List.length_reverse]

theorem readArguments_next {s : List Char} (hs : Balanced 0 s) (rest : List Char) :
    readArguments limit depth 1 start [] (s ++ ',' :: rest) = (do
      let argument ← Expr.read limit s start (depth + 1)
      let others ← readArguments limit depth 1 (start + s.length + 1) [] rest
      return argument :: others) :=
  readArguments_argument hs (.inl rfl) rest

theorem readArguments_last {s : List Char} (hs : Balanced 0 s) :
    readArguments limit depth 1 start [] (s ++ [')']) = (do
      let argument ← Expr.read limit s start (depth + 1)
      return [argument]) := by
  rw [readArguments_argument hs (.inr rfl), readArguments_nil]
  rfl

end Arguments

end ExactCalc
