import ExactCalc.Proofs.NumeralValue
import ExactCalc.Proofs.Punctuation

/-!
# What a text that was read looks like

The reader looks at parentheses and commas only where they stand at the level of
an argument list, so it also reads texts with stray characters between a keyword
and its list, behind a list, or with a list that is never closed. A text that was
read belongs to the grammar with surplus arguments exactly when it is well
punctuated.
-/

namespace ExactCalc

/-! ## Kinds of text, taken apart -/

theorem Numeral.exists_literal {text digits : List Char} {negative : Bool} {n : ℤ}
    (hsplit : Numeral.split? text = some (negative, digits))
    (hword : Numeral.word32? negative digits = some n) :
    ∃ l : Literal, l.text = text ∧ l.value = n := by
  unfold Numeral.split? at hsplit
  simp only [Option.ite_none_right_eq_some, Bool.and_eq_true, Bool.not_eq_true',
    List.isEmpty_eq_false_iff, List.all_eq_true, Option.some.injEq, Prod.mk.injEq] at hsplit
  obtain ⟨⟨hne, hdigits⟩, hneg, hrest⟩ := hsplit
  rw [hneg] at hne hdigits hrest
  subst hrest
  rw [Numeral.word32?_eq hdigits, Option.ite_none_right_eq_some] at hword
  obtain ⟨hrange, hvalue⟩ := hword
  refine ⟨⟨negative, _, hne, hdigits, hrange⟩, ?_, Option.some.inj hvalue⟩
  cases negative with
  | false => simp [Literal.text]
  | true =>
    obtain ⟨rest, rfl⟩ := List.head?_eq_some_iff.mp (beq_iff_eq.mp hneg)
    simp [Literal.text]

theorem Shape.split?_of_literal {text digits : List Char} {negative : Bool}
    (h : Shape.ofText text = .literal negative digits) :
    Numeral.split? text = some (negative, digits) := by
  unfold Shape.ofText at h
  split at h
  · next hs => cases h; exact hs
  · split_ifs at h
    split at h <;> cases h

theorem Shape.exists_word {text : List Char} (h : Shape.ofText text = .name) :
    ∃ w : Word, w.letters = text := by
  unfold Shape.ofText at h
  split at h
  · cases h
  · split_ifs at h with hw
    · simp only [Bool.and_eq_true, Bool.not_eq_true', List.isEmpty_eq_false_iff,
        List.all_eq_true] at hw
      exact ⟨⟨text, hw.1, hw.2⟩, rfl⟩
    · split at h <;> cases h

theorem exists_of_bind_eq_ok {ε α β : Type} {first : Except ε α} {next : α → Except ε β}
    {result : β} (h : first >>= next = .ok result) :
    ∃ a, first = .ok a ∧ next a = .ok result := by
  cases first with
  | ok a => exact ⟨a, rfl, h⟩
  | error e => cases h

theorem Form.assemble_eq_ok {form : Form} {text : List Char} {offset : ℤ} {arguments : List Expr}
    {e : Expr} (h : form.assemble text offset arguments = .ok e) :
    (∃ op left right surplus, form = .arithmetic op ∧ arguments = left :: right :: surplus ∧
        e = .apply op left right) ∨
      ∃ x value body surplus, form = .binding ∧ arguments = .name x :: value :: body :: surplus ∧
        e = .letIn x value body := by
  unfold Form.assemble at h
  dsimp only at h
  split at h
  · cases h
    exact .inl ⟨_, _, _, _, rfl, rfl, rfl⟩
  · cases h
    exact .inr ⟨_, _, _, _, rfl, rfl, rfl⟩
  · cases h
  · cases h

/-! ## Balanced texts, taken apart -/

namespace Balanced

theorem of_plain_append {n : ℕ} {s t : List Char} (hs : ∀ c ∈ s, isPlain c = true)
    (h : Balanced n (s ++ t)) : Balanced n t := by
  induction s with
  | nil => exact h
  | cons c s ih =>
    have hc : isPlain c = true := hs c (by simp)
    refine ih (fun d hd => hs d (by simp [hd])) ?_
    cases h with
    | plain _ h => exact h
    | opening _ | closing _ | comma _ => exact absurd hc (by decide)

theorem of_opening {n : ℕ} {t : List Char} (h : Balanced n ('(' :: t)) : Balanced (n + 1) t := by
  cases h with
  | opening h => exact h
  | plain hc _ => exact absurd hc (by decide)

/-- Inside a parenthesis, the first comma or closing parenthesis at that level ends a balanced
text. -/
theorem exists_first {n : ℕ} {t : List Char} (h : Balanced (n + 1) t) :
    ∃ u d v, t = u ++ d :: v ∧ Balanced n u ∧
      (d = ',' ∧ Balanced 1 v ∨ d = ')' ∧ Balanced 0 v) := by
  induction t generalizing n with
  | nil => cases h
  | cons c t ih =>
    cases h with
    | opening h =>
      obtain ⟨u, d, v, rfl, hu, hv⟩ := ih h
      exact ⟨'(' :: u, d, v, rfl, .opening hu, hv⟩
    | closing h =>
      cases n with
      | zero => exact ⟨[], ')', t, rfl, .nil, .inr ⟨rfl, h⟩⟩
      | succ n =>
        obtain ⟨u, d, v, rfl, hu, hv⟩ := ih h
        exact ⟨')' :: u, d, v, rfl, .closing hu, hv⟩
    | comma h =>
      cases n with
      | zero => exact ⟨[], ',', t, rfl, .nil, .inl ⟨rfl, h⟩⟩
      | succ n =>
        obtain ⟨u, d, v, rfl, hu, hv⟩ := ih h
        exact ⟨',' :: u, d, v, rfl, .comma hu, hv⟩
    | plain hc h =>
      obtain ⟨u, d, v, rfl, hu, hv⟩ := ih h
      exact ⟨c :: u, d, v, rfl, .plain hc hu, hv⟩

theorem count_eq {n : ℕ} {t : List Char} (h : Balanced n t) :
    t.count '(' + n = t.count ')' := by
  induction h with
  | nil => rfl
  | opening h ih => simp; omega
  | closing h ih => simp; omega
  | comma h ih => simpa using ih
  | plain hc h ih =>
    obtain ⟨ho, hcl, -⟩ := isPlain_iff.mp hc
    simpa [ho, hcl] using ih

end Balanced

/-! ## Reading well punctuated texts -/

theorem readArguments_plain {limit depth start : ℤ} {piece s : List Char}
    (hs : ∀ c ∈ s, isPlain c = true) : readArguments limit depth 0 start piece s = .ok [] := by
  induction s generalizing piece with
  | nil => exact readArguments_nil
  | cons c s ih =>
    obtain ⟨ho, hcl, -⟩ := isPlain_iff.mp (hs c (by simp))
    have hlevel : levelAfter 0 c = 0 := by simp [levelAfter, ho, hcl]
    rw [readArguments_passing (by simp [ho]) (by simp), hlevel]
    exact ih fun d hd => hs d (by simp [hd])

/-- In a well punctuated text, what follows a keyword in front is a list or has no punctuation. -/
theorem WellPunctuated.after_keyword {form : Form} {rest : List Char}
    (h : WellPunctuated (form.keyword.toList ++ rest)) :
    (∀ c ∈ rest, isPlain c = true) ∨ ∃ inner, rest = '(' :: inner := by
  have hkey : ∀ c ∈ form.keyword.toList, isPlain c = true :=
    fun _ hc => form.isPlain_of_mem_keyword hc
  have hjunk : ∀ c ∈ rest.takeWhile isPlain, isPlain c = true :=
    fun _ hc => List.mem_takeWhile_imp hc
  have hrest : rest.takeWhile isPlain ++ rest.dropWhile isPlain = rest :=
    List.takeWhile_append_dropWhile
  cases hd : rest.dropWhile isPlain with
  | nil => exact .inl (List.dropWhile_eq_nil_iff.mp hd)
  | cons c after =>
    have hc : isPlain c = false := by
      have := List.head?_dropWhile_not isPlain rest
      simpa [hd] using this
    rw [hd] at hrest
    generalize rest.takeWhile isPlain = junk at hjunk hrest
    subst hrest
    rcases isPlain_eq_false_iff.mp hc with rfl | hdelim
    · -- All of the keyword and what follows it stands before the parenthesis: it is a keyword.
      obtain ⟨form', hform'⟩ := h.tight.opened (form.keyword.toList ++ junk) after (by simp)
      have hplain : ∀ c ∈ form.keyword.toList ++ junk, isPlain c = true := by
        intro c hmem
        exact (List.mem_append.mp hmem).elim (hkey c) (hjunk c)
      rw [List.rtakeWhile_eq_self_iff.mpr hplain] at hform'
      have hsplit : some (form, junk) = some (form', []) := by
        rw [← Form.split?_append form junk, hform', ← Form.split?_append form' [],
          List.append_nil]
      obtain ⟨-, rfl⟩ : form = form' ∧ junk = [] := by simpa using hsplit
      exact .inr ⟨after, rfl⟩
    · have hb : Balanced 0 (c :: after) := (h.balanced.of_plain_append hkey).of_plain_append hjunk
      exact absurd hb (Balanced.not_delimiter hdelim.symm after)

/-- What was read from a balanced list of arguments: an argument first, then the others. -/
theorem exists_of_readArguments {limit depth start : ℤ} {inner : List Char}
    {arguments : List Expr} (hb : Balanced 1 inner)
    (hread : readArguments limit depth 1 start [] inner = .ok arguments) :
    ∃ u d v e others, inner = u ++ d :: v ∧ arguments = e :: others ∧ Balanced 0 u ∧
      (d = ',' ∧ Balanced 1 v ∨ d = ')' ∧ Balanced 0 v) ∧
      Expr.read limit u start (depth + 1) = .ok e ∧
      readArguments limit depth (levelAfter 1 d) (start + u.length + 1) [] v = .ok others := by
  obtain ⟨u, d, v, rfl, hu, hd⟩ := hb.exists_first
  rw [readArguments_argument hu (hd.imp And.left And.left)] at hread
  obtain ⟨e, he, hread⟩ := exists_of_bind_eq_ok hread
  obtain ⟨others, hothers, hread⟩ := exists_of_bind_eq_ok hread
  cases hread
  exact ⟨u, d, v, e, others, rfl, rfl, hu, hd, he, hothers⟩

namespace Lists

/-- A well punctuated list of arguments lists what was read from it and ends where it is closed. -/
theorem of_readArguments {limit depth start : ℤ} {inner : List Char} {arguments : List Expr}
    (hread : readArguments limit depth 1 start [] inner = .ok arguments)
    (hb : Balanced 1 inner) (ht : Tight inner)
    (hpieces : ∀ piece place e, piece.length < inner.length → WellPunctuated piece →
      Expr.read limit piece place (depth + 1) = .ok e → Lists piece [e]) :
    ∃ texts, inner = texts ++ [')'] ∧ Lists texts arguments := by
  induction arguments generalizing inner start with
  | nil =>
    obtain ⟨_, _, _, _, _, -, hargs, -⟩ := exists_of_readArguments hb hread
    cases hargs
  | cons e others ih =>
    obtain ⟨u, d, v, e, others, rfl, hargs, hu, hd, he, hothers⟩ :=
      exists_of_readArguments hb hread
    cases hargs
    have hfirst : Lists u [e] := hpieces u start e (by simp) ⟨hu, ht.of_append_left⟩ he
    rcases hd with ⟨rfl, hv⟩ | ⟨rfl, hv⟩
    · have htv : Tight v := ht.of_append_right rfl
      obtain ⟨texts, rfl, hlists⟩ := ih hothers hv htv fun piece place e hlt =>
        hpieces piece place e (by simp; omega)
      exact ⟨u ++ ',' :: texts, by simp, .cons hfirst hlists⟩
    · have hend : v = [] := by
        cases v with
        | nil => rfl
        | cons c v => exact absurd hv (Balanced.not_delimiter (ht.closed u (c :: v) rfl c rfl) v)
      subst hend
      rw [readArguments_nil] at hothers
      cases hothers
      exact ⟨u, rfl, hfirst⟩

/-- A well punctuated text that was read is a text of the grammar with surplus arguments. -/
theorem of_read {limit depth offset : ℤ} {text : List Char} {e : Expr} (hp : WellPunctuated text)
    (hread : Expr.read limit text offset depth = .ok e) : Lists text [e] := by
  obtain ⟨n, hn⟩ : ∃ n, text.length = n := ⟨_, rfl⟩
  induction n using Nat.strong_induction_on generalizing text e offset depth with
  | _ n ih =>
  by_cases hlimit : limit < depth
  · rw [Expr.read_of_lt hlimit] at hread
    cases hread
  have hd : depth ≤ limit := not_lt.mp hlimit
  cases hshape : Shape.ofText text with
  | literal negative digits =>
    rw [Expr.read_literal hd hshape] at hread
    cases hword : Numeral.word32? negative digits with
    | none => simp [hword] at hread
    | some n =>
      obtain ⟨l, rfl, rfl⟩ := Numeral.exists_literal (Shape.split?_of_literal hshape) hword
      rw [hword] at hread
      cases hread
      exact .literal l
  | name =>
    rw [Expr.read_name hd hshape] at hread
    cases hread
    obtain ⟨w, rfl⟩ := Shape.exists_word hshape
    exact .name w
  | unreadable =>
    rw [Expr.read_unreadable hd hshape] at hread
    cases hread
  | call form rest =>
    rw [Expr.read_call hd hshape] at hread
    obtain ⟨arguments, hargs, hform⟩ := exists_of_bind_eq_ok hread
    obtain rfl := Shape.eq_append_of_call hshape
    rcases hp.after_keyword with hplain | ⟨inner, rfl⟩
    · rw [readArguments_plain hplain] at hargs
      cases hargs
      rcases Form.assemble_eq_ok hform with ⟨_, _, _, _, -, h, -⟩ | ⟨_, _, _, _, -, h, -⟩ <;>
        cases h
    · rw [readArguments_opening] at hargs
      have hb : Balanced 1 inner :=
        (hp.balanced.of_plain_append fun _ hc => form.isPlain_of_mem_keyword hc).of_opening
      obtain ⟨texts, rfl, hlists⟩ := of_readArguments hargs hb (hp.tight.of_append_right rfl)
        fun piece place e hlt hpiece hread =>
          ih piece.length (by simp at hn; omega) hpiece hread rfl
      rcases Form.assemble_eq_ok hform with
        ⟨op, left, right, surplus, rfl, rfl, rfl⟩ | ⟨x, value, body, surplus, rfl, rfl, rfl⟩
      · exact .apply op hlists
      · cases hlists with
        | cons hname hrest =>
          cases hname with
          | name w => exact .letIn w hrest
          | cons _ hnone => exact absurd rfl hnone.ne_nil

end Lists

/-- A text that was read belongs to the grammar with surplus arguments exactly when, without its
blanks, it is well punctuated, and then it is a text of the expression that was read. -/
theorem Expr.ofText_derivable_iff {limit : ℤ} {text : String} {expr : Expr}
    (hread : Expr.ofText limit text = .ok expr) :
    ((∃ e, Lists (Text.withoutBlanks text).toList [e]) ↔
        WellPunctuated (Text.withoutBlanks text).toList) ∧
      (WellPunctuated (Text.withoutBlanks text).toList →
        Lists (Text.withoutBlanks text).toList [expr]) := by
  have hlists (hp : WellPunctuated (Text.withoutBlanks text).toList) :
      Lists (Text.withoutBlanks text).toList [expr] := Lists.of_read hp hread
  refine ⟨⟨?_, fun hp => ⟨expr, hlists hp⟩⟩, hlists⟩
  rintro ⟨e, he⟩
  exact he.wellPunctuated

theorem Expr.ofText_derivable_iff_surplus :
    Expr.ofText 2 "add(1, let(x, 2, x), 9)" =
        .ok (.apply .add (.number 1) (.letIn "x" (.number 2) (.name "x"))) ∧
      Lists "add(1,let(x,2,x),9)".toList
        [.apply .add (.number 1) (.letIn "x" (.number 2) (.name "x"))] := by
  have hread : Expr.ofText 2 "add(1, let(x, 2, x), 9)" =
      .ok (.apply .add (.number 1) (.letIn "x" (.number 2) (.name "x"))) := by cbv
  have hb (c : Char) (hc : isPlain c = true) : Balanced 0 [c] := .of_plain (by simp [hc])
  have ht (c : Char) (hc : isPlain c = true) : Tight [c] := .of_plain (by simp [hc])
  have hletb : Balanced 0 "let(x,2,x)".toList :=
    .form .binding ((hb 'x' rfl).followed ((hb '2' rfl).followed (hb 'x' rfl).enclosed))
  have hbody : Tight "x,2,x".toList := (ht 'x' rfl).comma ((ht '2' rfl).comma (ht 'x' rfl))
  have hlett : Tight "let(x,2,x)".toList := .form .binding hbody
  have hargs : Tight "1,let(x,2,x),9".toList := (ht '1' rfl).comma (hlett.comma (ht '9' rfl))
  have hp : WellPunctuated "add(1,let(x,2,x),9)".toList :=
    ⟨.form (.arithmetic .add) ((hb '1' rfl).followed (hletb.followed (hb '9' rfl).enclosed)),
      .form (.arithmetic .add) hargs⟩
  exact ⟨hread, (Expr.ofText_derivable_iff hread).2 hp⟩

/-- A longer name than the keyword, a list that is not closed, characters behind the list, and a
second list: each of these texts is read, and none of them is in the grammar. -/
theorem Expr.ofText_underivable :
    (Expr.ofText 256 "addition(1,2)" = .ok (.apply .add (.number 1) (.number 2)) ∧
        ¬∃ e, Lists "addition(1,2)".toList [e]) ∧
      (Expr.ofText 256 "add(1,2,3" = .ok (.apply .add (.number 1) (.number 2)) ∧
        ¬∃ e, Lists "add(1,2,3".toList [e]) ∧
      (Expr.ofText 256 "add(1,2)zz" = .ok (.apply .add (.number 1) (.number 2)) ∧
        ¬∃ e, Lists "add(1,2)zz".toList [e]) ∧
      (Expr.ofText 256 "add(1)(2)" = .ok (.apply .add (.number 1) (.number 2)) ∧
        ¬∃ e, Lists "add(1)(2)".toList [e]) := by
  refine ⟨⟨by cbv, ?_⟩, ⟨by cbv, ?_⟩, ⟨by cbv, ?_⟩, ⟨by cbv, ?_⟩⟩
  · rintro ⟨e, h⟩
    obtain ⟨form, hform⟩ := h.tight.opened "addition".toList "1,2)".toList rfl
    rcases form with (_ | _ | _ | _) | _ <;> cases hform
  · rintro ⟨e, h⟩
    exact absurd h.balanced.count_eq (by decide)
  · rintro ⟨e, h⟩
    exact absurd (h.tight.closed "add(1,2".toList "zz".toList rfl 'z' rfl) (by decide)
  · rintro ⟨e, h⟩
    exact absurd (h.tight.closed "add(1".toList "(2)".toList rfl '(' rfl) (by decide)

end ExactCalc
