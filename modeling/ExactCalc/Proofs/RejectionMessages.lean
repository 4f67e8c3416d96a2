import ExactCalc.Proofs.NumeralValue
import ExactCalc.Proofs.Pieces

/-!
# What a message tells

The message of a rejection tells its defect. The five kinds of message begin with five
different letters; one that lacks arguments names the keyword of its form, and one
about nesting names the limit. So a statement about the defect of a rejection is one
about its message.
-/

namespace ExactCalc

/-- The keyword behind which a defect shows. The other defects show where the piece begins. -/
def Defect.keyword : Defect → String
  | tooFewArguments form => form.keyword
  | unnamedBinding => "let"
  | tooDeep _ | outOfRange | unreadable => ""

/-- The letter with which the message about a defect begins. -/
def Defect.initial : Defect → Char
  | tooDeep _ => 'E'
  | outOfRange => 'I'
  | tooFewArguments _ => 'N'
  | unnamedBinding => 'l'
  | unreadable => 'U'

/-- No two keywords begin with the same letter. -/
theorem Form.eq_of_head {form form' : Form}
    (h : form.keyword.toList.head? = form'.keyword.toList.head?) : form = form' := by
  revert h
  cases form with
  | binding =>
    cases form' with
    | binding => decide
    | arithmetic op => cases op <;> decide
  | arithmetic op =>
    cases form' with
    | binding => cases op <;> decide
    | arithmetic op' => cases op <;> cases op' <;> decide

namespace Rejection

variable {r r' : Rejection} {limit : ℤ} {form form' : Form}

theorem head?_message (r : Rejection) : r.message.toList.head? = some r.defect.initial := by
  unfold message
  cases r.defect with
  | tooDeep limit => simp [toString, Defect.initial]
  | outOfRange => simp [toString, Defect.initial]
  | tooFewArguments form => simp [toString, Defect.initial]
  | unnamedBinding => simp [toString, Defect.initial]
  | unreadable => simp [toString, Defect.initial]

theorem toList_message_tooDeep (h : r.defect = .tooDeep limit) :
    r.message.toList = "Expression nested deeper than ".toList ++
      ((Numeral.ofInt limit).toList ++ " levels".toList) := by
  rw [message, h]
  simp [toString]

theorem toList_message_tooFewArguments (h : r.defect = .tooFewArguments form) :
    r.message.toList = "Not enough arguments for ".toList ++
      (form.keyword.toList ++ (": ".toList ++ r.piece.toList)) := by
  rw [message, h]
  simp [toString]

/-- Two messages about missing arguments name the same form. -/
theorem form_eq_of_message (h : r.message = r'.message) (hr : r.defect = .tooFewArguments form)
    (hr' : r'.defect = .tooFewArguments form') : form = form' := by
  have hlists := congrArg String.toList h
  rw [toList_message_tooFewArguments hr, toList_message_tooFewArguments hr'] at hlists
  have hheads := congrArg List.head? (List.append_cancel_left hlists)
  have hkeyword (form : Form) : form.keyword.toList.head?.isSome = true := by
    cases form with
    | binding => rfl
    | arithmetic op => cases op <;> rfl
  simp only [List.head?_append, Option.or_of_isSome (hkeyword _)] at hheads
  exact Form.eq_of_head hheads

theorem limit_eq_of_message {limit' : ℤ} (h : r.message = r'.message)
    (hr : r.defect = .tooDeep limit) (hr' : r'.defect = .tooDeep limit') : limit = limit' := by
  have hlists := congrArg String.toList h
  rw [toList_message_tooDeep hr, toList_message_tooDeep hr'] at hlists
  have hnumerals := List.append_cancel_right (List.append_cancel_left hlists)
  exact Numeral.ofInt_injective (String.toList_inj.mp hnumerals)

/-- Rejections with the same message have the same defect. -/
theorem defect_eq_of_message (h : r.message = r'.message) : r.defect = r'.defect := by
  have hinitial : r.defect.initial = r'.defect.initial := by
    have hheads := congrArg (fun s => s.toList.head?) h
    simp only [head?_message] at hheads
    exact Option.some.inj hheads
  cases hr : r.defect with
  | tooDeep limit =>
    cases hr' : r'.defect with
    | tooDeep limit' => rw [limit_eq_of_message h hr hr']
    | _ => simp [hr, hr', Defect.initial] at hinitial
  | tooFewArguments form =>
    cases hr' : r'.defect with
    | tooFewArguments form' => rw [form_eq_of_message h hr hr']
    | _ => simp [hr, hr', Defect.initial] at hinitial
  | outOfRange =>
    cases hr' : r'.defect with
    | outOfRange => rfl
    | _ => simp [hr, hr', Defect.initial] at hinitial
  | unnamedBinding =>
    cases hr' : r'.defect with
    | unnamedBinding => rfl
    | _ => simp [hr, hr', Defect.initial] at hinitial
  | unreadable =>
    cases hr' : r'.defect with
    | unreadable => rfl
    | _ => simp [hr, hr', Defect.initial] at hinitial

/-- A message that is worded like that of a defect is about that defect. -/
theorem defect_of_message (defect : Defect) (h : r.message = message ⟨defect, r.piece, 0⟩) :
    r.defect = defect :=
  defect_eq_of_message h

/-- The text was rejected because it lies too deep for the limit. -/
def IsNesting (limit : ℤ) (r : Rejection) : Prop :=
  r.message = s!"Expression nested deeper than {Numeral.ofInt limit} levels"

theorem isNesting_of_defect (h : r.defect = .tooDeep limit) : r.IsNesting limit := by
  rw [IsNesting, message, h]

/-- No other defect has such a message, and no other limit. -/
theorem isNesting_iff : r.IsNesting limit ↔ r.defect = .tooDeep limit := by
  constructor
  · exact defect_of_message (.tooDeep limit)
  · exact isNesting_of_defect

/-- What the message of a rejection says, with the keyword behind which its position lies. Three of
the messages give the beginning of the piece for their position, and no keyword. -/
inductive Announces (limit : ℤ) (r : Rejection) : String → Prop
  | nesting (h : r.message = s!"Expression nested deeper than {Numeral.ofInt limit} levels") :
      Announces limit r ""
  | range (h : r.message = s!"Integer literal out of 32-bit range: {r.piece}") :
      Announces limit r ""
  | unreadable (h : r.message = s!"Unable to parse the expression: {r.piece}") :
      Announces limit r ""
  | arity (form : Form) (h : r.message = s!"Not enough arguments for {form.keyword}: {r.piece}") :
      Announces limit r form.keyword
  | declaration
      (h : r.message = s!"let expects a variable name as its first argument: {r.piece}") :
      Announces limit r "let"

theorem Announces.eq_keyword {keyword : String} (h : r.Announces limit keyword) :
    keyword = r.defect.keyword := by
  cases h with
  | nesting h => rw [defect_of_message (.tooDeep limit) h, Defect.keyword]
  | range h => rw [defect_of_message .outOfRange h, Defect.keyword]
  | unreadable h => rw [defect_of_message .unreadable h, Defect.keyword]
  | arity form h => rw [defect_of_message (.tooFewArguments form) h, Defect.keyword]
  | declaration h => rw [defect_of_message .unnamedBinding h, Defect.keyword]

end Rejection

/-- A text that lies too deep does so for the limit under which it was read. -/
theorem Expr.limit_of_read_tooDeep {limit limit' : ℤ} {text : List Char} {offset depth : ℤ}
    {r : Rejection} (h : Expr.read limit text offset depth = .error r)
    (hr : r.defect = .tooDeep limit') : limit' = limit := by
  induction text using piece_induction generalizing offset depth with
  | step text ih =>
    cases Expr.rejectedBy_of_read h with
    | tooDeep _ => exact (Defect.tooDeep.inj hr).symm
    | piece hshape hpiece h => exact ih _ _ hshape _ hpiece h
    | outOfRange => cases hr
    | unreadable => cases hr
    | tooFewArguments _ => cases hr
    | unnamedBinding _ => cases hr

/-- Every text that is rejected has one of the five messages. -/
theorem Rejection.announces_iff {limit offset depth : ℤ} {r : Rejection} {text : List Char}
    {keyword : String} (h : Expr.read limit text offset depth = .error r) :
    r.Announces limit keyword ↔ keyword = r.defect.keyword := by
  constructor
  · exact Announces.eq_keyword
  · rintro rfl
    cases hr : r.defect with
    | tooDeep limit' =>
      obtain rfl := Expr.limit_of_read_tooDeep h hr
      exact .nesting (isNesting_of_defect hr)
    | outOfRange => exact .range (by rw [message, hr])
    | unreadable => exact .unreadable (by rw [message, hr])
    | tooFewArguments form => exact .arity form (by rw [message, hr])
    | unnamedBinding => exact .declaration (by rw [message, hr])

end ExactCalc
