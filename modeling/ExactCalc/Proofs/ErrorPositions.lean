import ExactCalc.Proofs.RejectionMessages

/-!
# Where a rejection points

A rejection tells a piece of the source and a position. The piece stands in the
source, and the position is where it begins or, for a form, where its keyword
ends; this holds however deep the piece lies and whatever stands around it. Reading
the same text at another offset moves the position along and changes nothing else.
-/

namespace ExactCalc

/-- The same rejection, and so the same message, further on in the source. -/
def Rejection.shift (k : ℤ) (r : Rejection) : Rejection := { r with position := r.position + k }

/-! ## Pieces in the source -/

/-- An argument of a form is rejected, or the text itself is; its defect shows where it begins or
behind its keyword. -/
theorem RejectedBy.argument_or_whole {limit offset depth : ℤ} {text : List Char} {r : Rejection}
    (h : RejectedBy limit text offset depth r) :
    (∃ form rest, Shape.ofText text = .call form rest ∧ ∃ piece ∈ form.pieces rest,
        Expr.read limit piece.text (offset + piece.place) (depth + 1) = .error r) ∨
      r.piece.toList = text ∧ r.position = offset + r.defect.keyword.length ∧
        r.defect.keyword.toList <+: text := by
  cases h with
  | piece hshape hpiece h => exact .inl ⟨_, _, hshape, _, hpiece, h⟩
  | tooDeep _ => exact .inr ⟨by simp, by simp [Defect.keyword], by simp [Defect.keyword]⟩
  | outOfRange => exact .inr ⟨by simp, by simp [Defect.keyword], by simp [Defect.keyword]⟩
  | unreadable => exact .inr ⟨by simp, by simp [Defect.keyword], by simp [Defect.keyword]⟩
  | tooFewArguments hshape =>
    refine .inr ⟨by simp, by simp [Defect.keyword], ?_⟩
    rw [Shape.eq_append_of_call hshape]
    exact List.prefix_append _ _
  | unnamedBinding hshape =>
    refine .inr ⟨by simp, by simp [Defect.keyword, Form.keyword], ?_⟩
    rw [Shape.eq_append_of_call hshape]
    exact List.prefix_append _ _

/-- The rejected piece stands in the text that was read, and the position follows from its place. -/
theorem Expr.exists_standsAt_of_read {limit offset depth : ℤ} {text : List Char} {r : Rejection}
    (h : Expr.read limit text offset depth = .error r) :
    ∃ place, StandsAt place r.piece.toList text ∧
      r.position = offset + place + r.defect.keyword.length ∧
      r.defect.keyword.toList <+: r.piece.toList := by
  induction text using piece_induction generalizing offset depth with
  | step text ih =>
    rcases (rejectedBy_of_read h).argument_or_whole with
      ⟨form, rest, hshape, piece, hpiece, hread⟩ | ⟨htext, hposition, hkeyword⟩
    · obtain ⟨place, hstands, hposition, hkeyword⟩ := ih form rest hshape piece hpiece hread
      refine ⟨_, hstands.trans (Form.standsAt_of_mem_pieces hshape hpiece), ?_, hkeyword⟩
      rw [hposition]
      push_cast
      ring
    · rw [htext]
      exact ⟨0, .whole text, by simp [hposition], hkeyword⟩

/-! ## Offsets -/

theorem mapError_bind {ε ε' α β : Type} (φ : ε → ε') (first : Except ε α)
    (next : α → Except ε β) :
    (first >>= next).mapError φ = first.mapError φ >>= fun a => (next a).mapError φ := by
  cases first with
  | ok a => rfl
  | error e => rfl

theorem mapM_mapError {ε ε' α β : Type} (φ : ε → ε') {f : α → Except ε β}
    {g : α → Except ε' β} {items : List α} (h : ∀ a ∈ items, g a = (f a).mapError φ) :
    items.mapM g = (items.mapM f).mapError φ := by
  induction items with
  | nil => rfl
  | cons a items ih =>
    rw [List.mapM_cons, List.mapM_cons, h a (by simp), ih fun a' ha' => h a' (by simp [ha']),
      mapError_bind]
    congr 1
    funext b
    rw [mapError_bind]
    rfl

theorem Form.assemble_shift (form : Form) (text : List Char) (offset k : ℤ)
    (arguments : List Expr) :
    form.assemble text (offset + k) arguments =
      (form.assemble text offset arguments).mapError (Rejection.shift k) := by
  unfold Form.assemble
  dsimp only
  rw [add_right_comm]
  split <;> rfl

theorem Expr.read_shift (limit : ℤ) (text : List Char) (offset depth k : ℤ) :
    Expr.read limit text (offset + k) depth =
      (Expr.read limit text offset depth).mapError (Rejection.shift k) := by
  induction text using piece_induction generalizing offset depth with
  | step text ih =>
    by_cases hlimit : limit < depth
    · rw [Expr.read_of_lt hlimit, Expr.read_of_lt hlimit]
      rfl
    have hd : depth ≤ limit := not_lt.mp hlimit
    cases hshape : Shape.ofText text with
    | literal negative digits =>
      rw [Expr.read_literal hd hshape, Expr.read_literal hd hshape]
      cases Numeral.word32? negative digits with
      | none => rfl
      | some n => rfl
    | name =>
      rw [Expr.read_name hd hshape, Expr.read_name hd hshape]
      rfl
    | unreadable =>
      rw [Expr.read_unreadable hd hshape, Expr.read_unreadable hd hshape]
      rfl
    | call form rest =>
      rw [Expr.read_pieces hd hshape, Expr.read_pieces hd hshape, mapError_bind]
      congr 1
      · refine mapM_mapError _ fun piece hpiece => ?_
        rw [add_right_comm]
        exact ih form rest hshape piece hpiece _ _
      · funext arguments
        exact form.assemble_shift text offset k arguments

/-! ## Positions -/

/-- A rejected piece stands in the source at the position of the rejection, less the keyword for a
defect that shows behind one; a piece with such a defect begins with that keyword, and the message
tells which keyword it is. So the position lies in the source. And reading at another offset shifts
the position and nothing else. -/
theorem Expr.ofText_position :
    (∀ limit text r, Expr.ofText limit text = .error r →
      (∃ before after, (Text.withoutBlanks text).toList = before ++ (r.piece.toList ++ after) ∧
        r.position = before.length + r.defect.keyword.length ∧
        r.defect.keyword.toList <+: r.piece.toList) ∧
      (∀ keyword, r.Announces limit keyword ↔ keyword = r.defect.keyword) ∧
      0 ≤ r.position ∧ r.position ≤ (Text.withoutBlanks text).length) ∧
    ∀ limit text offset depth k, Expr.read limit text (offset + k) depth =
      (Expr.read limit text offset depth).mapError (Rejection.shift k) := by
  refine ⟨?_, Expr.read_shift⟩
  intro limit text r h
  obtain ⟨place, ⟨before, after, hsource, rfl⟩, hposition, hkeyword⟩ :=
    Expr.exists_standsAt_of_read h
  rw [zero_add] at hposition
  refine ⟨⟨before, after, hsource, hposition, hkeyword⟩, fun _ => Rejection.announces_iff h,
    by omega, ?_⟩
  have hlength := congrArg List.length hsource
  have hle := hkeyword.length_le
  simp only [List.length_append, String.length_toList] at hlength hle
  omega

/-- The innermost of three forms declares a literal. -/
theorem Expr.ofText_position_nested :
    Expr.ofText 256 "add(x, mult(2, let(7, 1, 0)))" =
        .error ⟨.unnamedBinding, "let(7,1,0)", 16⟩ ∧
      ∃ before after, "add(x,mult(2,let(7,1,0)))".toList =
          before ++ ("let(7,1,0)".toList ++ after) ∧
        (16 : ℤ) = before.length + "let".length ∧ "let".toList <+: "let(7,1,0)".toList := by
  have hread : Expr.ofText 256 "add(x, mult(2, let(7, 1, 0)))" =
      .error ⟨.unnamedBinding, "let(7,1,0)", 16⟩ := by cbv
  exact ⟨hread, (Expr.ofText_position.1 _ _ _ hread).1⟩

end ExactCalc
