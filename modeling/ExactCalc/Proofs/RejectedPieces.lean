import ExactCalc.Proofs.ErrorPositions
import ExactCalc.Proofs.NestingLimit

/-!
# Rejected pieces on their own

A rejection for anything but the nesting depends on the rejected piece alone. Given
as a text of its own, the piece is rejected again, with the same message and the
same piece, and the position is where the defect shows in it: at its beginning or
behind its keyword. Nothing around the piece, neither its place nor its depth nor
what was read before it, has a part in the rejection.
-/

namespace ExactCalc

theorem Text.withoutBlanks_of_standsAt {text piece : String} {place : ℕ}
    (h : StandsAt place piece.toList (Text.withoutBlanks text).toList) :
    Text.withoutBlanks piece = piece := by
  obtain ⟨before, after, htext, -⟩ := h
  rw [← String.toList_inj, Text.toList_withoutBlanks, List.filter_eq_self]
  intro c hc
  have hmem : c ∈ (Text.withoutBlanks text).toList := by
    rw [htext]
    simp [hc]
  rw [Text.toList_withoutBlanks] at hmem
  exact (List.mem_filter.mp hmem).2

namespace Expr

/-- A text that is rejected somewhere in a source is rejected as a source, unless its nesting was
the reason. -/
theorem read_outermost {limit offset depth : ℤ} {text : List Char} {r : Rejection}
    (hdepth : 0 ≤ depth) (h : read limit text offset depth = .error r)
    (hr : ¬r.IsNesting limit) : read limit text 0 0 = .error (r.shift (-offset)) := by
  have hlevels : read limit text offset 0 = .error r := by
    rcases read_levels_le (show limit - depth ≤ limit - 0 by omega) text offset with
      heq | ⟨r', herror, hr'⟩
    · rw [← heq, h]
    · cases h.symm.trans herror
      exact absurd hr' hr
  have hshift := read_shift limit text offset 0 (-offset)
  rw [add_neg_cancel, hlevels] at hshift
  exact hshift

/-- The piece of a rejection is rejected by itself. -/
theorem read_piece {limit offset depth : ℤ} {text : List Char} {r : Rejection}
    (hdepth : 0 ≤ depth) (h : read limit text offset depth = .error r)
    (hr : ¬r.IsNesting limit) :
    read limit r.piece.toList 0 0 = .error { r with position := r.defect.keyword.length } := by
  induction text using piece_induction generalizing offset depth with
  | step text ih =>
    rcases (rejectedBy_of_read h).argument_or_whole with
      ⟨form, rest, hshape, piece, hpiece, hread⟩ | ⟨htext, hposition, -⟩
    · exact ih form rest hshape piece hpiece (by omega) hread
    · rw [htext, read_outermost hdepth h hr, Rejection.shift, hposition, add_neg_cancel_comm]

/-- A text that is rejected, and not for its nesting, has a piece that is rejected as a text of its
own under the same limit, for the same defect and so with the same message. Its position is then
zero, or the length of the keyword behind which the defect shows and which the message names. -/
theorem ofText_piece {limit : ℤ} {text : String} {r : Rejection}
    (h : ofText limit text = .error r) (hr : ¬r.IsNesting limit) :
    ofText limit r.piece = .error { r with position := r.defect.keyword.length } ∧
      ∀ keyword, r.Announces limit keyword ↔ keyword = r.defect.keyword := by
  obtain ⟨place, hstands, -, -⟩ := exists_standsAt_of_read h
  refine ⟨?_, fun _ => Rejection.announces_iff h⟩
  rw [ofText, Text.withoutBlanks_of_standsAt hstands]
  exact read_piece le_rfl h hr

/-- A form with too few arguments, two levels deep and behind an argument that is read. -/
theorem ofText_piece_arity :
    ofText 3 "add(sub(1, x), mult( div( 7 ), y))" =
        .error ⟨.tooFewArguments (.arithmetic .div), "div(7)", 21⟩ ∧
      ofText 3 "div(7)" = .error ⟨.tooFewArguments (.arithmetic .div), "div(7)", 3⟩ := by
  have hread : ofText 3 "add(sub(1, x), mult( div( 7 ), y))" =
      .error ⟨.tooFewArguments (.arithmetic .div), "div(7)", 21⟩ := by cbv
  have hr : ¬Rejection.IsNesting 3 ⟨.tooFewArguments (.arithmetic .div), "div(7)", 21⟩ := by
    intro hnesting
    cases Rejection.isNesting_iff.mp hnesting
  have hkeyword : "div".length = 3 := by decide
  refine ⟨hread, ?_⟩
  simpa [Defect.keyword, Form.keyword, Operator.keyword, hkeyword] using (ofText_piece hread hr).1

end Expr

end ExactCalc
