import ExactCalc.Proofs.RejectionMessages

/-!
# The nesting limit

A smaller limit can turn a reading into a rejection for its nesting, and changes
nothing else: no other rejection is hidden by it, moved or brought about. Every
form around a piece takes five characters at least, so that a text of a given
length is read in one way under all limits from some limit on.
-/

namespace ExactCalc

/-- Two runs over the same items agree, or the first ends in an error of the kind that one of its
items may give. -/
theorem mapM_eq_or {ε α β : Type} {f g : α → Except ε β} {items : List α} {P : ε → Prop}
    (h : ∀ a ∈ items, f a = g a ∨ ∃ e, f a = .error e ∧ P e) :
    items.mapM f = items.mapM g ∨ ∃ e, items.mapM f = .error e ∧ P e := by
  induction items with
  | nil => exact .inl rfl
  | cons a items ih =>
    rw [List.mapM_cons, List.mapM_cons]
    rcases h a (by simp) with ha | ⟨e, ha, he⟩
    · rcases ih fun a' ha' => h a' (by simp [ha']) with hrest | ⟨e, hrest, he⟩
      · exact .inl (by rw [ha, hrest])
      · cases hf : f a with
        | error e' => exact .inl (by rw [← ha, hf]; rfl)
        | ok b => exact .inr ⟨e, by rw [hrest]; rfl, he⟩
    · exact .inr ⟨e, by rw [ha]; rfl, he⟩

namespace Expr

/-- With no more levels left below it, a text is read in the same way, or is rejected for its
nesting. -/
theorem read_levels_le {limit limit' depth depth' : ℤ} (h : limit - depth ≤ limit' - depth')
    (text : List Char) (offset : ℤ) :
    read limit text offset depth = read limit' text offset depth' ∨
      ∃ r, read limit text offset depth = .error r ∧ r.IsNesting limit := by
  induction text using piece_induction generalizing offset depth depth' with
  | step text ih =>
    by_cases hlimit : limit < depth
    · exact .inr ⟨_, read_of_lt hlimit text offset, Rejection.isNesting_of_defect rfl⟩
    have hd : depth ≤ limit := not_lt.mp hlimit
    have hd' : depth' ≤ limit' := by omega
    cases hshape : Shape.ofText text with
    | literal negative digits =>
      exact .inl (by rw [read_literal hd hshape, read_literal hd' hshape])
    | name => exact .inl (by rw [read_name hd hshape, read_name hd' hshape])
    | unreadable => exact .inl (by rw [read_unreadable hd hshape, read_unreadable hd' hshape])
    | call form rest =>
      have hbelow : limit - (depth + 1) ≤ limit' - (depth' + 1) := by omega
      rw [read_pieces hd hshape, read_pieces hd' hshape]
      rcases mapM_eq_or fun piece hpiece =>
        ih form rest hshape piece hpiece hbelow (offset + piece.place) with
          heq | ⟨r, herror, hr⟩
      · exact .inl (by rw [heq])
      · exact .inr ⟨r, by rw [herror]; rfl, hr⟩

/-- Under a smaller limit a text is read in the same way, or is rejected for its nesting. -/
theorem read_limit_le {limit limit' : ℤ} (h : limit ≤ limit') (text : List Char)
    (offset depth : ℤ) :
    read limit text offset depth = read limit' text offset depth ∨
      ∃ r, read limit text offset depth = .error r ∧ r.IsNesting limit :=
  read_levels_le (by omega) text offset

/-- Each level between a text and the piece that lies too deep takes five of its characters. -/
theorem length_of_read_tooDeep {limit limit' : ℤ} {text : List Char} {offset depth : ℤ}
    {r : Rejection} (h : read limit text offset depth = .error r)
    (hr : r.defect = .tooDeep limit') : 5 * (limit + 1 - depth) ≤ text.length := by
  induction text using piece_induction generalizing offset depth with
  | step text ih =>
    cases rejectedBy_of_read h with
    | tooDeep hlimit => omega
    | piece hshape hpiece h =>
      have hlevel := ih _ _ hshape _ hpiece h
      have hlength := Form.length_of_mem_pieces hshape hpiece
      omega
    | outOfRange => cases hr
    | unreadable => cases hr
    | tooFewArguments _ => cases hr
    | unnamedBinding _ => cases hr

theorem length_of_ofText_isNesting {limit : ℤ} {text : String} {r : Rejection}
    (h : ofText limit text = .error r) (hr : r.IsNesting limit) :
    5 * (limit + 1) ≤ (Text.withoutBlanks text).length := by
  have hlength := length_of_read_tooDeep h (Rejection.isNesting_iff.mp hr)
  rwa [sub_zero, String.length_toList] at hlength

/-- A limit that is smaller than another gives the same reading or a rejection for the nesting. The
latter takes five characters for each level, so a text is read in the same way under all limits
from some limit on. -/
theorem ofText_limit (text : String) :
    (∀ limit limit', limit ≤ limit' → ofText limit text = ofText limit' text ∨
        ∃ r, ofText limit text = .error r ∧ r.IsNesting limit) ∧
      (∀ limit, (∃ r, ofText limit text = .error r ∧ r.IsNesting limit) →
        5 * (limit + 1) ≤ (Text.withoutBlanks text).length) ∧
      ∃ enough, ∀ limit, enough ≤ limit → ofText limit text = ofText enough text := by
  refine ⟨?_, ?_, (Text.withoutBlanks text).length, ?_⟩
  · intro limit limit' h
    exact read_limit_le h _ 0 0
  · rintro limit ⟨r, h, hr⟩
    exact length_of_ofText_isNesting h hr
  · intro limit h
    rcases read_limit_le h (Text.withoutBlanks text).toList 0 0 with heq | ⟨r, herror, hr⟩
    · exact heq.symm
    · have hlength := length_of_ofText_isNesting herror hr
      omega

/-- The shortest text with a piece below two forms. -/
theorem ofText_limit_shortest :
    (∃ r, ofText 1 "add(add())" = .error r ∧ r.IsNesting 1) ∧
      5 * ((1 : ℤ) + 1) ≤ (Text.withoutBlanks "add(add())").length ∧
      (ofText 1 "add(add())" = ofText 2 "add(add())" ∨
        ∃ r, ofText 1 "add(add())" = .error r ∧ r.IsNesting 1) := by
  have hread : ofText 1 "add(add())" = .error ⟨.tooDeep 1, "", 8⟩ := by cbv
  have hnesting : ∃ r, ofText 1 "add(add())" = .error r ∧ r.IsNesting 1 :=
    ⟨_, hread, Rejection.isNesting_of_defect rfl⟩
  obtain ⟨hsame, hlength, -⟩ := ofText_limit "add(add())"
  exact ⟨hnesting, hlength 1 hnesting, hsame 1 2 (by decide)⟩

end Expr

end ExactCalc
