import ExactCalc.Proofs.Nesting

/-!
# The pieces of an argument list

The reader reads an argument as soon as it is complete. Here an argument list is
first cut into its pieces, without reading any, and reading a form is shown to be
reading its pieces from left to right up to the first rejection. What is known
about pieces, that they stand in the text of their form at their places and are at
least five characters shorter, then holds of all that is read.
-/

namespace ExactCalc

/-- A piece of text, with the number of characters before it. -/
structure Piece where
  place : ℕ
  text : List Char
  deriving DecidableEq, Repr

/-- The pieces in the text that remains. `passed` holds, last character first, what stands
between the place `start` and that text. -/
def cutPieces (level : ℤ) (start : ℕ) (passed : List Char) : List Char → List Piece
  | [] => []
  | c :: rest =>
    if c = '(' ∧ level = 0 then
      cutPieces (levelAfter level c) (start + passed.length + 1) [] rest
    else if (c = ',' ∨ c = ')') ∧ level = 1 then
      ⟨start, passed.reverse⟩ ::
        cutPieces (levelAfter level c) (start + passed.length + 1) [] rest
    else cutPieces (levelAfter level c) start (c :: passed) rest

/-- The pieces in what stands behind the keyword of a form, with their places in the text of the
form. -/
def Form.pieces (form : Form) (rest : List Char) : List Piece :=
  cutPieces 0 form.keyword.length [] rest

/-! ## Where pieces stand -/

/-- The text holds the piece at that place. -/
def StandsAt (place : ℕ) (piece text : List Char) : Prop :=
  ∃ before after, text = before ++ (piece ++ after) ∧ before.length = place

namespace StandsAt

theorem whole (text : List Char) : StandsAt 0 text text := ⟨[], [], by simp, rfl⟩

theorem trans {m n : ℕ} {s t u : List Char} (hs : StandsAt m s t) (ht : StandsAt n t u) :
    StandsAt (n + m) s u := by
  obtain ⟨before, after, rfl, rfl⟩ := hs
  obtain ⟨before', after', rfl, rfl⟩ := ht
  exact ⟨before' ++ before, after ++ after', by simp, by simp⟩

end StandsAt

section Cutting

variable {level : ℤ} {start : ℕ} {passed rest : List Char} {piece : Piece}

theorem standsAt_of_mem_cutPieces {before : List Char} (hstart : before.length = start)
    (h : piece ∈ cutPieces level start passed rest) :
    StandsAt piece.place piece.text (before ++ (passed.reverse ++ rest)) := by
  induction rest generalizing level start passed before with
  | nil => simp [cutPieces] at h
  | cons c rest ih =>
    -- What was passed, and this character, stand before the pieces that come behind it.
    have hfresh : (before ++ (passed.reverse ++ [c])).length = start + passed.length + 1 := by
      simp [hstart]
      omega
    have hbehind (h : piece ∈ cutPieces (levelAfter level c) (start + passed.length + 1) [] rest) :
        StandsAt piece.place piece.text (before ++ (passed.reverse ++ c :: rest)) := by
      simpa using ih hfresh h
    rw [cutPieces] at h
    split_ifs at h with hopen hend
    · exact hbehind h
    · rcases List.mem_cons.mp h with rfl | h
      · exact ⟨before, c :: rest, rfl, hstart⟩
      · exact hbehind h
    · simpa using ih hstart h

/-- A character that is passed over leads neither into an argument list nor out of one. -/
theorem one_le_levelAfter_iff {c : Char} (hopen : ¬(c = '(' ∧ level = 0))
    (hend : ¬((c = ',' ∨ c = ')') ∧ level = 1)) : 1 ≤ levelAfter level c ↔ 1 ≤ level := by
  constructor
  · exact one_le_of_levelAfter hopen
  · intro h
    unfold levelAfter
    split_ifs with hparen hclose
    · omega
    · have : level ≠ 1 := fun hone => hend ⟨.inr hclose, hone⟩
      omega
    · exact h

/-- Cutting takes the characters that bound a piece: two of them outside of an argument list, one
inside. -/
theorem length_of_mem_cutPieces (h : piece ∈ cutPieces level start passed rest) :
    (level ≤ 0 → piece.text.length + 2 ≤ rest.length) ∧
      (1 ≤ level → piece.text.length + 1 ≤ passed.length + rest.length) := by
  induction rest generalizing level start passed with
  | nil => simp [cutPieces] at h
  | cons c rest ih =>
    rw [cutPieces] at h
    simp only [List.length_cons]
    split_ifs at h with hopen hend
    · obtain ⟨rfl, rfl⟩ := hopen
      have hinside := (ih h).2 (by simp [levelAfter])
      simp only [List.length_nil] at hinside
      omega
    · obtain ⟨hc, rfl⟩ := hend
      rcases List.mem_cons.mp h with rfl | h
      · simp
      · have hnext := ih h
        simp only [List.length_nil] at hnext
        rcases hc with rfl | rfl <;> simp [levelAfter] at hnext <;> omega
    · have hnext := ih h
      have hlevel := one_le_levelAfter_iff hopen hend
      simp only [List.length_cons] at hnext
      omega

end Cutting

theorem Form.three_le_length_keyword (form : Form) : 3 ≤ form.keyword.length := by
  rcases form with (_ | _ | _ | _) | _ <;> decide

section FormPieces

variable {text rest : List Char} {form : Form} {piece : Piece}

theorem Form.standsAt_of_mem_pieces (h : Shape.ofText text = .call form rest)
    (hpiece : piece ∈ form.pieces rest) : StandsAt piece.place piece.text text := by
  rw [Shape.eq_append_of_call h]
  exact standsAt_of_mem_cutPieces form.keyword.length_toList hpiece

/-- A keyword and the two characters around a piece are not part of it. -/
theorem Form.length_of_mem_pieces (h : Shape.ofText text = .call form rest)
    (hpiece : piece ∈ form.pieces rest) : piece.text.length + 5 ≤ text.length := by
  have hrest := (length_of_mem_cutPieces hpiece).1 le_rfl
  have hkeyword := form.three_le_length_keyword
  rw [Shape.eq_append_of_call h, List.length_append, String.length_toList]
  omega

end FormPieces

/-- What holds of a text whenever it holds of its pieces holds of every text. -/
@[elab_as_elim]
theorem piece_induction {motive : List Char → Prop}
    (step : ∀ text, (∀ form rest, Shape.ofText text = .call form rest →
      ∀ piece ∈ form.pieces rest, motive piece.text) → motive text) (text : List Char) :
    motive text := by
  obtain ⟨n, hn⟩ : ∃ n, text.length = n := ⟨_, rfl⟩
  induction n using Nat.strong_induction_on generalizing text with
  | _ n ih =>
    refine step text fun form rest hshape piece hpiece => ?_
    have hlength := Form.length_of_mem_pieces hshape hpiece
    exact ih piece.text.length (by omega) piece.text rfl

/-! ## Reading pieces -/

/-- Cutting first and then reading the pieces in order gives what reading them one by one does. -/
theorem readArguments_eq_mapM (limit depth level offset : ℤ) (start : ℕ)
    (passed rest : List Char) :
    readArguments limit depth level (offset + start) passed rest =
      (cutPieces level start passed rest).mapM fun piece =>
        Expr.read limit piece.text (offset + piece.place) (depth + 1) := by
  induction rest generalizing level start passed with
  | nil => rw [readArguments_nil, cutPieces, List.mapM_nil]; rfl
  | cons c rest ih =>
    have hfresh : offset + start + passed.length + 1 =
        offset + ((start + passed.length + 1 : ℕ) : ℤ) := by
      push_cast
      ring
    rw [readArguments, cutPieces, hfresh, ih, ih]
    split_ifs with hopen hend
    · rfl
    · rw [List.mapM_cons]
    · rfl

theorem Expr.read_pieces {limit depth : ℤ} (hd : depth ≤ limit) {text rest : List Char}
    {form : Form} (h : Shape.ofText text = .call form rest) (offset : ℤ) :
    Expr.read limit text offset depth =
      ((form.pieces rest).mapM fun piece =>
        Expr.read limit piece.text (offset + piece.place) (depth + 1)) >>=
      form.assemble text offset := by
  rw [Expr.read_call hd h, readArguments_eq_mapM, Form.pieces]

theorem exists_of_bind_eq_error {ε α β : Type} {first : Except ε α} {next : α → Except ε β}
    {e : ε} (h : first >>= next = .error e) :
    first = .error e ∨ ∃ a, first = .ok a ∧ next a = .error e := by
  cases first with
  | ok a => exact .inr ⟨a, rfl, h⟩
  | error e' => exact .inl (by simpa [bind, Except.bind] using h)

theorem exists_of_mapM_eq_error {ε α β : Type} {f : α → Except ε β} {items : List α} {e : ε}
    (h : items.mapM f = .error e) : ∃ a ∈ items, f a = .error e := by
  induction items with
  | nil => cases h
  | cons a items ih =>
    rw [List.mapM_cons] at h
    rcases exists_of_bind_eq_error h with ha | ⟨b, -, h⟩
    · exact ⟨a, by simp, ha⟩
    · rcases exists_of_bind_eq_error h with hrest | ⟨bs, -, h⟩
      · obtain ⟨a', hmem, ha'⟩ := ih hrest
        exact ⟨a', by simp [hmem], ha'⟩
      · cases h

theorem Form.assemble_eq_error {form : Form} {text : List Char} {offset : ℤ}
    {arguments : List Expr} {r : Rejection} (h : form.assemble text offset arguments = .error r) :
    r = ⟨.tooFewArguments form, .ofList text, offset + form.keyword.length⟩ ∨
      form = .binding ∧ r = ⟨.unnamedBinding, .ofList text, offset + form.keyword.length⟩ := by
  unfold Form.assemble at h
  dsimp only at h
  split at h
  · cases h
  · cases h
  · cases h
    exact .inr ⟨rfl, rfl⟩
  · cases h
    exact .inl rfl

/-- Every rejection: a text that lies too deep, a literal out of range, an unreadable text, a
rejected piece of a form, a form with too few arguments, a `let` that declares no name. -/
inductive RejectedBy (limit : ℤ) (text : List Char) (offset depth : ℤ) : Rejection → Prop
  | tooDeep (h : limit < depth) :
      RejectedBy limit text offset depth ⟨.tooDeep limit, .ofList text, offset⟩
  | outOfRange : RejectedBy limit text offset depth ⟨.outOfRange, .ofList text, offset⟩
  | unreadable : RejectedBy limit text offset depth ⟨.unreadable, .ofList text, offset⟩
  | piece {form rest piece r} (hshape : Shape.ofText text = .call form rest)
      (hpiece : piece ∈ form.pieces rest)
      (h : Expr.read limit piece.text (offset + piece.place) (depth + 1) = .error r) :
      RejectedBy limit text offset depth r
  | tooFewArguments {form rest} (hshape : Shape.ofText text = .call form rest) :
      RejectedBy limit text offset depth
        ⟨.tooFewArguments form, .ofList text, offset + form.keyword.length⟩
  | unnamedBinding {rest} (hshape : Shape.ofText text = .call .binding rest) :
      RejectedBy limit text offset depth
        ⟨.unnamedBinding, .ofList text, offset + Form.binding.keyword.length⟩

theorem Expr.rejectedBy_of_read {limit offset depth : ℤ} {text : List Char} {r : Rejection}
    (h : Expr.read limit text offset depth = .error r) : RejectedBy limit text offset depth r := by
  by_cases hlimit : limit < depth
  · rw [Expr.read_of_lt hlimit] at h
    cases h
    exact .tooDeep hlimit
  have hd : depth ≤ limit := not_lt.mp hlimit
  cases hshape : Shape.ofText text with
  | literal negative digits =>
    rw [Expr.read_literal hd hshape] at h
    cases hword : Numeral.word32? negative digits with
    | none =>
      rw [hword] at h
      cases h
      exact .outOfRange
    | some n =>
      rw [hword] at h
      cases h
  | name =>
    rw [Expr.read_name hd hshape] at h
    cases h
  | unreadable =>
    rw [Expr.read_unreadable hd hshape] at h
    cases h
    exact .unreadable
  | call form rest =>
    rw [Expr.read_pieces hd hshape] at h
    rcases exists_of_bind_eq_error h with h | ⟨arguments, -, h⟩
    · obtain ⟨piece, hpiece, h⟩ := exists_of_mapM_eq_error h
      exact .piece hshape hpiece h
    · rcases Form.assemble_eq_error h with rfl | ⟨rfl, rfl⟩
      · exact .tooFewArguments hshape
      · exact .unnamedBinding hshape

end ExactCalc
